import Mathlib.Data.Int.Order.Basic
import Mathlib.Order.MinMax
import SparkPlug.Library.Runs

/- Timers that poll. A kind of action gives the time of the actions of that kind; an
   idle timer fires once, at a poll that finds the last activity too long ago. -/
namespace IdleTimers
open Runs

universe u v
variable {A : Type u} {T : Type v}

/-- The time of the last action of a kind. -/
def last (kind : A → Option T) (as : List A) : Option T := (as.filterMap kind).getLast?

theorem last_snoc (kind : A → Option T) (as : List A) (a : A) :
    last kind (as ++ [a]) = (kind a).or (last kind as) := by
  cases seen : kind a <;> simp [last, seen]

theorem last_source {kind : A → Option T} {as : List A} {t : T} (h : last kind as = some t) :
    ∃ a ∈ as, kind a = some t := by
  have member := List.mem_of_getLast? h
  exact List.mem_filterMap.mp member

/-- A place in a list with one more action is a place before it or the new action's. -/
theorem snoc_split {as front back : List A} {a b : A} (h : as ++ [a] = front ++ b :: back) :
    (∃ rest, as = front ++ b :: rest) ∨ (front = as ∧ b = a) := by
  rcases List.eq_nil_or_concat back with rfl | ⟨rest, final, rfl⟩
  · obtain ⟨same, new⟩ := List.append_inj' h rfl
    exact Or.inr ⟨same.symm, by simpa using new.symm⟩
  · rw [List.concat_eq_append, ← List.cons_append, ← List.append_assoc] at h
    exact Or.inl ⟨rest, (List.append_inj' h rfl).1⟩

section
variable [LinearOrder T] {time : A → Option T} {kinds : List (A → Option T)}
  {start t : T} {as bs : List A} {a : A}

/-- The latest of the start and the last action of each kind. -/
def latest (start : T) (kinds : List (A → Option T)) (as : List A) : T :=
  (kinds.filterMap fun kind => last kind as).foldr max start

theorem latest_le : latest start kinds as ≤ t ↔
    start ≤ t ∧ ∀ kind ∈ kinds, ∀ seen, last kind as = some seen → seen ≤ t := by
  induction kinds with
  | nil => simp [latest]
  | cons kind kinds ih =>
    unfold latest at ih ⊢
    cases seen : last kind as with
    | none => simp [seen, ih]
    | some earlier =>
      simp only [List.filterMap_cons, seen, List.foldr_cons, max_le_iff, ih, List.mem_cons,
        forall_eq_or_imp, Option.some.injEq, forall_eq']
      constructor
      · rintro ⟨first, begun, others⟩
        exact ⟨begun, first, others⟩
      · rintro ⟨begun, first, others⟩
        exact ⟨first, begun, others⟩

/-- An action of no kind is no activity. -/
theorem latest_skip (skips : ∀ kind ∈ kinds, kind a = none) :
    latest start kinds (as ++ [a]) = latest start kinds as := by
  have same : ∀ kind ∈ kinds, last kind (as ++ [a]) = last kind as := by
    intro kind member
    rw [last_snoc, skips kind member, Option.none_or]
  unfold latest
  rw [List.filterMap_congr same]

/-- The times of the actions are in order, from the start on. -/
def Ordered (time : A → Option T) (start : T) (as : List A) : Prop :=
  (start :: as.filterMap time).Pairwise (· ≤ ·)

instance : Decidable (Ordered time start as) :=
  inferInstanceAs (Decidable ((start :: as.filterMap time).Pairwise (· ≤ ·)))

theorem ordered_front (ordered : Ordered time start (as ++ bs)) : Ordered time start as := by
  unfold Ordered at ordered
  rw [List.filterMap_append, ← List.cons_append] at ordered
  exact (List.pairwise_append.mp ordered).1

theorem ordered_last (ordered : Ordered time start (as ++ [a])) (now : time a = some t) :
    start ≤ t ∧ ∀ b ∈ as, ∀ seen, time b = some seen → seen ≤ t := by
  unfold Ordered at ordered
  rw [List.filterMap_append, ← List.cons_append] at ordered
  have before := (List.pairwise_append.mp ordered).2.2
  have late : ∀ seen ∈ start :: as.filterMap time, seen ≤ t := by
    intro seen earlier
    exact before seen earlier t (by simp [now])
  constructor
  · exact late start (by simp)
  · intro b member seen read
    exact late seen (List.mem_cons_of_mem _ (List.mem_filterMap.mpr ⟨b, member, read⟩))

theorem latest_before (clocked : ∀ kind ∈ kinds, ∀ a t, kind a = some t → time a = some t)
    (ordered : Ordered time start (as ++ [a])) (now : time a = some t) :
    latest start kinds as ≤ t := by
  have bounds := ordered_last ordered now
  rw [latest_le]
  refine ⟨bounds.1, fun kind member seen found => ?_⟩
  obtain ⟨b, there, read⟩ := last_source found
  exact bounds.2 b there seen (clocked kind member b seen read)

/-- In a schedule in order, the action of a kind is the latest activity. -/
theorem latest_seen (clocked : ∀ kind ∈ kinds, ∀ a t, kind a = some t → time a = some t)
    (ordered : Ordered time start (as ++ [a])) {kind : A → Option T} (member : kind ∈ kinds)
    (seen : kind a = some t) : latest start kinds (as ++ [a]) = t := by
  have now := clocked kind member a t seen
  have bounds := ordered_last ordered now
  apply le_antisymm
  · rw [latest_le]
    refine ⟨bounds.1, fun other there found last => ?_⟩
    obtain ⟨b, taken, read⟩ := last_source last
    have read := clocked other there b found read
    rcases List.mem_append.mp taken with old | new
    · exact bounds.2 b old found read
    · rw [List.mem_singleton.mp new, now] at read
      exact (Option.some.inj read).ge
  · have least := (latest_le.mp (le_refl (latest start kinds (as ++ [a])))).2
    apply least kind member
    rw [last_snoc, seen, Option.some_or]

end

/-- What is activity for a timer, which polls see none, and how long it waits. -/
structure IdleTimer (A : Type u) where
  time : A → Option Int
  activity : List (A → Option Int)
  /- The polls that see something active; they are activity themselves. -/
  busy : A → Option Int
  idle : A → Option Int
  limit : Int
  waits : 0 ≤ limit
  clocked : ∀ kind ∈ busy :: activity, ∀ a now, kind a = some now → time a = some now
  polled : ∀ a now, idle a = some now → time a = some now
  quiet : ∀ a now, idle a = some now → ∀ kind ∈ busy :: activity, kind a = none

structure Timer where
  lastActive : Int
  armed : Bool := true
  fired : List Int := []

namespace IdleTimer

def poll (timer : IdleTimer A) (s : Timer) (now : Int) : Timer :=
  if timer.limit < now - s.lastActive then { s with armed := false, fired := s.fired ++ [now] }
  else s

def kinds (timer : IdleTimer A) : List (A → Option Int) := timer.busy :: timer.activity

/-- The time of an action of some kind of activity. -/
def seen (timer : IdleTimer A) (a : A) : Option Int := timer.kinds.findSome? (· a)

def step (timer : IdleTimer A) (s : Timer) (a : A) : Option Timer :=
  match timer.idle a with
  | some now => if s.armed then some (timer.poll s now) else none
  | none => some { s with lastActive := (timer.seen a).getD s.lastActive }

/-- The time of the last activity, or the start. -/
def latestActivity (timer : IdleTimer A) (start : Int) (as : List A) : Int :=
  latest start timer.kinds as

def lastPoll (timer : IdleTimer A) (start : Int) (as : List A) : Int :=
  (last (fun a => (timer.idle a).or (timer.busy a)) as).getD start

/-- A poll that sees no activity and comes too late after the last one. -/
def Due (timer : IdleTimer A) (start : Int) (as front : List A) (now : Int) : Prop :=
  (∃ a back, as = front ++ a :: back ∧ timer.idle a = some now) ∧
    timer.limit < now - timer.latestActivity start front

def FirstDue (timer : IdleTimer A) (start : Int) (as front : List A) (now : Int) : Prop :=
  timer.Due start as front now ∧ ∀ earlier t, ¬ timer.Due start front earlier t

variable {timer : IdleTimer A} {start now : Int} {as bs front : List A} {a : A}

/-- One more action is due only where it is a poll that is. -/
theorem due_snoc : timer.Due start (as ++ [a]) front now ↔ timer.Due start as front now ∨
    (front = as ∧ timer.idle a = some now ∧ timer.limit < now - timer.latestActivity start as) := by
  constructor
  · rintro ⟨⟨b, back, split, idle⟩, late⟩
    rcases snoc_split split with ⟨rest, before⟩ | ⟨rfl, rfl⟩
    · exact Or.inl ⟨⟨b, rest, before, idle⟩, late⟩
    · exact Or.inr ⟨rfl, idle, late⟩
  · rintro (⟨⟨b, back, rfl, idle⟩, late⟩ | ⟨rfl, idle, late⟩)
    · exact ⟨⟨b, back ++ [a], by simp, idle⟩, late⟩
    · exact ⟨⟨a, [], rfl, idle⟩, late⟩

/-- What the timer knows after a schedule: the last activity, and whether it was due. -/
structure Timed (timer : IdleTimer A) (start : Int) (as : List A) (s : Timer) : Prop where
  lastActive : s.lastActive = timer.latestActivity start as
  armed : s.armed = true ↔ s.fired = []
  spared : s.fired = [] → ∀ front now, ¬ timer.Due start as front now
  fired : ∀ now, now ∈ s.fired ↔ ∃ front, timer.FirstDue start as front now
  once : s.fired.length ≤ 1
  recent : s.fired = [] →
    timer.lastPoll start as ≤ timer.latestActivity start as + timer.limit

theorem timed_start : timer.Timed start [] { lastActive := start } := by
  have never : ∀ front now, ¬ timer.Due start [] front now := by
    rintro front now ⟨⟨a, back, split, _⟩, _⟩
    simp at split
  have begun : timer.latestActivity start [] = start := by
    simp [latestActivity, latest, last]
  constructor
  · exact begun.symm
  · simp
  · intro _
    exact never
  · intro now
    simp [FirstDue, never]
  · simp
  · intro _
    have waits := timer.waits
    have first : timer.lastPoll start [] = start := rfl
    omega

/-- What an action does to the timer. -/
inductive Move (timer : IdleTimer A) (s : Timer) (a : A) : Timer → Prop where
  | fires (now : Int) (idle : timer.idle a = some now) (armed : s.armed = true)
      (late : timer.limit < now - s.lastActive) :
      Move timer s a { s with armed := false, fired := s.fired ++ [now] }
  | waits (now : Int) (idle : timer.idle a = some now) (armed : s.armed = true)
      (early : ¬ timer.limit < now - s.lastActive) : Move timer s a s
  | active (kind : A → Option Int) (member : kind ∈ timer.kinds) (now : Int)
      (seen : kind a = some now) (other : timer.idle a = none) :
      Move timer s a { s with lastActive := now }
  | skips (unseen : ∀ kind ∈ timer.kinds, kind a = none) (other : timer.idle a = none) :
      Move timer s a s

theorem step_move {s s' : Timer} (next : timer.step s a = some s') : timer.Move s a s' := by
  unfold step at next
  split at next
  · rename_i now idle
    obtain ⟨armed, eq⟩ := Option.ite_none_right_eq_some.mp next
    cases eq
    unfold poll
    split
    · rename_i late
      exact .fires now idle armed late
    · rename_i early
      exact .waits now idle armed early
  · rename_i other
    cases next
    cases found : timer.seen a with
    | none => exact .skips (List.findSome?_eq_none_iff.mp found) other
    | some now =>
      obtain ⟨kind, member, seen⟩ := List.exists_of_findSome?_eq_some found
      exact .active kind member now seen other

theorem last_poll_snoc : timer.lastPoll start (as ++ [a]) =
    ((timer.idle a).or (timer.busy a)).getD (timer.lastPoll start as) := by
  unfold lastPoll
  rw [last_snoc]
  cases (timer.idle a).or (timer.busy a) <;> rfl

/-- After an action that is not due, the due polls are those before it. -/
theorem due_kept (early : ∀ t, timer.idle a = some t →
    ¬ timer.limit < t - timer.latestActivity start as) :
    timer.Due start (as ++ [a]) front now ↔ timer.Due start as front now := by
  rw [due_snoc]
  constructor
  · rintro (before | ⟨_, idle, late⟩)
    · exact before
    · exact absurd late (early now idle)
  · exact Or.inl

theorem timed_kept {s : Timer} (before : timer.Timed start as s)
    (early : ∀ t, timer.idle a = some t → ¬ timer.limit < t - timer.latestActivity start as)
    (active : now = timer.latestActivity start (as ++ [a]))
    (recent : s.fired = [] →
      timer.lastPoll start (as ++ [a]) ≤ timer.latestActivity start (as ++ [a]) + timer.limit) :
    timer.Timed start (as ++ [a]) { s with lastActive := now } := by
  constructor
  · exact active
  · exact before.armed
  · intro never front t due
    exact before.spared never front t ((due_kept early).mp due)
  · intro t
    rw [before.fired]
    simp only [FirstDue, due_kept early]
  · exact before.once
  · exact recent

theorem timed_step {s s' : Timer} (before : timer.Timed start as s)
    (ordered : Ordered timer.time start (as ++ [a])) (next : timer.step s a = some s') :
    timer.Timed start (as ++ [a]) s' := by
  have begun := before.lastActive
  cases step_move next with
  | fires now idle armed late =>
    have never := before.armed.mp armed
    have same : timer.latestActivity start (as ++ [a]) = timer.latestActivity start as :=
      latest_skip (timer.quiet a now idle)
    rw [begun] at late
    constructor
    · exact begun.trans same.symm
    · simp
    · simp
    · intro t
      rw [never, List.nil_append, List.mem_singleton]
      constructor
      · rintro rfl
        exact ⟨as, due_snoc.mpr (Or.inr ⟨rfl, idle, late⟩), before.spared never⟩
      · rintro ⟨front, due, _⟩
        rcases due_snoc.mp due with earlier | ⟨_, read, _⟩
        · exact absurd earlier (before.spared never front t)
        · rw [idle] at read
          exact (Option.some.inj read).symm
    · simp [never]
    · simp
  | waits now idle armed early =>
    have same : timer.latestActivity start (as ++ [a]) = timer.latestActivity start as :=
      latest_skip (timer.quiet a now idle)
    rw [begun] at early
    apply timed_kept before
    · intro t read
      rw [idle] at read
      cases read
      exact early
    · exact begun.trans same.symm
    · intro _
      rw [last_poll_snoc, idle, Option.some_or, Option.getD_some, same]
      omega
  | active kind member now seen other =>
    have latest : timer.latestActivity start (as ++ [a]) = now :=
      latest_seen timer.clocked ordered member seen
    apply timed_kept before
    · simp [other]
    · exact latest.symm
    · intro never
      rw [latest, last_poll_snoc, other, Option.none_or]
      have later : timer.latestActivity start as ≤ now :=
        latest_before timer.clocked ordered (timer.clocked kind member a now seen)
      have recent := before.recent never
      have waits := timer.waits
      cases busy : timer.busy a with
      | none =>
        rw [Option.getD_none]
        omega
      | some poll =>
        have read := timer.clocked timer.busy (by simp) a poll busy
        rw [timer.clocked kind member a now seen] at read
        cases read
        rw [Option.getD_some]
        omega
  | skips unseen other =>
    have same : timer.latestActivity start (as ++ [a]) = timer.latestActivity start as :=
      latest_skip unseen
    apply timed_kept before
    · simp [other]
    · exact begun.trans same.symm
    · intro never
      have busy := unseen timer.busy (by simp [kinds])
      rw [same, last_poll_snoc, other, busy]
      exact before.recent never

theorem timed_run {s : Timer} (ordered : Ordered timer.time start as)
    (run : exec timer.step { lastActive := start } as = some s) : timer.Timed start as s := by
  induction as using List.reverseRecOn generalizing s with
  | nil =>
    cases run
    exact timed_start
  | append_singleton as a ih =>
    obtain ⟨u, before, next⟩ := exec_snoc.mp run
    exact timed_step (ih (ordered_front ordered) before) ordered next

/-- While the timer is armed, a poll is the first due one exactly when the timer fires. -/
theorem first_due_iff {s : Timer} {back : List A} (before : timer.Timed start front s)
    (armed : s.armed = true) (split : as = front ++ a :: back) (idle : timer.idle a = some now) :
    timer.FirstDue start as front now ↔ timer.limit < now - s.lastActive := by
  have begun := before.lastActive
  have spared := before.spared (before.armed.mp armed)
  constructor
  · rintro ⟨⟨_, late⟩, _⟩
    rw [begun]
    exact late
  · intro late
    rw [begun] at late
    exact ⟨⟨⟨a, back, split, idle⟩, late⟩, spared⟩

/-- With polls close together the timer cannot be armed long after the last activity. -/
theorem armed_recent {s : Timer} {gap : Int} (before : timer.Timed start as s)
    (armed : s.armed = true) (close : now - timer.lastPoll start as ≤ gap) :
    now - timer.latestActivity start as ≤ timer.limit + gap := by
  have recent := before.recent (before.armed.mp armed)
  omega

end IdleTimer

end IdleTimers
