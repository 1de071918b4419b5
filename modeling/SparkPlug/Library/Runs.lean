import Mathlib.Data.List.Basic
import Mathlib.Data.List.Induction

/- Finite runs of a deterministic labelled system. The step function gives none
   where an action is not enabled; a run is the list of the actions taken. -/
namespace Runs

universe u v w
variable {S : Type u} {A : Type v} {H : Type w}

def exec (step : S → A → Option S) : S → List A → Option S
  | s, [] => some s
  | s, a :: as => (step s a).bind fun s' => exec step s' as

/-- Every action of the list is taken in a state that meets `ok`. -/
def Along (step : S → A → Option S) (ok : S → A → Prop) : S → List A → Prop
  | _, [] => True
  | s, a :: as => ok s a ∧ ∀ s', step s a = some s' → Along step ok s' as

/-- Conditions that can be decided in each state can be decided along a run. -/
instance decidableAlong (step : S → A → Option S) (ok : S → A → Prop)
    [each : ∀ s a, Decidable (ok s a)] : ∀ s as, Decidable (Along step ok s as)
  | _, [] => isTrue trivial
  | s, a :: as =>
    match next : step s a with
    | none => decidable_of_iff (ok s a) (by simp [Along, next])
    | some s' =>
      have := decidableAlong step ok s' as
      decidable_of_iff (ok s a ∧ Along step ok s' as) (by simp [Along, next])

/-- The step function carries `inv` over every action taken in a state that meets `ok`. -/
def Preserves (step : S → A → Option S) (ok : S → A → Prop) (inv : S → Prop) : Prop :=
  ∀ s a s', inv s → ok s a → step s a = some s' → inv s'

section
variable {step : S → A → Option S} {ok : S → A → Prop} {inv : S → Prop}

theorem exec_cons {s t : S} {a : A} {as : List A} :
    exec step s (a :: as) = some t ↔ ∃ s', step s a = some s' ∧ exec step s' as = some t := by
  simp [exec, Option.bind_eq_some_iff]

theorem exec_append {s t : S} {as bs : List A} :
    exec step s (as ++ bs) = some t ↔ ∃ u, exec step s as = some u ∧ exec step u bs = some t := by
  induction as generalizing s with
  | nil => simp [exec]
  | cons a as ih =>
    simp only [List.cons_append, exec_cons, ih]
    constructor
    · rintro ⟨s', hs, u, hu, ht⟩
      exact ⟨u, ⟨s', hs, hu⟩, ht⟩
    · rintro ⟨u, ⟨s', hs, hu⟩, ht⟩
      exact ⟨s', hs, u, hu, ht⟩

theorem exec_snoc {s t : S} {a : A} {as : List A} :
    exec step s (as ++ [a]) = some t ↔ ∃ u, exec step s as = some u ∧ step u a = some t := by
  rw [exec_append]
  simp [exec]

/-- The state in which an action of a run is taken, and the one that it leads to. -/
theorem exec_at {s t : S} {a : A} {as bs : List A} (run : exec step s (as ++ a :: bs) = some t) :
    ∃ u v, exec step s as = some u ∧ step u a = some v ∧ exec step v bs = some t := by
  obtain ⟨u, before, rest⟩ := exec_append.mp run
  obtain ⟨v, next, after⟩ := exec_cons.mp rest
  exact ⟨u, v, before, next, after⟩

theorem along_append {s : S} {as bs : List A} :
    Along step ok s (as ++ bs) ↔
      Along step ok s as ∧ ∀ u, exec step s as = some u → Along step ok u bs := by
  induction as generalizing s with
  | nil => simp [Along, exec]
  | cons a as ih =>
    simp only [List.cons_append, Along, exec_cons, ih]
    constructor
    · rintro ⟨first, rest⟩
      refine ⟨⟨first, fun s' hs => (rest s' hs).1⟩, ?_⟩
      rintro u ⟨s', hs, hu⟩
      exact (rest s' hs).2 u hu
    · rintro ⟨⟨first, rest⟩, last⟩
      exact ⟨first, fun s' hs => ⟨rest s' hs, fun u hu => last u ⟨s', hs, hu⟩⟩⟩

theorem along_and {other : S → A → Prop} {s : S} {as : List A} (left : Along step ok s as)
    (right : Along step other s as) : Along step (fun s a => ok s a ∧ other s a) s as := by
  induction as generalizing s with
  | nil => trivial
  | cons a as ih =>
    exact ⟨⟨left.1, right.1⟩, fun s' hs => ih (left.2 s' hs) (right.2 s' hs)⟩

theorem along_imp {other : S → A → Prop} (weaker : ∀ s a, ok s a → other s a) {s : S}
    {as : List A} (meets : Along step ok s as) : Along step other s as := by
  induction as generalizing s with
  | nil => trivial
  | cons a as ih => exact ⟨weaker s a meets.1, fun s' next => ih (meets.2 s' next)⟩

/- A condition on the actions alone is met along every run that uses no other action. -/
theorem along_of_mem {cond : A → Prop} {s : S} {as : List A} (all : ∀ a ∈ as, cond a) :
    Along step (fun _ a => cond a) s as := by
  induction as generalizing s with
  | nil => trivial
  | cons a as ih =>
    exact ⟨all a (by simp), fun s' _ => ih fun b hb => all b (by simp [hb])⟩

theorem along_true {s : S} {as : List A} : Along step (fun _ _ => True) s as :=
  along_of_mem fun _ _ => trivial

theorem invariant_run (pres : Preserves step ok inv) {s t : S} {as : List A} (start : inv s)
    (meets : Along step ok s as) (run : exec step s as = some t) : inv t := by
  induction as generalizing s with
  | nil =>
    cases run
    exact start
  | cons a as ih =>
    obtain ⟨s', first, rest⟩ := exec_cons.mp run
    exact ih (pres s a s' start meets.1 first) (meets.2 s' first) rest

/-- Two conditions that agree wherever an invariant holds are met along the same runs. -/
theorem along_iff {left right : S → A → Prop} (pres : Preserves step ok inv)
    (agree : ∀ s a, inv s → (left s a ↔ right s a)) {s : S} {as : List A} (start : inv s)
    (meets : Along step ok s as) : Along step left s as ↔ Along step right s as := by
  induction as generalizing s with
  | nil => exact Iff.rfl
  | cons a as ih =>
    have later : ∀ s', step s a = some s' →
        (Along step left s' as ↔ Along step right s' as) := by
      intro s' next
      exact ih (pres s a s' start meets.1 next) (meets.2 s' next)
    constructor
    · intro along
      exact ⟨(agree s a start).mp along.1, fun s' next => (later s' next).mp (along.2 s' next)⟩
    · intro along
      exact ⟨(agree s a start).mpr along.1, fun s' next => (later s' next).mpr (along.2 s' next)⟩

/-- Where nothing makes up for a broken condition, a run meets the condition exactly when it
does not end in a lost state. -/
theorem along_iff_not_lost {side : S → A → Prop} {good lost : S → Prop}
    (keeps : Preserves step (fun s a => side s a ∧ ok s a) good)
    (loses : ∀ s a s', good s → side s a → ¬ ok s a → step s a = some s' → lost s')
    (stays : Preserves step side lost) (apart : ∀ s, good s → ¬ lost s) {s t : S} {as : List A}
    (start : good s) (sides : Along step side s as) (run : exec step s as = some t) :
    Along step ok s as ↔ ¬ lost t := by
  induction as generalizing s with
  | nil =>
    cases run
    exact ⟨fun _ => apart _ start, fun _ => trivial⟩
  | cons a as ih =>
    obtain ⟨s', next, rest⟩ := exec_cons.mp run
    by_cases met : ok s a
    · have later := ih (keeps s a s' start ⟨sides.1, met⟩ next) (sides.2 s' next) rest
      constructor
      · intro along
        exact later.mp (along.2 s' next)
      · intro found
        refine ⟨met, fun u same => ?_⟩
        cases next.symm.trans same
        exact later.mpr found
    · have gone := invariant_run stays (loses s a s' start sides.1 met next) (sides.2 s' next) rest
      constructor
      · intro along
        exact absurd along.1 met
      · intro found
        exact absurd gone found

/-- Where a step keeps a good state good exactly if it meets the condition, a run meets the
condition exactly if it comes through good states only. -/
theorem along_iff_throughout {side : S → A → Prop} {base good : S → Prop}
    (keeps : Preserves step side base)
    (agrees : ∀ s a s', base s → good s → side s a → step s a = some s' → (ok s a ↔ good s'))
    {s t : S} {as : List A} (start : base s) (first : good s) (sides : Along step side s as)
    (run : exec step s as = some t) : Along step ok s as ↔
      ∀ before after u, as = before ++ after → exec step s before = some u → good u := by
  induction as generalizing s with
  | nil =>
    refine iff_of_true trivial fun before after u split reached => ?_
    obtain ⟨rfl, rfl⟩ := List.append_eq_nil_iff.mp split.symm
    cases reached
    exact first
  | cons a as ih =>
    obtain ⟨s', next, rest⟩ := exec_cons.mp run
    have step_iff := agrees s a s' start first sides.1 next
    have later := fun good' => ih (keeps s a s' start sides.1 next) good' (sides.2 s' next) rest
    constructor
    · intro along before after u split reached
      cases before with
      | nil =>
        cases reached
        exact first
      | cons b before =>
        obtain ⟨rfl, tail⟩ := List.cons_eq_cons.mp split
        obtain ⟨v, same, reached⟩ := exec_cons.mp reached
        cases next.symm.trans same
        exact (later (step_iff.mp along.1)).mp (along.2 s' next) before after u tail reached
    · intro throughout
      have good' : good s' := throughout [a] as s' rfl (exec_cons.mpr ⟨s', next, rfl⟩)
      refine ⟨step_iff.mpr good', fun v same => ?_⟩
      cases next.symm.trans same
      refine (later good').mpr fun before after u split reached => ?_
      exact throughout (a :: before) after u (by rw [split]; rfl)
        (exec_cons.mpr ⟨s', next, reached⟩)

/-- A computed run reaches a state, and what is computed of that state holds of it. -/
theorem computed_run {s : S} {as : List A} {p : S → Bool}
    (h : (exec step s as).any p = true) : ∃ t, exec step s as = some t ∧ p t = true := by
  cases run : exec step s as with
  | none => simp [run] at h
  | some t => exact ⟨t, rfl, by simpa [run] using h⟩

/-- Induction along a run with the actions taken so far in view. -/
theorem past_induction {start : S} {holds : List A → S → Prop} (first : holds [] start)
    (one : ∀ as s a s', exec step start as = some s → holds as s → ok s a →
      step s a = some s' → holds (as ++ [a]) s') {as : List A} {t : S}
    (meets : Along step ok start as) (run : exec step start as = some t) : holds as t := by
  induction as using List.reverseRecOn generalizing t with
  | nil =>
    cases run
    exact first
  | append_singleton as a ih =>
    obtain ⟨s, before, last⟩ := exec_snoc.mp run
    obtain ⟨earlier, now⟩ := along_append.mp meets
    exact one as s a t before (ih earlier before) (now s before).1 last

/-- A system whose every step is the step of another one on the same action. -/
theorem exec_projected {T : Type*} {other : T → A → Option T} (proj : S → T)
    (one : ∀ s a s', inv s → ok s a → step s a = some s' →
      inv s' ∧ other (proj s) a = some (proj s'))
    {s t : S} {as : List A} (start : inv s) (meets : Along step ok s as)
    (run : exec step s as = some t) : inv t ∧ exec other (proj s) as = some (proj t) := by
  induction as generalizing s with
  | nil =>
    cases run
    exact ⟨start, rfl⟩
  | cons a as ih =>
    obtain ⟨s', first, rest⟩ := exec_cons.mp run
    obtain ⟨kept, next⟩ := one s a s' start meets.1 first
    obtain ⟨last, follows⟩ := ih kept (meets.2 s' first) rest
    exact ⟨last, exec_cons.mpr ⟨proj s', next, follows⟩⟩

/-- Actions that change nothing can be dropped from a run. -/
theorem exec_filter {keep : A → Bool}
    (silent : ∀ s a, keep a = false → step s a = some s) (s : S) (as : List A) :
    exec step s (as.filter keep) = exec step s as := by
  induction as generalizing s with
  | nil => rfl
  | cons a as ih =>
    cases kept : keep a with
    | true =>
      rw [List.filter_cons_of_pos kept]
      simp only [exec, ih]
    | false =>
      have dropped := silent s a kept
      rw [List.filter_cons_of_neg (by simp [kept])]
      simp only [exec, dropped, Option.bind_some, ih]

end

/-- A system whose steps are stutters or steps of another one runs along its runs. -/
theorem exec_simulated {T B : Type*} {other : T → B → Option T} (proj : S → T)
    (one : ∀ s a s', ok s a → step s a = some s' →
      proj s' = proj s ∨ ∃ b, other (proj s) b = some (proj s'))
    {s t : S} {as : List A} (meets : Along step ok s as) (run : exec step s as = some t) :
    ∃ bs, exec other (proj s) bs = some (proj t) := by
  induction as generalizing s with
  | nil =>
    cases run
    exact ⟨[], rfl⟩
  | cons a as ih =>
    obtain ⟨s', first, rest⟩ := exec_cons.mp run
    obtain ⟨bs, driven⟩ := ih (meets.2 s' first) rest
    rcases one s a s' meets.1 first with same | ⟨b, next⟩
    · exact ⟨bs, same ▸ driven⟩
    · exact ⟨b :: bs, exec_cons.mpr ⟨_, next, driven⟩⟩

/- History variables: `observe` sees each action in the state it is taken in and
   cannot influence the system. -/
section
variable (step : S → A → Option S) (observe : S → A → H → H)

def withHistory : S × H → A → Option (S × H)
  | (s, h), a => (step s a).map fun s' => (s', observe s a h)

variable {step} {observe}

theorem with_history_step {s s' : S} {h h' : H} {a : A} :
    withHistory step observe (s, h) a = some (s', h') ↔
      step s a = some s' ∧ h' = observe s a h := by
  simp only [withHistory, Option.map_eq_some_iff, Prod.mk.injEq]
  constructor
  · rintro ⟨t, hs, rfl, rfl⟩
    exact ⟨hs, rfl⟩
  · rintro ⟨hs, rfl⟩
    exact ⟨s', hs, rfl, rfl⟩

end

end Runs
