import SparkPlug.Launches
import SparkPlug.LaunchHistory

/-!
The launches that `track_launch` waits for, on a clock that counts seconds: a launch is over
once spark-submit has failed or the launch timeout has passed. The clock is that of all
servers.
-/
namespace SparkPlug
open KeyedTable Runs Shared Tasks

/-- A launch that a server waits for, with the exit of spark-submit once there is one. -/
structure TrackedLaunch where
  server : Nat
  id : Int
  startedAt : Nat
  exit : Option Bool := none
  deriving DecidableEq

/-- A failed exit ends the wait, and after a successful one only the timeout does. -/
def TrackedLaunch.due (launchTimeout now : Nat) (launch : TrackedLaunch) : Bool :=
  launch.exit = some false || launch.startedAt + launchTimeout ≤ now

structure Timed where
  cluster : Cluster
  now : Nat := 0
  tracked : List TrackedLaunch := []

inductive TimedAction where
  | move (m : Move Action)
  /- spark-submit exits. -/
  | exit (k : Nat) (success : Bool)
  | tick

namespace Timed

def start (db : Db) : Timed := { cluster := .start db }

section
variable (launchTimeout : Nat)

def completes (now i : Nat) (id : Int) (launch : TrackedLaunch) : Bool :=
  launch.server = i && launch.id = id && launch.due launchTimeout now

/-- A watcher goes on once the launch that it waits for is over. -/
def ready (s : Timed) : Move Action → Bool
  | .act i (.routes (.watcherDone id _)) => s.tracked.any (completes launchTimeout s.now i id)
  | _ => true

def track (s : Timed) : Move Action → List TrackedLaunch
  | .act i (.routes (.createLaunched n true)) =>
    match s.cluster.locals[i]?.bind (launchOf · (.routes (.createLaunched n true))) with
    | some app => { server := i, id := app.id, startedAt := s.now } :: s.tracked
    | none => s.tracked
  | .act i (.routes (.watcherDone id _)) =>
    s.tracked.eraseP (completes launchTimeout s.now i id)
  | .act i .restart => s.tracked.filter (·.server ≠ i)
  | _ => s.tracked

def step (s : Timed) : TimedAction → Option Timed
  | .move m =>
    if s.ready launchTimeout m then
      (Cluster.step s.cluster m).map fun cluster =>
        { s with cluster, tracked := s.track launchTimeout m }
    else none
  | .exit k success =>
    match s.tracked[k]? with
    | some launch =>
      if launch.exit.isNone then
        some { s with tracked := s.tracked.set k { launch with exit := some success } }
      else none
    | none => none
  | .tick => some { s with now := s.now + 1 }

end

/-- The applications that the watchers of a server wait for. -/
def watched (tracked : List TrackedLaunch) (i : Nat) : List Int :=
  ((tracked.map fun launch => (launch.server, launch.id)).filter (·.1 = i)).map (·.2)

end Timed

/-- Time does not pass while a launch that is over waits for its watcher. -/
def Prompt (launchTimeout : Nat) (s : Timed) : TimedAction → Prop
  | .tick => ∀ launch ∈ s.tracked, launch.due launchTimeout s.now = false
  | _ => True

instance (launchTimeout : Nat) (s : Timed) : ∀ a, Decidable (Prompt launchTimeout s a)
  | .tick => inferInstanceAs (Decidable (∀ launch ∈ s.tracked,
      launch.due launchTimeout s.now = false))
  | .move _ | .exit _ _ => inferInstanceAs (Decidable True)

/-- The store answers the update of a watcher. -/
def Answered : TimedAction → Prop
  | .move (.act _ (.routes (.watcherDone _ stored))) => stored = true
  | _ => True

/-- What an action does, by action and state after it. -/
inductive TimedStep (launchTimeout : Nat) (s : Timed) : TimedAction → Timed → Prop where
  | move {m : Move Action} {cluster : Cluster} (ready : s.ready launchTimeout m = true)
      (moved : Cluster.step s.cluster m = some cluster) :
      TimedStep launchTimeout s (.move m)
        { s with cluster, tracked := s.track launchTimeout m }
  | exit {k : Nat} {launch : TrackedLaunch} (success : Bool)
      (at_k : s.tracked[k]? = some launch) :
      TimedStep launchTimeout s (.exit k success)
        { s with tracked := s.tracked.set k { launch with exit := some success } }
  | tick : TimedStep launchTimeout s .tick { s with now := s.now + 1 }

theorem timed_step {launchTimeout : Nat} {s t : Timed} {a : TimedAction}
    (h : s.step launchTimeout a = some t) : TimedStep launchTimeout s a t := by
  cases a with
  | move m =>
    simp only [Timed.step] at h
    split at h
    · rename_i ready
      obtain ⟨cluster, moved, rfl⟩ := Option.map_eq_some_iff.mp h
      exact .move ready moved
    · simp at h
  | exit k success =>
    simp only [Timed.step] at h
    split at h
    · rename_i launch at_k
      split at h
      · cases h
        exact .exit success at_k
      · simp at h
    · simp at h
  | tick =>
    cases h
    exact .tick

/- Every watcher of a running server waits for a launch that is tracked. -/

structure Synced (s : Timed) : Prop where
  servers : ∀ launch ∈ s.tracked, launch.server < s.cluster.locals.length
  watchers : ∀ (i : Nat) process, s.cluster.locals[i]? = some process →
    process.routes.watchers.Perm (Timed.watched s.tracked i)

theorem watchers_step {db : Db} {s : Routes} {a : RoutesAction} {outcome : RoutesOutcome}
    (h : s.step db a = some outcome) :
    (∃ n app, a = .createLaunched n true ∧ s.creates[n]? = some (.launching app) ∧
      outcome.routes.watchers = app.id :: s.watchers) ∨
    (∃ id stored, a = .watcherDone id stored ∧
      outcome.routes.watchers = s.watchers.erase id) ∨
    (outcome.routes.watchers = s.watchers ∧ (∀ n, a ≠ .createLaunched n true) ∧
      ∀ id stored, a ≠ .watcherDone id stored) := by
  cases routes_step h with
  | launched n app at_n => exact Or.inl ⟨n, app, rfl, at_n, rfl⟩
  | watcherDone id stored live => exact Or.inr (Or.inl ⟨id, stored, rfl, rfl⟩)
  | _ => exact Or.inr (Or.inr ⟨rfl, by simp, by simp⟩)

theorem watched_erase {launchTimeout now i : Nat} {id : Int} {tracked : List TrackedLaunch}
    (ended : tracked.any (Timed.completes launchTimeout now i id) = true) :
    (Timed.watched tracked i).Perm
        (id :: Timed.watched (tracked.eraseP (Timed.completes launchTimeout now i id)) i) ∧
      ∀ j, j ≠ i → Timed.watched (tracked.eraseP (Timed.completes launchTimeout now i id)) j =
        Timed.watched tracked j := by
  obtain ⟨found, member, due⟩ := List.any_eq_true.mp ended
  obtain ⟨launch, before, after, _, ends, split, erased⟩ := List.exists_of_eraseP member due
  simp only [Timed.completes, Bool.and_eq_true, decide_eq_true_eq] at ends
  obtain ⟨⟨rfl, rfl⟩, _⟩ := ends
  rw [erased, split]
  constructor
  · simp [Timed.watched, List.perm_middle]
  · intro j other
    simp [Timed.watched, other.symm]

/-- What the step of a server does to its watchers and to the launches they wait for. -/
inductive TrackStep (launchTimeout : Nat) (s : Timed) (i : Nat) (l l' : Process) :
    Action → List TrackedLaunch → Prop where
  | launched {n : Nat} {app : Model} (launching : l.routes.creates[n]? = some (.launching app))
      (watchers : l'.routes.watchers = app.id :: l.routes.watchers) :
      TrackStep launchTimeout s i l l' (.routes (.createLaunched n true))
        ({ server := i, id := app.id, startedAt := s.now } :: s.tracked)
  | done {id : Int} {stored : Bool}
      (ended : s.tracked.any (Timed.completes launchTimeout s.now i id) = true)
      (watchers : l'.routes.watchers = l.routes.watchers.erase id) :
      TrackStep launchTimeout s i l l' (.routes (.watcherDone id stored))
        (s.tracked.eraseP (Timed.completes launchTimeout s.now i id))
  | restarted (watchers : l'.routes.watchers = []) :
      TrackStep launchTimeout s i l l' .restart (s.tracked.filter (·.server ≠ i))
  | other {a : Action} (watchers : l'.routes.watchers = l.routes.watchers) :
      TrackStep launchTimeout s i l l' a s.tracked

theorem track_step {launchTimeout i : Nat} {s : Timed} {l l' : Process} {a : Action} {g' : Store}
    (there : s.cluster.locals[i]? = some l)
    (h : processStep s.cluster.shared l a = some (g', l'))
    (ready : s.ready launchTimeout (.act i a) = true) :
    TrackStep launchTimeout s i l l' a (s.track launchTimeout (.act i a)) := by
  rcases process_routes h with ⟨act, outcome, rfl, run, routes⟩ | ⟨rfl, routes⟩ |
    ⟨others, running, routes⟩
  · rcases watchers_step run with ⟨n, app, rfl, at_n, new⟩ | ⟨id, stored, rfl, rest⟩ |
      ⟨kept, launched, done⟩
    · have tracks : s.track launchTimeout (.act i (.routes (.createLaunched n true))) =
          { server := i, id := app.id, startedAt := s.now } :: s.tracked := by
        simp [Timed.track, there, launchOf, at_n, CreateApp.pending]
      rw [tracks]
      exact .launched at_n (by rw [routes, new])
    · exact .done ready (by rw [routes, rest])
    · have tracks : s.track launchTimeout (.act i (.routes act)) = s.tracked := by
        unfold Timed.track
        split
        · rename_i n same
          cases same
          exact absurd rfl (launched n)
        · rename_i id stored same
          cases same
          exact absurd rfl (done id stored)
        · simp_all
        · rfl
      rw [tracks]
      exact .other (by rw [routes, kept])
  · exact .restarted (by rw [routes])
  · have tracks : s.track launchTimeout (.act i a) = s.tracked := by
      cases a with
      | routes act => exact absurd rfl (others act)
      | restart => exact absurd rfl running
      | check act => rfl
      | proxy act => rfl
    rw [tracks]
    exact .other (by rw [routes])

/-- A step of a server changes what its own watchers wait for, and nothing else. -/
theorem track_synced {launchTimeout i : Nat} {s : Timed} {l l' : Process} {a : Action}
    {tracked : List TrackedLaunch} (step : TrackStep launchTimeout s i l l' a tracked)
    (before : l.routes.watchers.Perm (Timed.watched s.tracked i)) :
    l'.routes.watchers.Perm (Timed.watched tracked i) ∧
      (∀ j, j ≠ i → Timed.watched tracked j = Timed.watched s.tracked j) ∧
      ∀ launch ∈ tracked, launch ∈ s.tracked ∨ launch.server = i := by
  cases step with
  | @launched n app launching watchers =>
    refine ⟨?_, fun j other => ?_, fun launch member => ?_⟩
    · rw [watchers]
      simpa [Timed.watched] using before
    · simp [Timed.watched, other.symm]
    · rcases List.mem_cons.mp member with rfl | old
      · exact Or.inr rfl
      · exact Or.inl old
  | @done id stored ended watchers =>
    obtain ⟨mine, others⟩ := watched_erase ended
    refine ⟨?_, others, fun launch member => Or.inl (List.mem_of_mem_eraseP member)⟩
    rw [watchers]
    have erased := (before.trans mine).erase id
    rwa [List.erase_cons_head] at erased
  | restarted watchers =>
    refine ⟨?_, fun j other => ?_, fun launch member => Or.inl (List.mem_of_mem_filter member)⟩
    · rw [watchers]
      simp [Timed.watched, List.filter_map, List.filter_filter]
    · simp only [Timed.watched, List.filter_map, List.filter_filter]
      congr 2
      refine List.filter_congr fun launch _ => ?_
      simp only [Function.comp_apply, Bool.and_eq_left_iff_imp, decide_eq_true_eq]
      intro same
      simp [same, other]
  | other watchers =>
    rw [watchers]
    exact ⟨before, fun _ _ => rfl, fun _ member => Or.inl member⟩

theorem synced_step {launchTimeout : Nat} {s t : Timed} {a : TimedAction} (before : Synced s)
    (h : s.step launchTimeout a = some t) : Synced t := by
  cases timed_step h with
  | move ready moved =>
    rcases step_cases moved with ⟨i, a, l, g', l', rfl, at_i, stepped, rfl⟩ | ⟨rfl, rfl⟩
    · have step := track_step at_i stepped ready
      obtain ⟨mine, others, members⟩ := track_synced step (before.watchers i l at_i)
      have bound := (List.getElem?_eq_some_iff.mp at_i).1
      constructor
      · intro launch member
        simp only [List.length_set]
        rcases members launch member with old | rfl
        · exact before.servers launch old
        · exact bound
      · intro j process there
        rcases at_changed there with ⟨rfl, rfl⟩ | ⟨other, kept⟩
        · exact mine
        · dsimp only
          rw [others j other]
          exact before.watchers j process kept
    · constructor
      · intro launch member
        have bound := before.servers launch member
        simp only [List.length_append, List.length_singleton]
        omega
      · intro j process there
        rcases at_spawned there with ⟨rfl, rfl⟩ | old
        · have none : Timed.watched s.tracked s.cluster.locals.length = [] := by
            simp only [Timed.watched, List.map_eq_nil_iff, List.filter_eq_nil_iff, List.mem_map]
            rintro pair ⟨launch, member, rfl⟩
            have bound := before.servers launch member
            simp
            omega
          have same : s.track launchTimeout .join = s.tracked := rfl
          simp only [same, none]
          exact List.Perm.refl []
        · exact before.watchers j process old
  | @exit k launch success at_k =>
    have pairs : (s.tracked.set k { launch with exit := some success }).map
        (fun launch => (launch.server, launch.id)) =
        s.tracked.map fun launch => (launch.server, launch.id) := map_changed _ at_k rfl
    constructor
    · intro other member
      rcases List.mem_or_eq_of_mem_set member with old | rfl
      · exact before.servers other old
      · exact before.servers launch (List.mem_of_getElem? at_k)
    · intro i process there
      simp only [Timed.watched, pairs]
      exact before.watchers i process there
  | tick => exact ⟨before.servers, before.watchers⟩

/- Time passes. -/

/-- A watcher whose launch is over can go on, and then its launch is tracked no longer. -/
theorem watcher_goes_on {launchTimeout : Nat} {s : Timed} (synced : Synced s)
    {launch : TrackedLaunch} (member : launch ∈ s.tracked)
    (ended : launch.due launchTimeout s.now = true) :
    ∃ t, s.step launchTimeout
        (.move (.act launch.server (.routes (.watcherDone launch.id true)))) = some t ∧
      t.tracked.length < s.tracked.length := by
  have ends : Timed.completes launchTimeout s.now launch.server launch.id launch = true := by
    simp [Timed.completes, ended]
  have ready : s.tracked.any (Timed.completes launchTimeout s.now launch.server launch.id) =
      true := List.any_eq_true.mpr ⟨launch, member, ends⟩
  obtain ⟨process, running⟩ : ∃ process, s.cluster.locals[launch.server]? = some process :=
    ⟨_, List.getElem?_eq_getElem (synced.servers launch member)⟩
  have waits : launch.id ∈ process.routes.watchers := by
    refine (synced.watchers _ _ running).mem_iff.mpr ?_
    refine List.mem_map.mpr ⟨(launch.server, launch.id), ?_, rfl⟩
    exact List.mem_filter.mpr ⟨List.mem_map.mpr ⟨launch, member, rfl⟩, by simp⟩
  have moved : (Cluster.step s.cluster
      (.act launch.server (.routes (.watcherDone launch.id true)))).isSome = true := by
    simp [Cluster.step, Shared.step, running, processStep, World.step, Routes.step, World.view,
      waits]
  obtain ⟨c, moved⟩ := Option.isSome_iff_exists.mp moved
  refine ⟨_, by
    simp only [Timed.step, Timed.ready, ready, if_true, moved, Option.map_some]
    rfl, ?_⟩
  have shorter := List.length_eraseP_of_mem member ends
  have some := List.length_pos_of_mem member
  simp only [Timed.track, shorter]
  omega

/-- However many launches are over at once, their watchers can go on until time passes. -/
theorem time_can_pass {launchTimeout : Nat} {s : Timed} (synced : Synced s) :
    ∃ as t, (∀ a ∈ as, ∃ i id, a = .move (.act i (.routes (.watcherDone id true)))) ∧
      exec (Timed.step launchTimeout) s as = some t ∧ Prompt launchTimeout t .tick := by
  induction count : s.tracked.length using Nat.strongRecOn generalizing s with
  | ind n ih =>
    by_cases free : ∀ launch ∈ s.tracked, launch.due launchTimeout s.now = false
    · exact ⟨[], s, by simp, rfl, free⟩
    · obtain ⟨launch, member, ended⟩ :
          ∃ launch ∈ s.tracked, launch.due launchTimeout s.now = true := by simpa using free
      obtain ⟨t, next, fewer⟩ := watcher_goes_on synced member ended
      obtain ⟨as, u, watchers, run, passes⟩ :=
        ih t.tracked.length (count ▸ fewer) (synced_step synced next) rfl
      refine ⟨_ :: as, u, ?_, exec_cons.mpr ⟨t, next, run⟩, passes⟩
      intro a there
      rcases List.mem_cons.mp there with rfl | later
      · exact ⟨_, _, rfl⟩
      · exact watchers a later

/-- No launch is waited for beyond its timeout. -/
def Timely (launchTimeout : Nat) (s : Timed) : Prop :=
  ∀ launch ∈ s.tracked, s.now ≤ launch.startedAt + launchTimeout

theorem timely_step {launchTimeout : Nat} {s t : Timed} {a : TimedAction}
    (before : Timely launchTimeout s) (prompt : Prompt launchTimeout s a)
    (h : s.step launchTimeout a = some t) : Timely launchTimeout t := by
  cases timed_step h with
  | move ready moved =>
    intro launch member
    rcases step_cases moved with ⟨i, a, l, g', l', rfl, at_i, stepped, rfl⟩ | ⟨rfl, rfl⟩
    · have member : launch ∈ s.track launchTimeout (.act i a) := member
      have step := track_step at_i stepped ready
      generalize s.track launchTimeout (.act i a) = tracked at step member
      cases step with
      | launched launching watchers =>
        rcases List.mem_cons.mp member with rfl | old
        · exact Nat.le_add_right _ _
        · exact before launch old
      | done ended watchers => exact before launch (List.mem_of_mem_eraseP member)
      | restarted watchers => exact before launch (List.mem_of_mem_filter member)
      | other watchers => exact before launch member
    · exact before launch member
  | @exit k launch success at_k =>
    intro other member
    rcases List.mem_or_eq_of_mem_set member with old | rfl
    · exact before other old
    · exact before launch (List.mem_of_getElem? at_k)
  | tick =>
    intro launch member
    have early := prompt launch member
    simp only [TrackedLaunch.due, Bool.or_eq_false_iff, decide_eq_false_iff_not,
      Nat.not_le] at early
    exact early.2

/- A launch is waited for until its application is LAUNCHING no more. -/

/-- The application with this id has left LAUNCHING, or a launch of it that began at
`startedAt` is still waited for. -/
def Awaited (i : Nat) (id : Int) (startedAt : Nat) (s : Timed) : Prop :=
  id < s.cluster.shared.db.next ∧
    ((∃ launch ∈ s.tracked, launch.server = i ∧ launch.id = id ∧ launch.startedAt = startedAt) ∨
      ∀ r ∈ s.cluster.shared.db.rows, r.id = id → r.state ≠ .launching)

/-- No step brings an application back to LAUNCHING. -/
theorem settled_step {w w' : World} {a : Action} (h : w.step a = some w') {id : Int}
    (used : id < w.db.next) (settled : ∀ r ∈ w.db.rows, r.id = id → r.state ≠ .launching) :
    ∀ r ∈ w'.db.rows, r.id = id → r.state ≠ .launching := by
  intro r' member same launching
  rcases step_rows h member with ⟨_, old⟩ | ⟨st, _, ⟨r, stored, row⟩ | ⟨_, _, _, _, _, rfl⟩⟩
  · exact settled r' old same launching
  · have kept := Statement.row_id row
    exact settled r stored (kept.symm.trans same) (row_launching row launching).1
  · have last : w.db.next = id := same
    omega

/-- The update of a watcher takes its application out of LAUNCHING. -/
theorem watcher_settles {w w' : World} {id : Int}
    (h : w.step (.routes (.watcherDone id true)) = some w') :
    ∀ r ∈ w'.db.rows, r.id = id → r.state ≠ .launching := by
  obtain ⟨outcome, run, _⟩ := Option.map_eq_some_iff.mp h
  have issued : w.statement (.routes (.watcherDone id true)) = some (.watcherFailed id) := by
    simp only [World.statement, run, Option.bind_some]
    cases routes_step run
    rfl
  intro r' member same launching
  rcases step_rows h member with ⟨none, _⟩ | ⟨st, eq, ⟨r, stored, row⟩ | ⟨_, _, _, _, eq', _⟩⟩
  · simp [none] at issued
  · have watcher : st = .watcherFailed r.id := by
      rw [← Statement.row_id row, same]
      exact Option.some.inj (eq.symm.trans issued)
    exact (row_launching row launching).2.2 watcher
  · rw [eq', issued] at eq
    simp at eq

theorem awaited_step {launchTimeout i startedAt : Nat} {id : Int} {s t : Timed} {a : TimedAction}
    (before : Awaited i id startedAt s) (answered : Answered a)
    (running : a ≠ .move (.act i .restart)) (h : s.step launchTimeout a = some t) :
    Awaited i id startedAt t := by
  obtain ⟨used, waits⟩ := before
  cases timed_step h with
  | move ready moved =>
    rcases step_cases moved with ⟨j, a, l, g', l', rfl, at_j, stepped, rfl⟩ | ⟨rfl, rfl⟩
    · have step := process_step.mp stepped
      refine ⟨Int.lt_of_lt_of_le used (step_next step), ?_⟩
      rcases waits with ⟨launch, member, server, app, began⟩ | settled
      · have tracks := track_step at_j stepped ready
        dsimp only
        generalize s.track launchTimeout (.act j a) = tracked at tracks
        cases tracks with
        | launched launching watchers =>
          exact Or.inl ⟨launch, List.mem_cons_of_mem _ member, server, app, began⟩
        | @done other stored ended watchers =>
          obtain rfl : stored = true := answered
          by_cases ends : Timed.completes launchTimeout s.now j other launch = true
          · simp only [Timed.completes, Bool.and_eq_true, decide_eq_true_eq] at ends
            obtain ⟨⟨_, rfl⟩, _⟩ := ends
            rw [← app]
            exact Or.inr (watcher_settles step)
          · have kept := (List.mem_eraseP_of_neg ends).mpr member
            exact Or.inl ⟨launch, kept, server, app, began⟩
        | restarted watchers =>
          have other : launch.server ≠ j := by
            rintro rfl
            exact running (by rw [server])
          have kept : launch ∈ s.tracked.filter (·.server ≠ j) :=
            List.mem_filter.mpr ⟨member, decide_eq_true other⟩
          exact Or.inl ⟨launch, kept, server, app, began⟩
        | other watchers => exact Or.inl ⟨launch, member, server, app, began⟩
      · exact Or.inr (settled_step step used settled)
    · exact ⟨used, waits⟩
  | @exit k launch success at_k =>
    refine ⟨used, ?_⟩
    rcases waits with ⟨found, member, facts⟩ | settled
    · rcases kept_or_changed member with kept | changed
      · exact Or.inl ⟨found, kept, facts⟩
      · obtain rfl : launch = found := Option.some.inj (at_k.symm.trans changed)
        have bound := (List.getElem?_eq_some_iff.mp at_k).1
        exact Or.inl ⟨_, List.mem_set bound _, facts⟩
    · exact Or.inr settled
  | tick => exact ⟨used, waits⟩

/-- The ids of the createApp calls are used up. -/
def CreatesUsed (s : Timed) : Prop :=
  ∀ (i : Nat) process (n : Nat) call app, s.cluster.locals[i]? = some process →
    process.routes.creates[n]? = some call → call.app = some app →
    app.id < s.cluster.shared.db.next

theorem move_next {s t : Cluster} {m : Move Action} (h : Cluster.step s m = some t) :
    s.shared.db.next ≤ t.shared.db.next := by
  rcases step_cases h with ⟨_, _, _, _, _, _, _, stepped, rfl⟩ | ⟨_, rfl⟩
  · exact step_next (process_step.mp stepped)
  · exact Int.le_refl _

theorem creates_used_step {launchTimeout : Nat} {s t : Timed} {a : TimedAction}
    (before : CreatesUsed s) (h : s.step launchTimeout a = some t) : CreatesUsed t := by
  cases timed_step h with
  | @move m c ready moved =>
    intro k process' n call app there at_n holds
    have grown := move_next moved
    have old : ∀ process : Process, s.cluster.locals[k]? = some process → ∀ call : CreateApp,
        process.routes.creates[n]? = some call → call.app = some app →
        app.id < c.shared.db.next := by
      intro process at_k call there holds
      exact Int.lt_of_lt_of_le (before k process n call app at_k there holds) grown
    rcases process_cases moved there with ⟨a, l, _, at_k, stepped⟩ | ⟨kept, _⟩ | ⟨_, rfl, _⟩
    · rcases process_routes stepped with ⟨act, outcome, rfl, run, routes⟩ | ⟨_, routes⟩ |
        ⟨_, _, routes⟩
      · rw [routes] at at_n
        rcases create_app_step run at_n holds with ⟨call', there', holds'⟩ | ⟨_, new⟩
        · exact old l at_k call' there' holds'
        · obtain ⟨username, name, token, createdAt, rfl, rfl⟩ := new
          exact (inserted_rows (process_step.mp stepped)).1
      · simp [routes] at at_n
      · rw [routes] at at_n
        exact old l at_k call at_n holds
    · exact old process' kept call at_n holds
    · simp at at_n
  | exit success at_k => exact before
  | tick => exact before

/-- In every timed run of a cluster that is prompt: once a launch has succeeded on a server
that is not restarted afterwards, its application is not LAUNCHING any more when the launch
timeout has passed since, whatever the driver and all servers do. Promptness never stops
the clock: from every state, watchers can go on until time passes. -/
theorem launch_decided_in_time {launchTimeout i n : Nat} {db : Db} {as bs : List TimedAction}
    {u v : Timed} {process : Process} {app : Model}
    (before : exec (Timed.step launchTimeout) (.start db) as = some u)
    (there : u.cluster.locals[i]? = some process)
    (launching : process.routes.creates[n]? = some (.launching app))
    (run : exec (Timed.step launchTimeout) u
      (.move (.act i (.routes (.createLaunched n true))) :: bs) = some v)
    (prompt : Along (Timed.step launchTimeout) (Prompt launchTimeout) (.start db)
      (as ++ .move (.act i (.routes (.createLaunched n true))) :: bs))
    (answered : ∀ b ∈ bs, Answered b) (running : .move (.act i .restart) ∉ bs) :
    (u.now + launchTimeout < v.now →
      ∀ r ∈ v.cluster.shared.db.rows, r.id = app.id → r.state ≠ .launching) ∧
    ∃ ds w, (∀ d ∈ ds, ∃ j id, d = .move (.act j (.routes (.watcherDone id true)))) ∧
      exec (Timed.step launchTimeout) v ds = some w ∧ Prompt launchTimeout w .tick := by
  have whole : exec (Timed.step launchTimeout) (.start db)
      (as ++ .move (.act i (.routes (.createLaunched n true))) :: bs) = some v :=
    exec_append.mpr ⟨u, before, run⟩
  have synced : Synced v := by
    refine invariant_run (fun _ _ _ kept _ => synced_step kept) ?_ along_true whole
    constructor <;> simp [Timed.start, Cluster.start]
  refine ⟨fun late => ?_, time_can_pass synced⟩
  have timely : Timely launchTimeout v :=
    invariant_run (fun _ _ _ => timely_step) (by simp [Timely, Timed.start]) prompt whole
  have used : CreatesUsed u := by
    refine invariant_run (fun _ _ _ kept _ => creates_used_step kept) ?_ along_true before
    simp [CreatesUsed, Timed.start, Cluster.start]
  obtain ⟨u', launched, rest⟩ := exec_cons.mp run
  have first : Awaited i app.id u.now u' := by
    cases timed_step launched with
    | @move _ c ready moved =>
      have tracks : u.track launchTimeout (.act i (.routes (.createLaunched n true))) =
          { server := i, id := app.id, startedAt := u.now } :: u.tracked := by
        simp [Timed.track, there, launchOf, launching, CreateApp.pending]
      have below := used i process n _ app there launching rfl
      refine ⟨Int.lt_of_lt_of_le below (move_next moved), ?_⟩
      exact Or.inl ⟨_, by rw [tracks]; exact List.mem_cons_self, rfl, rfl, rfl⟩
  have meets : Along (Timed.step launchTimeout)
      (fun _ b => Answered b ∧ b ≠ .move (.act i .restart)) u' bs :=
    along_of_mem fun b member => ⟨answered b member, fun same => running (same ▸ member)⟩
  have last : Awaited i app.id u.now v :=
    invariant_run (fun _ _ _ kept ok => awaited_step kept ok.1 ok.2) first meets rest
  rcases last.2 with ⟨launch, member, _, _, began⟩ | settled
  · have bound := timely launch member
    omega
  · exact settled

/-- spark-submit has exited, but no driver registers. -/
def silentLaunch : List TimedAction :=
  [.exit 0 true, .tick, .tick, .move (.act 0 (.routes (.watcherDone 1 true))), .tick]

theorem silent_launch_fails : ∃ u v,
    exec (Timed.step 2) (.start .new)
      [.move .join, .move (.act 0 (.routes (.createInsert "alice" none "token-a" 0 true))), .tick] =
        some u ∧
    exec (Timed.step 2) u (.move (.act 0 (.routes (.createLaunched 0 true))) :: silentLaunch) =
      some v ∧
    ∀ r ∈ v.cluster.shared.db.rows, r.id = 1 → r.state ≠ .launching := by
  have computed : (exec (Timed.step 2) (.start .new)
      [.move .join, .move (.act 0 (.routes (.createInsert "alice" none "token-a" 0 true))),
        .tick]).any (fun u => u.now = 1 &&
      (u.cluster.locals[0]?.any fun process => process.routes.creates[0]? =
        some (.launching ⟨1, 0, "alice", none, .launching, "token-a", none, none⟩)) &&
      (exec (Timed.step 2) u
        (.move (.act 0 (.routes (.createLaunched 0 true))) :: silentLaunch)).any fun v =>
          v.now = 4) = true := by decide
  obtain ⟨u, before, facts⟩ := computed_run computed
  simp only [Bool.and_eq_true] at facts
  obtain ⟨⟨now, there⟩, later⟩ := facts
  obtain ⟨process, there, launching⟩ := (Option.any_eq_true _ _).mp there
  obtain ⟨v, run, late⟩ := computed_run later
  have now := of_decide_eq_true now
  have late := of_decide_eq_true late
  have decided := (launch_decided_in_time before there (of_decide_eq_true launching) run
    (by decide) (by simp [silentLaunch, Answered]) (by simp [silentLaunch])).1
  exact ⟨u, v, before, run, decided (by omega)⟩

end SparkPlug
