import SparkPlug.ServerRun

/-!
The graceful shutdown of Server::run. The receivers of the close channel count the loop
and its unfinished connections, so that the channel closes when all of them are gone.
-/
namespace SparkPlug
open Runs

/-- The receiver of the close channel that run holds while it is in its loop. -/
def RunPhase.receivers : RunPhase → Nat
  | .accepting => 1
  | .handshaking _ => 1
  | .draining => 0
  | .returned _ => 0
  | .panicked _ => 0

def ConnectionTask.receivers (task : ConnectionTask) : Nat := if task.finished then 0 else 1

/-- What a run that has taken the actions `as` owes to its connections. -/
structure Drains (as : List RunAction) (s : ServerRun) : Prop where
  signalled : s.phase = .returned (.ok ()) → .shutdownSignal ∈ as
  finished : s.phase = .returned (.ok ()) → ∀ task ∈ s.tasks, task.finished = true
  notBefore : ∀ front k back, as = front ++ .gracefulShutdown k :: back → .shutdownSignal ∈ front
  once : ∀ front k back, as = front ++ .gracefulShutdown k :: back → .gracefulShutdown k ∉ back
  closed : ∀ front back, as = front ++ .signalClosed :: back →
    ∀ outcome, .accept outcome ∉ back ∧ .handshake outcome ∉ back

/-- The state of the server as it follows from the actions taken. -/
structure Tallied (as : List RunAction) (s : ServerRun) : Prop where
  counted : s.closeReceivers = s.phase.receivers + Tasks.total ConnectionTask.receivers s.tasks
  signalled : s.signalReceivers = 0 → .shutdownSignal ∈ as
  left : s.phase = .draining ∨ s.phase = .returned (.ok ()) → s.signalReceivers = 0
  drained : s.phase = .returned (.ok ()) → s.closeReceivers = 0
  asked : ∀ k, .gracefulShutdown k ∈ as →
    ∃ task, s.tasks[k]? = some task ∧ task.signalled = true
  observed : .signalClosed ∈ as → s.phase = .draining ∨ s.phase = .returned (.ok ())

section
variable {as : List RunAction} {s s' : ServerRun}

/-- A task that has asked its connection to shut down stays so when another one changes. -/
theorem asked_set {k n : Nat} {old new : ConnectionTask}
    (asked : ∃ task, s.tasks[k]? = some task ∧ task.signalled = true)
    (there : s.tasks[n]? = some old) (kept : old.signalled = true → new.signalled = true) :
    ∃ task, (s.tasks.set n new)[k]? = some task ∧ task.signalled = true := by
  obtain ⟨task, at_k, signalled⟩ := asked
  by_cases same : k = n
  · subst k
    cases there.symm.trans at_k
    have bound := (List.getElem?_eq_some_iff.mp there).1
    exact ⟨new, List.getElem?_set_self bound, kept signalled⟩
  · exact ⟨task, by rw [List.getElem?_set_ne (Ne.symm same)]; exact at_k, signalled⟩

theorem asked_spawned {k : Nat} {new : ConnectionTask}
    (asked : ∃ task, s.tasks[k]? = some task ∧ task.signalled = true) :
    ∃ task, (s.tasks ++ [new])[k]? = some task ∧ task.signalled = true := by
  obtain ⟨task, at_k, signalled⟩ := asked
  have bound := (List.getElem?_eq_some_iff.mp at_k).1
  exact ⟨task, by rw [List.getElem?_append_left bound]; exact at_k, signalled⟩

/-- A connection is served: the loop goes on with one more receiver. -/
theorem tallied_served {a : RunAction} (tallied : Tallied as s) (stream streams : Nat)
    (running : s.phase = .accepting ∨ s.phase = .handshaking stream)
    (quiet : a ≠ .signalClosed ∧ ∀ k, a ≠ .gracefulShutdown k) :
    Tallied (as ++ [a])
      ({ s with phase := .accepting, streams }.serveConnection stream) := by
  have loop : s.phase.receivers = 1 := by
    rcases running with phase | phase <;> simp [phase, RunPhase.receivers]
  have counted := tallied.counted
  constructor
  · simp only [ServerRun.serveConnection, Tasks.total_spawned, RunPhase.receivers,
      ConnectionTask.receivers]
    simp only [Bool.false_eq_true, ↓reduceIte]
    omega
  · intro closed
    exact List.mem_append_left _ (tallied.signalled closed)
  · intro left
    simp [ServerRun.serveConnection] at left
  · intro returned
    simp [ServerRun.serveConnection] at returned
  · intro k member
    simp only [List.mem_append, List.mem_singleton] at member
    exact asked_spawned (tallied.asked k (member.resolve_right (quiet.2 k).symm))
  · intro member
    simp only [List.mem_append, List.mem_singleton] at member
    have before := tallied.observed (member.resolve_right quiet.1.symm)
    rcases running with phase | phase <;> simp [phase] at before

/-- The loop is left, with its receiver dropped. -/
theorem tallied_left {a : RunAction} {phase : RunPhase} (tallied : Tallied as s)
    (running : s.phase.receivers = 1) (outside : phase.receivers = 0)
    (ended : phase ≠ .returned (.ok ())) (drains : phase = .draining → s.signalReceivers = 0)
    (seen : a = .signalClosed → phase = .draining) (quiet : ∀ k, a ≠ .gracefulShutdown k) :
    Tallied (as ++ [a]) (s.leave phase) := by
  have counted := tallied.counted
  constructor
  · simp only [ServerRun.leave, outside]
    omega
  · intro closed
    exact List.mem_append_left _ (tallied.signalled closed)
  · rintro (draining | returned)
    · exact drains draining
    · exact absurd returned ended
  · intro returned
    exact absurd returned ended
  · intro k member
    simp only [List.mem_append, List.mem_singleton] at member
    exact tallied.asked k (member.resolve_right (quiet k).symm)
  · intro member
    simp only [List.mem_append, List.mem_singleton] at member
    rcases member with before | now
    · rcases tallied.observed before with draining | returned
      · simp [draining, RunPhase.receivers] at running
      · simp [returned, RunPhase.receivers] at running
    · exact Or.inl (seen now.symm)

/-- One task changes, which may give back its receiver. -/
theorem tallied_task {a : RunAction} (tallied : Tallied as s) {k closeReceivers : Nat}
    {old new : ConnectionTask} (there : s.tasks[k]? = some old)
    (kept : old.signalled = true → new.signalled = true)
    (counted : closeReceivers + old.receivers = s.closeReceivers + new.receivers)
    (fewer : new.receivers ≤ old.receivers) (quiet : a ≠ .signalClosed)
    (own : ∀ j, a = .gracefulShutdown j → j = k ∧ new.signalled = true) :
    Tallied (as ++ [a]) { s with closeReceivers, tasks := s.tasks.set k new } := by
  have total := Tasks.total_changed ConnectionTask.receivers there new
  have before := tallied.counted
  constructor
  · simp only
    omega
  · intro closed
    exact List.mem_append_left _ (tallied.signalled closed)
  · exact tallied.left
  · intro returned
    have none := tallied.drained returned
    simp only
    omega
  · intro j member
    simp only [List.mem_append, List.mem_singleton] at member
    rcases member with earlier | now
    · exact asked_set (tallied.asked j earlier) there kept
    · obtain ⟨rfl, signalled⟩ := own j now.symm
      have bound := (List.getElem?_eq_some_iff.mp there).1
      exact ⟨new, List.getElem?_set_self bound, signalled⟩
  · intro member
    simp only [List.mem_append, List.mem_singleton] at member
    exact tallied.observed (member.resolve_right quiet.symm)

theorem tallied_step {a : RunAction} (tallied : Tallied as s) (step : RunStep s a s') :
    Tallied (as ++ [a]) s' := by
  have counted := tallied.counted
  cases step with
  | signalled live =>
    constructor
    · exact counted
    · intro _
      exact List.mem_append_right _ (List.mem_singleton.mpr rfl)
    · intro left
      have none := tallied.left left
      omega
    · exact tallied.drained
    · intro k member
      exact tallied.asked k (by simpa using member)
    · intro member
      exact tallied.observed (by simpa using member)
  | secured phase tls =>
    constructor
    · simp only [phase, RunPhase.receivers] at counted ⊢
      exact counted
    · intro closed
      exact List.mem_append_left _ (tallied.signalled closed)
    · intro left
      simp at left
    · intro returned
      simp at returned
    · intro k member
      exact tallied.asked k (by simpa using member)
    · intro member
      have before := tallied.observed (by simpa using member)
      simp [phase] at before
  | served phase plain =>
    have same : { s with streams := s.streams + 1 } =
        { s with phase := .accepting, streams := s.streams + 1 } := by rw [← phase]
    rw [same]
    exact tallied_served tallied s.streams (s.streams + 1) (Or.inl phase) ⟨nofun, nofun⟩
  | unaccepted message phase =>
    exact tallied_left tallied (by rw [phase]; rfl) rfl nofun nofun nofun nofun
  | established stream phase =>
    exact tallied_served tallied stream s.streams (Or.inr phase) ⟨nofun, nofun⟩
  | refused stream message phase =>
    exact tallied_left tallied (by rw [phase]; rfl) rfl nofun nofun nofun nofun
  | observed phase closed =>
    exact tallied_left tallied (by rw [phase]; rfl) rfl nofun (fun _ => closed) (fun _ => rfl) nofun
  | drained phase closed =>
    constructor
    · simp only [phase, RunPhase.receivers] at counted ⊢
      exact counted
    · intro closed
      exact List.mem_append_left _ (tallied.signalled closed)
    · intro _
      exact tallied.left (Or.inl phase)
    · intro _
      exact closed
    · intro k member
      exact tallied.asked k (by simpa using member)
    · intro _
      exact Or.inr rfl
  | done k result task there live =>
    have held : 0 < s.closeReceivers := by
      have total :=
        Tasks.total_changed ConnectionTask.receivers there { task with finished := true }
      simp only [ConnectionTask.receivers, live, Bool.false_eq_true, ↓reduceIte] at total
      omega
    apply tallied_task tallied there
    · exact fun signalled => signalled
    · simp only [ConnectionTask.receivers, live, Bool.false_eq_true, ↓reduceIte]
      omega
    · simp [ConnectionTask.receivers]
    · nofun
    · nofun
  | asked k task there live fresh closed =>
    apply tallied_task tallied there
    · exact fun _ => rfl
    · rfl
    · exact Nat.le_refl _
    · nofun
    · intro j same
      cases same
      exact ⟨rfl, rfl⟩

end

/- Every run. -/

theorem tallied_run {tls : Bool} {as : List RunAction} {t : ServerRun}
    (run : exec ServerRun.step { tls } as = some t) : Tallied as t := by
  have start : Tallied [] { tls } := by
    constructor <;> simp [RunPhase.receivers, Tasks.total]
  have one : ∀ as s a s', exec ServerRun.step { tls } as = some s → Tallied as s → True →
      s.step a = some s' → Tallied (as ++ [a]) s' := by
    intro as s a s' _ tallied _ next
    exact tallied_step tallied (run_step next)
  exact past_induction start one along_true run

/-- An action of a run was taken in a state that its past leads to. -/
theorem taken_in {tls : Bool} {front back : List RunAction} {a : RunAction} {t : ServerRun}
    (run : exec ServerRun.step { tls } (front ++ a :: back) = some t) :
    ∃ u u', Tallied front u ∧ RunStep u a u' := by
  obtain ⟨u, u', before, next, _⟩ := exec_at run
  exact ⟨u, u', tallied_run before, run_step next⟩

theorem accept_in_loop {s s' : ServerRun} {outcome : Except String Unit}
    (step : RunStep s (.accept outcome) s') : s.phase.receivers = 1 := by
  cases step with
  | secured phase => rw [phase]; rfl
  | served phase => rw [phase]; rfl
  | unaccepted message phase => rw [phase]; rfl

theorem handshake_in_loop {s s' : ServerRun} {outcome : Except String Unit}
    (step : RunStep s (.handshake outcome) s') : s.phase.receivers = 1 := by
  cases step with
  | established stream phase => rw [phase]; rfl
  | refused stream message phase => rw [phase]; rfl

/-- A returned run has seen the signal and the end of its connections; no connection is asked
to shut down before the signal or twice, and none is accepted after the loop saw the signal. -/
theorem graceful_shutdown_drains {tls : Bool} {as : List RunAction} {t : ServerRun}
    (run : exec ServerRun.step { tls } as = some t) : Drains as t := by
  have tallied := tallied_run run
  constructor
  · intro returned
    exact tallied.signalled (tallied.left (Or.inr returned))
  · intro returned task member
    have none := tallied.drained returned
    have counted := tallied.counted
    have total : Tasks.total ConnectionTask.receivers t.tasks = 0 := by omega
    have gone := (Tasks.total_zero_iff ConnectionTask.receivers t.tasks).mp total task member
    by_contra live
    simp [ConnectionTask.receivers, live] at gone
  · rintro front k back rfl
    obtain ⟨u, u', past, step⟩ := taken_in run
    cases step with
    | asked _ task there live fresh closed => exact past.signalled closed
  · rintro front k back rfl again
    obtain ⟨middle, last, rfl⟩ := List.append_of_mem again
    rw [← List.cons_append, ← List.append_assoc] at run
    obtain ⟨u, u', past, step⟩ := taken_in run
    obtain ⟨task, there, signalled⟩ := past.asked k (by simp)
    cases step with
    | asked _ other at_k live fresh closed =>
      cases there.symm.trans at_k
      simp [signalled] at fresh
  · rintro front back rfl outcome
    have outside : ∀ b ∈ back, ∃ u u', RunStep u b u' ∧ u.phase.receivers = 0 := by
      intro b later
      obtain ⟨middle, last, rfl⟩ := List.append_of_mem later
      rw [← List.cons_append, ← List.append_assoc] at run
      obtain ⟨u, u', past, step⟩ := taken_in run
      refine ⟨u, u', step, ?_⟩
      rcases past.observed (by simp) with phase | phase
      · rw [phase]
        rfl
      · rw [phase]
        rfl
    constructor
    · intro later
      obtain ⟨u, u', step, gone⟩ := outside _ later
      have held := accept_in_loop step
      omega
    · intro later
      obtain ⟨u, u', step, gone⟩ := outside _ later
      have held := handshake_in_loop step
      omega

/-- The other way round, a drained loop returns as soon as its connections have finished. -/
theorem drained_returns {tls : Bool} {as : List RunAction} {t : ServerRun}
    (run : exec ServerRun.step { tls } as = some t) (draining : t.phase = .draining)
    (finished : ∀ task ∈ t.tasks, task.finished = true) :
    t.step .closeClosed = some { t with phase := .returned (.ok ()) } := by
  have counted := (tallied_run run).counted
  have none : Tasks.total ConnectionTask.receivers t.tasks = 0 := by
    apply (Tasks.total_zero_iff ConnectionTask.receivers t.tasks).mpr
    intro task member
    simp [ConnectionTask.receivers, finished task member]
  rw [none, draining] at counted
  simp only [RunPhase.receivers] at counted
  simp [ServerRun.step, draining, counted]

/-- Two connections, one of which ends by itself and one of which is asked to. -/
def drainedRun : List RunAction :=
  [.accept (.ok ()), .accept (.ok ()), .connectionDone 0 (.ok ()), .shutdownSignal,
   .gracefulShutdown 1, .signalClosed, .connectionDone 1 (.ok ()), .closeClosed]

theorem drained_run_drains : ∃ t, exec ServerRun.step { tls := false } drainedRun = some t ∧
    t.phase = .returned (.ok ()) ∧ Drains drainedRun t := by
  have run : exec ServerRun.step { tls := false } drainedRun = some
      { tls := false
        phase := .returned (.ok ())
        signalReceivers := 0
        closeReceivers := 0
        streams := 2
        tasks := [{ stream := 0, finished := true },
          { stream := 1, signalled := true, finished := true, gracefulShutdowns := 1 }] } := by
    decide
  exact ⟨_, run, rfl, graceful_shutdown_drains run⟩

end SparkPlug
