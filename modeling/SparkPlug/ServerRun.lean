import SparkPlug.Library.Runs
import SparkPlug.Library.Tasks

/-!
Server::run from its accept loop on, with its signal task and its connection tasks.
A watch channel is the number of its receivers; `closed()` completes at zero.
-/
namespace SparkPlug
open Runs

inductive RunPhase where
  | accepting
  /- The TLS handshake of a stream is awaited inside the loop. -/
  | handshaking (stream : Nat)
  | draining
  | returned (result : Except String Unit)
  | panicked (message : String)
  deriving DecidableEq

/-- A task of serveConnection, which holds a receiver of the close channel. -/
structure ConnectionTask where
  stream : Nat
  /- The fused future of `signal_tx.closed()` has completed. -/
  signalled : Bool := false
  finished : Bool := false
  gracefulShutdowns : Nat := 0
  deriving DecidableEq

structure ServerRun where
  tls : Bool
  phase : RunPhase := .accepting
  signalReceivers : Nat := 1
  closeReceivers : Nat := 1
  streams : Nat := 0
  tasks : List ConnectionTask := []
  deriving DecidableEq

inductive RunAction where
  | shutdownSignal
  /- The select of the loop takes its accept branch. -/
  | accept (outcome : Except String Unit)
  | handshake (outcome : Except String Unit)
  /- The select of the loop takes its `signal_tx.closed()` branch. -/
  | signalClosed
  | closeClosed
  | connectionDone (k : Nat) (result : Except String Unit)
  | gracefulShutdown (k : Nat)

namespace ServerRun

def serveConnection (s : ServerRun) (stream : Nat) : ServerRun :=
  { s with
    closeReceivers := s.closeReceivers + 1
    tasks := s.tasks ++ [{ stream }] }

/-- The loop is left, and the receiver of the close channel that run holds is dropped. -/
def leave (s : ServerRun) (phase : RunPhase) : ServerRun :=
  { s with phase, closeReceivers := s.closeReceivers - 1 }

def step (s : ServerRun) : RunAction → Option ServerRun
  | .shutdownSignal =>
    if s.signalReceivers = 0 then none
    else some { s with signalReceivers := s.signalReceivers - 1 }
  | .accept outcome =>
    match s.phase, outcome with
    | .accepting, .ok () =>
      let accepted := { s with streams := s.streams + 1 }
      if s.tls then some { accepted with phase := .handshaking s.streams }
      else some (accepted.serveConnection s.streams)
    -- `s.unwrap()` on an accept error
    | .accepting, .error message => some (s.leave (.panicked message))
    | _, _ => none
  | .handshake outcome =>
    match s.phase, outcome with
    | .handshaking stream, .ok () => some ({ s with phase := .accepting }.serveConnection stream)
    -- `acceptor.accept(stream).await?`
    | .handshaking _, .error message => some (s.leave (.returned (.error message)))
    | _, _ => none
  | .signalClosed =>
    if s.phase = .accepting ∧ s.signalReceivers = 0 then some (s.leave .draining) else none
  | .closeClosed =>
    if s.phase = .draining ∧ s.closeReceivers = 0 then some { s with phase := .returned (.ok ()) }
    else none
  | .connectionDone k _ =>
    match s.tasks[k]? with
    | some task =>
      if task.finished then none
      else some { s with
        closeReceivers := s.closeReceivers - 1
        tasks := s.tasks.set k { task with finished := true } }
    | none => none
  | .gracefulShutdown k =>
    match s.tasks[k]? with
    | some task =>
      if task.finished || task.signalled || s.signalReceivers != 0 then none
      else some { s with
        tasks := s.tasks.set k { task with
          signalled := true
          gracefulShutdowns := task.gracefulShutdowns + 1 } }
    | none => none

end ServerRun

/-- What one step of the server does. -/
inductive RunStep (s : ServerRun) : RunAction → ServerRun → Prop where
  | signalled (live : 0 < s.signalReceivers) :
      RunStep s .shutdownSignal { s with signalReceivers := s.signalReceivers - 1 }
  | secured (phase : s.phase = .accepting) (tls : s.tls = true) :
      RunStep s (.accept (.ok ()))
        { s with streams := s.streams + 1, phase := .handshaking s.streams }
  | served (phase : s.phase = .accepting) (plain : s.tls = false) :
      RunStep s (.accept (.ok ()))
        ({ s with streams := s.streams + 1 }.serveConnection s.streams)
  | unaccepted (message : String) (phase : s.phase = .accepting) :
      RunStep s (.accept (.error message)) (s.leave (.panicked message))
  | established (stream : Nat) (phase : s.phase = .handshaking stream) :
      RunStep s (.handshake (.ok ())) ({ s with phase := .accepting }.serveConnection stream)
  | refused (stream : Nat) (message : String) (phase : s.phase = .handshaking stream) :
      RunStep s (.handshake (.error message)) (s.leave (.returned (.error message)))
  | observed (phase : s.phase = .accepting) (closed : s.signalReceivers = 0) :
      RunStep s .signalClosed (s.leave .draining)
  | drained (phase : s.phase = .draining) (closed : s.closeReceivers = 0) :
      RunStep s .closeClosed { s with phase := .returned (.ok ()) }
  | done (k : Nat) (result : Except String Unit) (task : ConnectionTask)
      (there : s.tasks[k]? = some task) (live : task.finished = false) :
      RunStep s (.connectionDone k result) { s with
        closeReceivers := s.closeReceivers - 1
        tasks := s.tasks.set k { task with finished := true } }
  | asked (k : Nat) (task : ConnectionTask) (there : s.tasks[k]? = some task)
      (live : task.finished = false) (fresh : task.signalled = false)
      (closed : s.signalReceivers = 0) :
      RunStep s (.gracefulShutdown k) { s with
        tasks := s.tasks.set k { task with
          signalled := true
          gracefulShutdowns := task.gracefulShutdowns + 1 } }

theorem run_step {s s' : ServerRun} {a : RunAction} (h : s.step a = some s') : RunStep s a s' := by
  cases a with
  | shutdownSignal =>
    simp only [ServerRun.step] at h
    split at h
    · simp at h
    · cases h
      exact .signalled (by omega)
  | accept outcome =>
    simp only [ServerRun.step] at h
    split at h
    · rename_i phase
      split at h
      · rename_i tls
        cases h
        exact .secured phase tls
      · rename_i plain
        cases h
        exact .served phase (by simpa using plain)
    · rename_i phase
      cases h
      exact .unaccepted _ phase
    · simp at h
  | handshake outcome =>
    simp only [ServerRun.step] at h
    split at h
    · rename_i phase
      cases h
      exact .established _ phase
    · rename_i phase
      cases h
      exact .refused _ _ phase
    · simp at h
  | signalClosed =>
    simp only [ServerRun.step] at h
    split at h
    · rename_i closed
      cases h
      exact .observed closed.1 closed.2
    · simp at h
  | closeClosed =>
    simp only [ServerRun.step] at h
    split at h
    · rename_i closed
      cases h
      exact .drained closed.1 closed.2
    · simp at h
  | connectionDone k result =>
    simp only [ServerRun.step] at h
    split at h
    · rename_i task there
      split at h
      · simp at h
      · rename_i live
        cases h
        exact .done k result task there (by simpa using live)
    · simp at h
  | gracefulShutdown k =>
    simp only [ServerRun.step] at h
    split at h
    · rename_i task there
      split at h
      · simp at h
      · rename_i idle
        simp only [Bool.or_eq_true, bne_iff_ne, ne_eq, not_or, Bool.not_eq_true,
          Decidable.not_not] at idle
        cases h
        exact .asked k task there idle.1.1 idle.1.2 idle.2
    · simp at h

/-- The streams that were accepted, and those that are to be served or have failed. -/
structure Peers where
  accepted : List Nat := []
  established : List Nat := []
  failed : List Nat := []

def meet (s : ServerRun) (a : RunAction) (peers : Peers) : Peers :=
  match a, s.phase with
  | .accept (.ok ()), _ =>
    { peers with
      accepted := peers.accepted ++ [s.streams]
      established := if s.tls then peers.established else peers.established ++ [s.streams] }
  | .handshake (.ok ()), .handshaking stream =>
    { peers with established := peers.established ++ [stream] }
  | .handshake (.error _), .handshaking stream =>
    { peers with failed := peers.failed ++ [stream] }
  | _, _ => peers

abbrev runStep : ServerRun × Peers → RunAction → Option (ServerRun × Peers) :=
  withHistory ServerRun.step meet

/-- Before the shutdown signal the loop accepts, or awaits the handshake of one stream. Nobody
is accepted until that handshake has an outcome, and nothing bounds the wait for it. -/
def KeepsAccepting (s : ServerRun) : Prop :=
  0 < s.signalReceivers → s.phase = .accepting ∨ ∃ stream, s.phase = .handshaking stream

/-- Every accepted stream is served unless its handshake failed or is awaited. -/
structure Handed (s : ServerRun) (peers : Peers) : Prop where
  served : s.tasks.map (·.stream) = peers.established
  accepted : ∀ stream ∈ peers.accepted, stream ∈ peers.established ∨ stream ∈ peers.failed ∨
    s.phase = .handshaking stream

/-- A handshake that fails leaves all but its own stream as it was. -/
def FailsItself (s : ServerRun) (a : RunAction) (s' : ServerRun) : Prop :=
  ∀ error, a = .handshake (.error error) → s' = { s with phase := .accepting }

/-- The step stops no accept loop, loses no stream and spoils no other one. -/
def Harmless (s : ServerRun × Peers) (a : RunAction) : Prop :=
  ∀ t, runStep s a = some t → KeepsAccepting t.1 ∧ Handed t.1 t.2 ∧ FailsItself s.1 a t.1

/-- The loop sees no accept error before the shutdown signal, and no failed handshake. -/
def NoPeerError (s : ServerRun × Peers) : RunAction → Prop
  | .accept (.error _) => s.1.phase = .accepting → s.1.signalReceivers = 0
  | .handshake (.error _) => ∀ stream, s.1.phase ≠ .handshaking stream
  | _ => True

section
variable {s s' : ServerRun} {peers : Peers} {a : RunAction}

theorem keeps_accepting_step (step : RunStep s a s') (keeps : KeepsAccepting s)
    (calm : NoPeerError (s, peers) a) : KeepsAccepting s' := by
  intro running
  cases step with
  | signalled live => exact keeps live
  | secured phase tls => exact Or.inr ⟨s.streams, rfl⟩
  | served phase plain => exact Or.inl phase
  | unaccepted message phase =>
    have closed : s.signalReceivers = 0 := calm phase
    simp only [ServerRun.leave] at running
    omega
  | established stream phase => exact Or.inl rfl
  | refused stream message phase => exact absurd phase (calm stream)
  | observed phase closed =>
    simp only [ServerRun.leave] at running
    omega
  | drained phase closed =>
    have before := keeps running
    simp [phase] at before
  | done k result task there live => exact keeps running
  | asked k task there live fresh closed => exact keeps running

theorem handed_same (handed : Handed s peers)
    (tasks : s'.tasks.map (·.stream) = s.tasks.map (·.stream))
    (phase : ∀ stream, s.phase = .handshaking stream → s'.phase = .handshaking stream) :
    Handed s' peers := by
  refine ⟨tasks.trans handed.served, ?_⟩
  intro stream member
  rcases handed.accepted stream member with served | failed | awaited
  · exact Or.inl served
  · exact Or.inr (Or.inl failed)
  · exact Or.inr (Or.inr (phase stream awaited))

theorem handed_step (step : RunStep s a s') (handed : Handed s peers) :
    Handed s' (meet s a peers) := by
  cases step with
  | signalled live => exact handed_same handed rfl fun _ awaited => awaited
  | secured phase tls =>
    refine ⟨by simp [meet, tls, handed.served], ?_⟩
    intro stream member
    simp only [meet, tls, ↓reduceIte, List.mem_append, List.mem_singleton] at member ⊢
    rcases member with old | rfl
    · have settled := handed.accepted stream old
      simp only [phase, reduceCtorEq, or_false] at settled
      tauto
    · exact Or.inr (Or.inr rfl)
  | served phase plain =>
    refine ⟨by simp [meet, plain, handed.served, ServerRun.serveConnection], ?_⟩
    intro stream member
    simp only [meet, plain, Bool.false_eq_true, ↓reduceIte, List.mem_append,
      List.mem_singleton] at member ⊢
    rcases member with old | new
    · have settled := handed.accepted stream old
      simp only [phase, reduceCtorEq, or_false] at settled
      tauto
    · exact Or.inl (Or.inr new)
  | unaccepted message phase => exact handed_same handed rfl (by simp [phase])
  | established stream phase =>
    refine ⟨by simp [meet, phase, handed.served, ServerRun.serveConnection], ?_⟩
    intro other member
    have settled := handed.accepted other (by simpa [meet, phase] using member)
    simp only [phase, RunPhase.handshaking.injEq] at settled
    simp only [meet, phase, List.mem_append, List.mem_singleton]
    rcases settled with before | failed | rfl
    · exact Or.inl (Or.inl before)
    · exact Or.inr (Or.inl failed)
    · exact Or.inl (Or.inr rfl)
  | refused stream message phase =>
    refine ⟨by simp [meet, phase, handed.served, ServerRun.leave], ?_⟩
    intro other member
    have settled := handed.accepted other (by simpa [meet, phase] using member)
    simp only [phase, RunPhase.handshaking.injEq] at settled
    simp only [meet, phase, List.mem_append, List.mem_singleton]
    rcases settled with before | failed | rfl
    · exact Or.inl before
    · exact Or.inr (Or.inl (Or.inl failed))
    · exact Or.inr (Or.inl (Or.inr rfl))
  | observed phase closed => exact handed_same handed rfl (by simp [phase])
  | drained phase closed => exact handed_same handed rfl (by simp [phase])
  | done k result task there live =>
    exact handed_same handed (Tasks.map_changed _ there rfl) fun _ awaited => awaited
  | asked k task there live fresh closed =>
    exact handed_same handed (Tasks.map_changed _ there rfl) fun _ awaited => awaited

/-- A failing handshake ends the run, whatever else the server is doing. -/
theorem failed_handshake_ends {stream : Nat} {message : String}
    (phase : s.phase = .handshaking stream) :
    s.step (.handshake (.error message)) = some (s.leave (.returned (.error message))) := by
  simp [ServerRun.step, phase]

theorem accept_error_ends {message : String} (phase : s.phase = .accepting) :
    s.step (.accept (.error message)) = some (s.leave (.panicked message)) := by
  simp [ServerRun.step, phase]

/-- The condition is exact: a step that breaks it stops the loop or spoils another stream. -/
theorem harmless_calm (harmless : Harmless (s, peers) a) : NoPeerError (s, peers) a := by
  cases a with
  | accept outcome =>
    cases outcome with
    | ok value => trivial
    | error message =>
      intro phase
      have stopped := harmless (_, _) (with_history_step.mpr ⟨accept_error_ends phase, rfl⟩)
      by_contra running
      have still := stopped.1 (Nat.pos_of_ne_zero running)
      simp [ServerRun.leave] at still
  | handshake outcome =>
    cases outcome with
    | ok value => trivial
    | error message =>
      intro stream phase
      have stopped := harmless (_, _) (with_history_step.mpr ⟨failed_handshake_ends phase, rfl⟩)
      have back := congrArg ServerRun.phase (stopped.2.2 message rfl)
      simp [ServerRun.leave] at back
  | _ => trivial

theorem fails_itself (calm : NoPeerError (s, peers) a) (step : RunStep s a s') :
    FailsItself s a s' := by
  rintro error rfl
  cases step with
  | refused stream _ phase => exact absurd phase (calm stream)

end

/-- In every run of the accept loop, with and without TLS, no client stops the loop or loses
or spoils another stream, if and only if the loop sees no accept error before the shutdown
signal and no failed handshake. -/
theorem accept_loop_unstoppable_iff (tls : Bool) (as : List RunAction) :
    Along runStep Harmless ({ tls }, {}) as ↔ Along runStep NoPeerError ({ tls }, {}) as := by
  have goes : ∀ s a, KeepsAccepting s.1 ∧ Handed s.1 s.2 → NoPeerError s a → Harmless s a := by
    rintro ⟨s, peers⟩ a ⟨keeps, handed⟩ calm ⟨s', peers'⟩ h
    obtain ⟨step, rfl⟩ := with_history_step.mp h
    exact ⟨keeps_accepting_step (run_step step) keeps calm, handed_step (run_step step) handed,
      fails_itself calm (run_step step)⟩
  have kept : Preserves runStep NoPeerError fun s => KeepsAccepting s.1 ∧ Handed s.1 s.2 := by
    intro s a t before calm next
    have after := goes s a before calm t next
    exact ⟨after.1, after.2.1⟩
  have start : KeepsAccepting { tls } ∧ Handed { tls } {} :=
    ⟨fun _ => Or.inl rfl, rfl, fun _ member => by cases member⟩
  constructor
  · exact along_imp fun _ _ harmless => harmless_calm harmless
  · intro calm
    exact (along_iff kept (fun s a inv => ⟨harmless_calm, goes s a inv⟩) start calm).mpr calm

/-- A TLS server serves one client, and a second one has connected. -/
def twoClients : List RunAction :=
  [.accept (.ok ()), .handshake (.ok ()), .accept (.ok ())]

/-- The second client does not speak TLS. -/
def plaintext : RunAction :=
  .handshake (.error "received corrupt message of type InvalidContentType")

theorem plaintext_client_stops :
    ¬ (∀ tls as, Along runStep Harmless ({ tls }, {}) as) ∧
    exec ServerRun.step { tls := true } (twoClients ++ [plaintext]) = some
      { tls := true
        phase := .returned (.error "received corrupt message of type InvalidContentType")
        closeReceivers := 1
        streams := 2
        tasks := [{ stream := 0 }] } := by
  refine ⟨fun always => ?_, by decide⟩
  have before : exec runStep ({ tls := true }, {}) twoClients = some
      ({ tls := true, phase := .handshaking 1, closeReceivers := 2, streams := 2,
         tasks := [{ stream := 0 }] }, { accepted := [0, 1], established := [0] }) := rfl
  have last := (along_append.mp (always true (twoClients ++ [plaintext]))).2 _ before
  exact harmless_calm last.1 1 rfl

end SparkPlug
