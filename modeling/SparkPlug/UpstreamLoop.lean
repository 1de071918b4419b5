import SparkPlug.Answers
import SparkPlug.Routing

/-!
The loop of upstreamConnection over whole runs: every message is answered once, what
was forwarded went out in arrival order, and the loop never gets stuck or panics.
-/
namespace SparkPlug
open KeyedTable Queues Runs

/-- The connection a message is sent over is there, and an ended loop has drained its queue. -/
structure Dispatcher.Sound (disp : Dispatcher) : Prop where
  connected : ∀ msg, disp.phase = .sending msg → disp.upstream.isSome
  drained : disp.phase = .ended → disp.queue = []

def Proxy.Sound (p : Proxy) : Prop := ∀ disp ∈ p.dispatchers, disp.Sound

section
variable {db : Db} {p : Proxy} {d : Nat} {disp : Dispatcher} {outcome : ProxyOutcome}

theorem sound_set (sound : p.Sound) {disp' : Dispatcher} (new : disp'.Sound) :
    (p.setDispatcher d disp').Sound := by
  intro other member
  rcases List.mem_or_eq_of_mem_set member with old | rfl
  · exact sound other old
  · exact new

theorem move_sound {a : ProxyAction} {disp' : Dispatcher}
    (move : DispatcherMove db p d disp a disp')
    (other : ∀ r, a ≠ .enqueue r) : disp'.Sound := by
  cases move with
  | enqueued r req token holding => exact absurd rfl (other r)
  | received msg rest phase queue token =>
    by_cases idle : disp.upstream.isNone = true
    · exact ⟨by simp [idle], by simp [idle]⟩
    · refine ⟨fun _ _ => ?_, by simp [idle]⟩
      exact Option.isSome_iff_ne_none.mpr (by simpa using idle)
  | connected msg address attempt phase => exact ⟨fun _ _ => rfl, by simp⟩
  | finished phase queue => exact ⟨by simp, fun _ => queue⟩
  | _ => exact ⟨by simp, by simp⟩

theorem loop_sound_step {a : ProxyAction} (h : p.step db a = some outcome) (sound : p.Sound) :
    outcome.proxy.Sound := by
  by_cases enqueues : ∃ r, a = .enqueue r
  · obtain ⟨r, rfl⟩ := enqueues
    obtain ⟨req, token, d, disp, at_r, at_d, ⟨ended, after⟩ | ⟨live, after⟩⟩ := enqueue_cases h
    · rw [after]
      intro other member
      refine sound other ?_
      rwa [← remove_closed_dispatchers p token]
    · rw [after]
      have before := sound disp (List.mem_of_getElem? at_d)
      exact sound_set sound ⟨before.connected, fun ended => absurd ended live⟩
  · rcases step_dispatchers h with same | ⟨_, _, token, _, _, _, spawned⟩ |
      ⟨d, disp, disp', at_d, changed, move⟩
    · intro disp member
      exact sound disp (same ▸ member)
    · intro disp member
      rw [spawned, List.mem_append, List.mem_singleton] at member
      rcases member with old | rfl
      · exact sound disp old
      · exact ⟨by simp, by simp⟩
    · have new := move_sound move fun r same => enqueues ⟨r, same⟩
      intro other member
      rw [changed] at member
      exact sound_set sound new other member

/-- The loop of a dispatcher ends only at an empty queue whose senders are all gone. -/
theorem ended_by_finish {a : ProxyAction} {disp' : Dispatcher}
    (h : p.step db a = some outcome) (at_d : p.dispatchers[d]? = some disp)
    (live : disp.phase ≠ .ended) (after : outcome.proxy.dispatchers[d]? = some disp')
    (ended : disp'.phase = .ended) :
    a = .finish d ∧ disp.phase = .receiving ∧ disp.queue = [] ∧ p.sendersGone d = true := by
  rcases dispatcher_origin h after with same | ⟨last, _⟩ | ⟨before, there, move⟩
  · cases at_d.symm.trans same
    exact absurd ended live
  · have bound := (List.getElem?_eq_some_iff.mp at_d).1
    omega
  · cases at_d.symm.trans there
    cases move with
    | finished phase queue =>
      refine ⟨rfl, phase, queue, ?_⟩
      simp only [Proxy.step, at_d] at h
      split at h
      · rename_i idle
        simp only [Bool.and_eq_true] at idle
        exact idle.2
      · simp at h
    | enqueued r req token holding => exact absurd ended live
    | received msg rest phase queue token =>
      by_cases idle : disp.upstream.isNone = true
      · simp [idle] at ended
      · simp [idle] at ended
    | _ => simp at ended

/- Nothing is stuck and nothing panics: whatever the outcome, the next step is there. -/

theorem attempts_keep_error (attempt : Nat → ConnectOutcome) (attempts : List Nat)
    (error : ProxyError) : connectAttempts attempt attempts (some error) ≠ .exhausted none := by
  induction attempts generalizing error with
  | nil => simp [connectAttempts]
  | cons first attempts ih =>
    unfold connectAttempts
    cases attempt first with
    | connected => simp [connectUpstream]
    | refused message => exact ih _
    | handshakeFailed message => exact ih _

/-- There is at least one attempt, so exhausted retries have captured an error. -/
theorem connect_exhausted (attempt : Nat → ConnectOutcome) :
    connectWithRetries attempt ≠ .exhausted none := by
  have attempts : List.range (MAX_UPSTREAM_CONNECT_RETRIES + 1) = [0, 1, 2, 3] := by decide
  unfold connectWithRetries
  rw [attempts]
  unfold connectAttempts
  cases attempt 0 with
  | connected => simp [connectUpstream]
  | refused message => exact attempts_keep_error _ _ _
  | handshakeFailed message => exact attempts_keep_error _ _ _

/-- The next step of a dispatcher is enabled for every outcome. -/
def GoesOn (db : Db) (p : Proxy) (d : Nat) (disp : Dispatcher) : Prop :=
  match disp.phase with
  | .receiving =>
    (disp.queue ≠ [] → (p.step db (.receive d)).isSome) ∧
      (disp.queue = [] → p.sendersGone d = true → (p.step db (.finish d)).isSome)
  | .resolving _ => ∀ stored, (p.step db (.resolve d stored)).isSome
  | .connecting _ _ => ∀ attempt, (p.step db (.connect d attempt)).isSome
  | .failing _ _ _ => ∀ stored, (p.step db (.markFailed d stored)).isSome
  | .sending _ => ∀ sending, (p.step db (.send d sending)).isSome
  | .ended => True

theorem goes_on (sound : p.Sound) (at_d : p.dispatchers[d]? = some disp) : GoesOn db p d disp := by
  have well := sound disp (List.mem_of_getElem? at_d)
  unfold GoesOn
  cases phase : disp.phase with
  | receiving =>
    constructor
    · intro waiting
      obtain ⟨msg, rest, queue⟩ := List.exists_cons_of_ne_nil waiting
      simp [Proxy.step, at_d, phase, queue]
    · intro drained gone
      simp [Proxy.step, at_d, phase, drained, gone]
  | resolving msg => simp [Proxy.step, at_d, phase]
  | connecting msg address =>
    intro attempt
    have known := connect_exhausted attempt
    simp only [Proxy.step, at_d, phase]
    cases result : connectWithRetries attempt with
    | exhausted last =>
      cases last with
      | none => exact absurd result known
      | some error => rfl
    | _ => rfl
  | failing msg address error =>
    intro stored
    cases stored <;> simp [Proxy.step, at_d, phase]
  | sending msg =>
    intro sending
    obtain ⟨address, connection⟩ := Option.isSome_iff_exists.mp (well.connected msg phase)
    simp [Proxy.step, at_d, phase, connection]
  | ended => trivial

/- Every step of a dispatcher or of a response task brings the answers closer, unless the
   application is still launching. -/

def DispatcherPhase.toDo : DispatcherPhase → Nat
  | .ended => 0
  | .receiving => 1
  | .failing .. | .sending _ => 3
  | .connecting .. => 4
  | .resolving _ => 5

def Dispatcher.toDo (disp : Dispatcher) : Nat := disp.phase.toDo + 6 * disp.queue.length

def Proxy.toDo (p : Proxy) : Nat := Tasks.total Dispatcher.toDo p.dispatchers + p.responses.length

/-- The dispatcher has read a launching application and sleeps. -/
def Waits (db : Db) (p : Proxy) (a : ProxyAction) : Prop :=
  ∃ d stored disp msg, a = .resolve d stored ∧ p.dispatchers[d]? = some disp ∧
    disp.phase = .resolving msg ∧ resolveRound db disp.token (p.sendersGone d) stored = .wait

theorem to_do_set (at_d : p.dispatchers[d]? = some disp) (disp' : Dispatcher) :
    (p.setDispatcher d disp').toDo + disp.toDo = p.toDo + disp'.toDo := by
  have changed := Tasks.total_changed Dispatcher.toDo at_d disp'
  simp only [Proxy.toDo, Proxy.setDispatcher]
  omega

theorem to_do_lower (at_d : p.dispatchers[d]? = some disp) (disp' : Dispatcher)
    (lower : disp'.toDo < disp.toDo) : (p.setDispatcher d disp').toDo < p.toDo := by
  have changed := to_do_set at_d disp'
  omega

theorem reject_lower (at_d : p.dispatchers[d]? = some disp) {disp' : Dispatcher}
    {msg : UpstreamMessage} (error : ProxyError)
    (lower : 1 + 6 * disp'.queue.length < disp.toDo) :
    (p.reject d disp' msg error).toDo < p.toDo :=
  to_do_lower at_d { disp' with phase := .receiving } lower

theorem resolve_progress {stored : Bool} (h : p.step db (.resolve d stored) = some outcome) :
    outcome.proxy.toDo < p.toDo ∨ Waits db p (.resolve d stored) ∧ outcome.proxy = p := by
  obtain ⟨disp, msg, at_d, phase⟩ := resolve_enabled h
  simp only [Proxy.step, at_d, phase, Option.some.injEq] at h
  subst outcome
  unfold Proxy.resolveUpstreamAddress
  cases round : resolveRound db disp.token (p.sendersGone d) stored with
  | resolved address =>
    exact Or.inl (to_do_lower at_d _ (by simp [Dispatcher.toDo, phase, DispatcherPhase.toDo]))
  | wait => exact Or.inr ⟨⟨d, stored, disp, msg, rfl, at_d, phase, round⟩, rfl⟩
  | error error =>
    exact Or.inl (reject_lower at_d error (by simp [Dispatcher.toDo, phase, DispatcherPhase.toDo]))

/-- The steps of dispatchers and of the tasks that await a response. -/
def Handles (a : ProxyAction) : Prop :=
  (worker a).isSome ∨ ∃ r response, a = .respond r response

theorem handling_progress {a : ProxyAction} (h : p.step db a = some outcome) (handles : Handles a) :
    outcome.proxy.toDo < p.toDo ∨ Waits db p a ∧ outcome.proxy = p := by
  cases proxy_step h with
  | received d disp msg rest at_d phase queue token =>
    refine Or.inl (to_do_lower at_d _ ?_)
    by_cases idle : disp.upstream.isNone = true
    · simp [Dispatcher.toDo, phase, queue, idle, DispatcherPhase.toDo]
      omega
    · simp [Dispatcher.toDo, phase, queue, idle, DispatcherPhase.toDo]
      omega
  | refused d disp msg rest error at_d phase queue token =>
    refine Or.inl (reject_lower at_d error ?_)
    simp [Dispatcher.toDo, phase, queue, DispatcherPhase.toDo]
  | resolved | waited | unresolved => exact resolve_progress h
  | connected d attempt disp msg address at_d phase =>
    exact Or.inl (to_do_lower at_d _ (by simp [Dispatcher.toDo, phase, DispatcherPhase.toDo]))
  | exhausted d attempt disp msg address error at_d phase mismatch =>
    exact Or.inl (to_do_lower at_d _ (by simp [Dispatcher.toDo, phase, DispatcherPhase.toDo]))
  | failed d stored disp msg address lastError error statement at_d phase source =>
    exact Or.inl (reject_lower at_d error (by simp [Dispatcher.toDo, phase, DispatcherPhase.toDo]))
  | unsent d sending disp msg address upstream error at_d phase connection same mismatch =>
    exact Or.inl (reject_lower at_d error (by simp [Dispatcher.toDo, phase, DispatcherPhase.toDo]))
  | sent d disp msg address at_d phase connection =>
    have changed := to_do_set at_d { disp with phase := .receiving }
    simp only [Dispatcher.toDo, phase, DispatcherPhase.toDo] at changed
    simp only [Proxy.toDo, Proxy.setDispatcher, List.length_append,
      List.length_singleton] at changed ⊢
    omega
  | responded r response awaited =>
    have erased := List.length_erase_of_mem awaited
    have some_left := List.length_pos_of_mem awaited
    simp only [Proxy.toDo, Proxy.reply]
    omega
  | finished d disp at_d phase queue =>
    exact Or.inl (to_do_lower at_d _ (by
      simp [Dispatcher.toDo, phase, queue, DispatcherPhase.toDo]))
  | _ => simp [Handles, worker] at handles

theorem resolve_without_store (token : String) (closed : Bool) :
    resolveRound db token closed false ≠ .wait := by
  cases closed <;> simp [resolveRound]

/-- No step of a dispatcher or of a response task changes anything. -/
def Still (p : Proxy) : Prop :=
  ∀ db a outcome, Handles a → p.step db a = some outcome → outcome.proxy = p

theorem still_stuck (still : Still p) {a : ProxyAction} (handles : Handles a)
    (awake : ¬ Waits db p a) : (p.step db a).isSome = false := by
  cases next : p.step db a with
  | none => rfl
  | some outcome =>
    have same := still db a outcome handles next
    rcases handling_progress next handles with lower | ⟨waits, _⟩
    · rw [same] at lower
      exact absurd lower (Nat.lt_irrefl _)
    · exact absurd waits awake

theorem still_idle (sound : p.Sound) (still : Still p) (at_d : p.dispatchers[d]? = some disp) :
    disp.messages = [] := by
  have next : GoesOn .new p d disp := goes_on sound at_d
  unfold GoesOn at next
  cases phase : disp.phase with
  | receiving =>
    simp only [phase] at next
    by_contra waiting
    have queue : disp.queue ≠ [] := by
      simpa [Dispatcher.messages, phase, DispatcherPhase.message] using waiting
    have enabled := next.1 queue
    rw [still_stuck still (Or.inl rfl) (by simp [Waits])] at enabled
    simp at enabled
  | resolving msg =>
    simp only [phase] at next
    have awake : ¬ Waits .new p (.resolve d false) := by
      rintro ⟨_, _, disp, msg, same, _, _, round⟩
      cases same
      exact resolve_without_store _ _ round
    have stuck := still_stuck still (Or.inl rfl) awake
    have enabled := next false
    simp [stuck] at enabled
  | connecting msg address =>
    simp only [phase] at next
    have enabled := next fun _ => .connected
    rw [still_stuck still (Or.inl rfl) (by simp [Waits])] at enabled
    simp at enabled
  | failing msg address error =>
    simp only [phase] at next
    have enabled := next true
    rw [still_stuck still (Or.inl rfl) (by simp [Waits])] at enabled
    simp at enabled
  | sending msg =>
    simp only [phase] at next
    have enabled := next .ready
    rw [still_stuck still (Or.inl rfl) (by simp [Waits])] at enabled
    simp at enabled
  | ended =>
    have drained := (sound disp (List.mem_of_getElem? at_d)).drained phase
    simp [Dispatcher.messages, phase, DispatcherPhase.message, drained]

/-- When nothing changes any more, nothing is left to do. -/
theorem nothing_left (sound : p.Sound) (still : Still p) :
    (∀ d, p.queues.getD d [] = []) ∧ p.responses = [] := by
  constructor
  · intro d
    cases at_d : p.dispatchers[d]? with
    | none => simp [Proxy.queues, at_d]
    | some disp =>
      simp [List.getD_eq_getElem?_getD, queue_at at_d, still_idle sound still at_d]
  · by_contra pending
    obtain ⟨r, rest, awaited⟩ := List.exists_cons_of_ne_nil pending
    have stuck : (p.step .new (.respond r (.ok 0))).isSome = false :=
      still_stuck still (Or.inr ⟨r, _, rfl⟩) (by simp [Waits])
    simp [Proxy.step, awaited] at stuck

/- A failure concerns one message. -/

/-- Nothing changes but the requests with number `r`. -/
def OthersKept (p p' : Proxy) (r : Nat) : Prop :=
  p'.sent = p.sent ∧ ∀ k, k ≠ r → p'.requests[k]? = p.requests[k]?

/-- A rejection answers its own message, and takes nothing else. -/
def RejectsAlone (p p' : Proxy) (d : Nat) (msg : UpstreamMessage) : Prop :=
  OthersKept p p' msg.request ∧ p'.responses = p.responses ∧
    (∀ e, e ≠ d → p'.dispatchers[e]? = p.dispatchers[e]?) ∧
    ∃ rest, p.queues[d]? = some (msg :: rest) ∧ p'.queues[d]? = some rest

/-- A failed response answers its own request, and takes nothing else. -/
def FailsAlone (p p' : Proxy) (r : Nat) : Prop :=
  OthersKept p p' r ∧ p'.responses = p.responses.erase r ∧ p'.dispatchers = p.dispatchers

theorem rejects_alone {p' : Proxy} {msg : UpstreamMessage}
    (passed : Passed p p' (.rejected d msg)) :
    RejectsAlone p p' d msg := by
  cases passed with
  | rejected _ disp disp' _ error at_d first =>
    refine ⟨⟨rfl, fun k other => reply_other _ other⟩, rfl, ?_, disp'.queue, ?_, ?_⟩
    · intro e other
      exact List.getElem?_set_ne (Ne.symm other)
    · rw [queue_at at_d, first]
    · exact queue_set at_d { disp' with phase := .receiving }

theorem fails_alone {r : Nat} {response : Except String Response}
    (h : p.step db (.respond r response) = some outcome) : FailsAlone p outcome.proxy r := by
  cases proxy_step h with
  | responded _ _ awaited => exact ⟨⟨rfl, fun k other => reply_other _ other⟩, rfl, rfl⟩

/- Without a connection nothing is sent before the address is resolved again. -/

/-- The dispatcher has no connection and opens none. -/
def Unconnected (p : Proxy) (d : Nat) : Prop :=
  ∀ disp, p.dispatchers[d]? = some disp → disp.upstream = none ∧
    (disp.phase = .receiving ∨ disp.phase = .ended ∨ ∃ msg, disp.phase = .resolving msg)

/-- What a dispatcher has sent, in order. -/
def sentBy (p : Proxy) (d : Nat) : List UpstreamMessage := ofQueue d (p.sent.map Forwarded.entry)

theorem unconnected_step {a : ProxyAction} (h : p.step db a = some outcome)
    (unresolved : ∀ stored, a ≠ .resolve d stored) (idle : Unconnected p d) :
    Unconnected outcome.proxy d := by
  intro disp' there
  rcases dispatcher_origin h there with same | ⟨_, _, _, token, _, _, _, rfl⟩ | ⟨disp, at_d, move⟩
  · exact idle disp' same
  · exact ⟨rfl, Or.inl rfl⟩
  · obtain ⟨none, still⟩ := idle disp at_d
    cases move with
    | enqueued r req token holding => exact ⟨none, still⟩
    | received msg rest phase queue token => exact ⟨none, by simp [none]⟩
    | refused msg rest phase queue token => exact ⟨none, Or.inl rfl⟩
    | resolved msg address stored phase round => exact absurd rfl (unresolved stored)
    | unresolved msg error stored phase round => exact absurd rfl (unresolved stored)
    | connected msg address attempt phase => simp [phase] at still
    | exhausted msg address attempt error phase mismatch => simp [phase] at still
    | failed msg address error stored phase => simp [phase] at still
    | sent msg address sending upstream phase connection same => simp [phase] at still
    | finished phase queue => exact ⟨rfl, Or.inr (Or.inl rfl)⟩

theorem unconnected_sends_nothing {a : ProxyAction} (h : p.step db a = some outcome)
    (idle : Unconnected p d) : sentBy outcome.proxy d = sentBy p d := by
  unfold sentBy
  rcases step_sent h with ⟨same, _⟩ | ⟨e, disp, msg, address, _, at_e, phase, _, sent, _⟩
  · rw [same]
  · have other : e ≠ d := by
      rintro rfl
      have still := (idle disp at_e).2
      simp [phase] at still
    rw [sent, List.map_append, of_queue_append]
    simp [Forwarded.entry, of_queue_other _ other]

theorem unconnected_run {as : List DispatchAction} {p' : Proxy} (idle : Unconnected p d)
    (unresolved : ∀ a ∈ as, ∀ stored db, a ≠ .proxy (.resolve d stored) db)
    (run : exec dispatchStep p as = some p') : Unconnected p' d ∧ sentBy p' d = sentBy p d := by
  have kept : Preserves dispatchStep (fun _ a => ∀ stored db, a ≠ .proxy (.resolve d stored) db)
      fun q => Unconnected q d ∧ sentBy q d = sentBy p d := by
    rintro q a q' ⟨still, same⟩ other h
    cases a with
    | call req token =>
      cases h
      exact ⟨still, same⟩
    | proxy a db =>
      obtain ⟨outcome, step, rfl⟩ := Option.map_eq_some_iff.mp h
      have before : ∀ stored, a ≠ .resolve d stored := by
        rintro stored rfl
        exact other stored db rfl
      exact ⟨unconnected_step step before still, (unconnected_sends_nothing step still).trans same⟩
    | invalidate token =>
      cases h
      exact ⟨still, same⟩
  exact invariant_run kept ⟨idle, rfl⟩ (along_of_mem unresolved) run

/-- A connection that is not ready is given up. -/
theorem not_ready_unconnected {message : String}
    (h : p.step db (.send d (.notReady message)) = some outcome) :
    Unconnected outcome.proxy d := by
  intro disp' there
  simp only [Proxy.step] at h
  split at h
  · rename_i disp at_d
    split at h
    · rename_i msg address phase connection
      cases h
      have after := (List.getElem?_set_self (List.getElem?_eq_some_iff.mp at_d).1).symm.trans there
      cases after
      exact ⟨rfl, Or.inl rfl⟩
    · simp at h
  · simp at h

end

/-- What holds of the answers in every state of a run. -/
structure AnsweredOnce (p : Proxy) (book : ReplyBook) : Prop where
  /- No reply channel is used twice, and only those of messages are used. -/
  once : book.replies.Nodup
  only_arrived : ∀ r ∈ book.replies, ∃ entry ∈ book.log.arrived, entry.2.request = r
  /- A message has its reply unless it still waits or its response is awaited. -/
  accounted : ∀ d msg, (d, msg) ∈ book.log.arrived →
    (msg.request ∈ book.replies ↔ msg ∉ p.queues.getD d [] ∧ msg.request ∉ p.responses)
  complete : (∀ d, p.queues.getD d [] = []) → p.responses = [] →
    ∀ entry ∈ book.log.arrived, book.replies.count entry.2.request = 1
  delivered : ∀ entry ∈ book.log.arrived, ∃ task, p.requests[entry.2.request]? = some task ∧
    Delivered task.phase (entry.2.request ∈ book.replies)
  sent_once : (p.sent.map (·.request)).Nodup
  sent_iff : ∀ r ∈ book.replies, (r ∈ p.sent.map (·.request) ↔ r ∈ book.answered)
  in_order : ∀ d, (sentBy p d).Sublist (ofQueue d book.log.arrived)
  drained : ∀ (d : Nat) (disp : Dispatcher), p.dispatchers[d]? = some disp →
    disp.phase = .ended → ofQueue d book.log.taken = ofQueue d book.log.arrived

/-- What holds of the next steps in every state of a run. -/
structure LoopSteps (p : Proxy) : Prop where
  goes_on : ∀ db (d : Nat) (disp : Dispatcher), p.dispatchers[d]? = some disp → GoesOn db p d disp
  awaited : ∀ db, ∀ r ∈ p.responses, ∀ response, (p.step db (.respond r response)).isSome
  progress : ∀ db a outcome, Handles a → p.step db a = some outcome →
    outcome.proxy.toDo < p.toDo ∨ Waits db p a ∧ outcome.proxy = p
  nothing_left : Still p → (∀ d, p.queues.getD d [] = []) ∧ p.responses = []
  rejects : ∀ db a outcome d msg, p.step db a = some outcome →
    traffic p outcome.proxy a = .rejected d msg → RejectsAlone p outcome.proxy d msg
  fails : ∀ db r error outcome, p.step db (.respond r (.error error)) = some outcome →
    FailsAlone p outcome.proxy r
  reconnects : ∀ db d message outcome, p.step db (.send d (.notReady message)) = some outcome →
    ∀ as p', exec dispatchStep outcome.proxy as = some p' →
      (∀ a ∈ as, ∀ stored db, a ≠ .proxy (.resolve d stored) db) →
      Unconnected p' d ∧ sentBy p' d = sentBy outcome.proxy d
  ends : ∀ db a outcome (d : Nat) (disp disp' : Dispatcher), p.step db a = some outcome →
    p.dispatchers[d]? = some disp → disp.phase ≠ .ended →
    outcome.proxy.dispatchers[d]? = some disp' → disp'.phase = .ended →
    a = .finish d ∧ disp.phase = .receiving ∧ disp.queue = [] ∧ p.sendersGone d = true

theorem answered_once {p : Proxy} {book : ReplyBook} (sound : p.Sound) (ledger : Ledger p book) :
    AnsweredOnce p book := by
  have split := taken_split ledger
  have parted : (book.replies ++ p.responses).Nodup :=
    split.nodup_iff.mp (taken_once ledger.fifo ledger.distinct)
  have apart : ∀ r ∈ book.replies, r ∉ p.responses := by
    intro r replied awaited
    exact (List.nodup_append.mp parted).2.2 r replied r awaited rfl
  have accounted : ∀ d msg, (d, msg) ∈ book.log.arrived →
      (msg.request ∈ book.replies ↔ msg ∉ p.queues.getD d [] ∧ msg.request ∉ p.responses) := by
    intro d msg arrived
    constructor
    · intro replied
      refine ⟨fun waits => ?_, apart _ replied⟩
      have out := split.mem_iff.mpr (List.mem_append_left p.responses replied)
      exact waiting_not_taken ledger.fifo ledger.distinct waits out
    · rintro ⟨gone, unawaited⟩
      have taken := ((arrived_iff ledger.fifo d msg).mp arrived).resolve_right gone
      have out := split.mem_iff.mp (List.mem_map.mpr ⟨(d, msg), taken, rfl⟩)
      exact (List.mem_append.mp out).resolve_right unawaited
  refine
    { once := (List.nodup_append.mp parted).1
      only_arrived := fun r replied => replied_arrived ledger replied
      accounted := accounted
      complete := ?_
      delivered := ledger.tasks
      sent_once := ?_
      sent_iff := ?_
      in_order := fun d => (of_queue_sublist ledger.order).trans (taken_in_order ledger.fifo d)
      drained := ?_ }
  · rintro empty none ⟨d, msg⟩ arrived
    have left : msg ∉ p.queues.getD d [] := by
      rw [empty d]
      exact List.not_mem_nil
    have replied := (accounted d msg arrived).mpr ⟨left, by simp [none]⟩
    exact List.count_eq_one_of_mem (List.nodup_append.mp parted).1 replied
  · have whole := ledger.split.nodup_iff.mp (taken_once ledger.fifo ledger.distinct)
    exact (List.nodup_append.mp whole).2.1
  · intro r replied
    constructor
    · intro sent
      exact (List.mem_append.mp (ledger.awaited.mem_iff.mp sent)).resolve_right (apart r replied)
    · intro answered
      exact ledger.awaited.mem_iff.mpr (List.mem_append_left _ answered)
  · intro d disp at_d ended
    have empty := (sound disp (List.mem_of_getElem? at_d)).drained ended
    have waiting : p.queues.getD d [] = [] := by
      simp [List.getD_eq_getElem?_getD, queue_at at_d, Dispatcher.messages, ended, empty,
        DispatcherPhase.message]
    have fifo := ledger.fifo d
    rw [waiting, List.append_nil] at fifo
    exact fifo.symm

theorem loop_steps {p : Proxy} (sound : p.Sound) : LoopSteps p where
  goes_on _ _ _ at_d := goes_on sound at_d
  awaited _ r member _ := by simp [Proxy.step, member]
  progress _ _ _ handles h := handling_progress h handles
  nothing_left still := SparkPlug.nothing_left sound still
  rejects _ _ _ _ _ h rejected := rejects_alone (rejected ▸ step_passed h)
  fails _ _ _ _ h := fails_alone h
  reconnects _ _ _ _ h _ _ run unresolved :=
    unconnected_run (not_ready_unconnected h) unresolved run
  ends _ _ _ _ _ _ h at_d live after ended := ended_by_finish h at_d live after ended

theorem dispatch_sound {p p' : Proxy} {a : DispatchAction} (h : dispatchStep p a = some p')
    (sound : p.Sound) : p'.Sound := by
  cases a with
  | call req token =>
    cases h
    exact sound
  | proxy a db =>
    obtain ⟨outcome, step, rfl⟩ := Option.map_eq_some_iff.mp h
    exact loop_sound_step step sound
  | invalidate token =>
    cases h
    exact sound

/-- Over every run, from the empty proxy and for any messages and outcomes: every message
is answered once, and the loops handle them without getting stuck. -/
theorem every_message_answered_once {as : List DispatchAction} {p : Proxy} {book : ReplyBook}
    (run : exec (withHistory dispatchStep keepBook) ({}, {}) as = some (p, book)) :
    AnsweredOnce p book ∧ LoopSteps p := by
  have kept : Preserves (withHistory dispatchStep keepBook) (fun _ _ => True)
      fun s => s.1.Sound ∧ Ledger s.1 s.2 := by
    rintro ⟨q, b⟩ a ⟨q', b'⟩ ⟨sound, ledger⟩ _ h
    exact ⟨dispatch_sound (with_history_step.mp h).1 sound, ledger_step h ledger⟩
  have start : (({}, {}) : Proxy × ReplyBook).1.Sound := by
    intro disp member
    cases member
  obtain ⟨sound, ledger⟩ := invariant_run kept ⟨start, ledger_start⟩ along_true run
  exact ⟨answered_once sound ledger, loop_steps sound⟩

def registeredDb : Db :=
  (Db.new.exec (.createInsert "alice" none "token-a" 0)).exec
    (.appCallback "token-a" "10.0.0.1:15002" "app-1")

/-- The first request is forwarded, the second carries another token, and the connection is
not ready for the third; the first response comes last. -/
def threeRequests : List DispatchAction :=
  [.call (bearer "token-a") "token-a", .call (bearer "token-b") "token-a",
   .call (bearer "token-a") "token-a",
   .proxy (.lookup 0) registeredDb, .proxy (.storeLookup 0 true) registeredDb,
   .proxy (.lookupOrInsert 0) registeredDb, .proxy (.lookup 1) registeredDb,
   .proxy (.lookup 2) registeredDb, .proxy (.enqueue 0) registeredDb,
   .proxy (.enqueue 1) registeredDb,
   .proxy (.enqueue 2) registeredDb, .proxy (.receive 0) registeredDb,
   .proxy (.resolve 0 true) registeredDb, .proxy (.connect 0 fun _ => .connected) registeredDb,
   .proxy (.send 0 .ready) registeredDb, .proxy (.receive 0) registeredDb,
   .proxy (.receive 0) registeredDb, .proxy (.send 0 (.notReady "closed")) registeredDb,
   .proxy (.respond 0 (.ok 200)) registeredDb]

theorem three_requests_answered : ∃ p book,
    exec (withHistory dispatchStep keepBook) ({}, {}) threeRequests = some (p, book) ∧
    book.replies = [1, 2, 0] ∧ book.answered = [0] ∧ p.sent.map (·.request) = [0] ∧
    AnsweredOnce p book ∧ LoopSteps p := by
  have computed : (exec (withHistory dispatchStep keepBook) ({}, {}) threeRequests).any (fun s =>
      s.2.replies = [1, 2, 0] && s.2.answered = [0] && s.1.sent.map (·.request) = [0]) = true := by
    decide
  obtain ⟨⟨p, book⟩, run, facts⟩ := computed_run computed
  simp only [Bool.and_eq_true, decide_eq_true_eq] at facts
  exact ⟨p, book, run, facts.1.1, facts.1.2, facts.2, every_message_answered_once run⟩

/-- Every run of one server process drives its proxy along such steps. -/
theorem world_run_dispatch {db : Db} {actions : List Action} {w : World}
    (run : exec World.step (.start db) actions = some w) (running : Action.restart ∉ actions) :
    ∃ as, exec dispatchStep {} as = some w.proxy := by
  refine world_run_proxy ?_ ?_ run running
  · intro p token
    exact ⟨.invalidate token, rfl⟩
  · intro db p act outcome step
    exact ⟨.proxy act db, by simp [dispatchStep, step]⟩

end SparkPlug
