import SparkPlug.Library.Queues
import SparkPlug.Library.Runs
import SparkPlug.ProxySteps

/-!
What becomes of the messages of upstreamConnection: which arrive, which are handed to
an upstream, and what is sent on their reply channels. The store is arbitrary in
every step.
-/
namespace SparkPlug
open KeyedTable Queues Runs

namespace Proxy

/-- The messages of each dispatcher, the one being handled first. -/
def queues (p : Proxy) : List (List UpstreamMessage) := p.dispatchers.map Dispatcher.messages

end Proxy

/-- What a step does with a message or its reply channel. -/
inductive Traffic where
  | quiet
  | arrived (d : Nat) (msg : UpstreamMessage)
  | rejected (d : Nat) (msg : UpstreamMessage)
  | forwarded (d : Nat) (msg : UpstreamMessage)
  | answered (r : Nat)

def Traffic.event : Traffic → Event UpstreamMessage
  | .quiet | .answered _ => .quiet
  | .arrived d msg => .arrived d msg
  | .rejected d msg | .forwarded d msg => .taken d msg

/-- The dispatcher whose loop takes the action. -/
def worker : ProxyAction → Option Nat
  | .receive d | .resolve d _ | .connect d _ | .markFailed d _ | .send d _ | .finish d => some d
  | _ => none

/-- The first message of a dispatcher has left it, with the request sent or not. -/
def handled (p p' : Proxy) (d : Nat) : Traffic :=
  match p.queues[d]?, p'.queues[d]? with
  | some (msg :: rest), some waiting =>
    if waiting = rest then if p'.sent = p.sent then .rejected d msg else .forwarded d msg
    else .quiet
  | _, _ => .quiet

def traffic (p p' : Proxy) : ProxyAction → Traffic
  | .enqueue r =>
    match p'.requests[r]? with
    | some { req, phase := .queued _ d } => .arrived d { request := r, req }
    | _ => .quiet
  | .respond r _ => .answered r
  | a =>
    match worker a with
    | some d => handled p p' d
    | none => .quiet

/-- The messages that came and left, and the reply channels used by dispatchers and by
the tasks that await a response. -/
structure ReplyBook where
  log : Log UpstreamMessage := {}
  rejected : List Nat := []
  answered : List Nat := []

namespace ReplyBook

def replies (book : ReplyBook) : List Nat := book.rejected ++ book.answered

def note (book : ReplyBook) (t : Traffic) : ReplyBook :=
  { log := book.log.note t.event
    rejected := match t with
      | .rejected _ msg => book.rejected ++ [msg.request]
      | _ => book.rejected
    answered := match t with
      | .answered r => book.answered ++ [r]
      | _ => book.answered }

end ReplyBook

inductive DispatchAction where
  /- senderFor is called for a request and any token. -/
  | call (req : Request) (token : String)
  /- A step of the proxy on the store as it is now. -/
  | proxy (a : ProxyAction) (db : Db)
  | invalidate (token : String)

def dispatchStep (p : Proxy) : DispatchAction → Option Proxy
  | .call req token => some { p with requests := p.requests ++ [{ req, phase := .parsed token }] }
  | .proxy a db => (p.step db a).map (·.proxy)
  | .invalidate token => some (p.invalidate token)

def dispatchTraffic (p p' : Proxy) : DispatchAction → Traffic
  | .proxy a _ => traffic p p' a
  | _ => .quiet

def keepBook (p : Proxy) (a : DispatchAction) (book : ReplyBook) : ReplyBook :=
  match dispatchStep p a with
  | some p' => book.note (dispatchTraffic p p' a)
  | none => book

/-- A request that has been enqueued, or is done. -/
def RequestPhase.underway : RequestPhase → Bool
  | .queued .. | .answered _ | .dropped => true
  | _ => false

/-- The requests that have been enqueued or are done keep their state, unless a client leaves. -/
def TasksKept (p p' : Proxy) : Prop :=
  ∀ (k : Nat) (task : RequestTask), p.requests[k]? = some task → task.phase.underway →
    p'.requests[k]? = some task ∨ p'.requests[k]? = some { task with phase := .dropped } ∧
      ∃ token d, task.phase = .queued token d

/-- What one step does to the messages, by its traffic. -/
inductive Passed (p : Proxy) : Proxy → Traffic → Prop where
  | quiet {p' : Proxy} (queues : Move p.queues p'.queues .quiet) (sent : p'.sent = p.sent)
      (responses : p'.responses = p.responses) (tasks : TasksKept p p') : Passed p p' .quiet
  | arrived (r : Nat) (req : Request) (token : String) (d : Nat) (disp : Dispatcher)
      (at_r : p.requests[r]? = some { req, phase := .holding token d })
      (at_d : p.dispatchers[d]? = some disp) (live : disp.phase ≠ .ended) :
      Passed p ((p.setDispatcher d { disp with
        queue := disp.queue ++ [{ request := r, req }] }).setPhase r (.queued token d))
        (.arrived d { request := r, req })
  | rejected (d : Nat) (disp disp' : Dispatcher) (msg : UpstreamMessage) (error : ProxyError)
      (at_d : p.dispatchers[d]? = some disp) (first : disp.messages = msg :: disp'.queue) :
      Passed p (p.reject d disp' msg error) (.rejected d msg)
  | forwarded (d : Nat) (disp : Dispatcher) (msg : UpstreamMessage) (address : String)
      (at_d : p.dispatchers[d]? = some disp) (phase : disp.phase = .sending msg)
      (connection : disp.upstream = some address) :
      Passed p (p.sendMessage d disp msg address .ready) (.forwarded d msg)
  | answered (r : Nat) (response : Except String Response) (awaited : r ∈ p.responses) :
      Passed p ({ p with responses := p.responses.erase r }.reply r
        (response.mapError .upstreamRequest)) (.answered r)

section
variable {db : Db} {p : Proxy} {d : Nat} {disp : Dispatcher} {outcome : ProxyOutcome}

/- Two actions whose requests the step relation does not name. -/

theorem store_lookup_enabled {r : Nat} {stored : Bool}
    (h : p.step db (.storeLookup r stored) = some outcome) :
    ∃ req token, p.requests[r]? = some { req, phase := .missed token } := by
  simp only [Proxy.step] at h
  split at h
  · rename_i req token at_r
    exact ⟨req, token, at_r⟩
  · simp at h

theorem enqueue_cases {r : Nat} (h : p.step db (.enqueue r) = some outcome) :
    ∃ req token d disp, p.requests[r]? = some { req, phase := .holding token d } ∧
      p.dispatchers[d]? = some disp ∧
      ((disp.phase = .ended ∧ outcome.proxy = (p.removeClosed token).setPhase r
          (.answered (.error (.internal "Upstream unexpectedly closed")))) ∨
        (disp.phase ≠ .ended ∧ outcome.proxy = (p.setDispatcher d { disp with
          queue := disp.queue ++ [{ request := r, req }] }).setPhase r (.queued token d))) := by
  simp only [Proxy.step] at h
  split at h
  · rename_i req token d at_r
    split at h
    · rename_i disp at_d
      split at h
      · rename_i ended
        cases h
        exact ⟨req, token, d, disp, at_r, at_d, Or.inl ⟨ended, rfl⟩⟩
      · rename_i live
        cases h
        exact ⟨req, token, d, disp, at_r, at_d, Or.inr ⟨live, rfl⟩⟩
    · simp at h
  · simp at h

/- The requests and the queues after the small operations. -/

theorem set_phase_other {r k : Nat} (phase : RequestPhase) (other : k ≠ r) :
    (p.setPhase r phase).requests[k]? = p.requests[k]? := by
  simp [Proxy.setPhase, List.getElem?_modify_ne _ _ (Ne.symm other)]

theorem set_phase_self {r : Nat} {task : RequestTask} (phase : RequestPhase)
    (at_r : p.requests[r]? = some task) :
    (p.setPhase r phase).requests[r]? = some { task with phase } := by
  simp [Proxy.setPhase, at_r]

theorem reply_other {r k : Nat} (result : Except ProxyError Response) (other : k ≠ r) :
    (p.reply r result).requests[k]? = p.requests[k]? := by
  simp [Proxy.reply, List.getElem?_modify_ne _ _ (Ne.symm other)]

theorem set_phase_kept {q : Proxy} {r : Nat} {task : RequestTask} (phase : RequestPhase)
    (same : q.requests = p.requests) (at_r : p.requests[r]? = some task)
    (early : task.phase.underway = false) : TasksKept p (q.setPhase r phase) := by
  intro k other at_k underway
  by_cases self : k = r
  · subst k
    cases at_r.symm.trans at_k
    simp [early] at underway
  · rw [set_phase_other phase self, same]
    exact Or.inl at_k

theorem requests_kept {q : Proxy} (same : q.requests = p.requests) : TasksKept p q := by
  intro k task at_k _
  rw [same]
  exact Or.inl at_k

theorem arrival_kept (task : RequestTask) :
    TasksKept p { p with requests := p.requests ++ [task] } := by
  intro k other at_k _
  have bound := (List.getElem?_eq_some_iff.mp at_k).1
  exact Or.inl (by simp only [List.getElem?_append_left bound, at_k])

theorem queue_at (at_d : p.dispatchers[d]? = some disp) :
    p.queues[d]? = some disp.messages := by
  simp [Proxy.queues, at_d]

theorem queues_set (disp' : Dispatcher) :
    (p.setDispatcher d disp').queues = p.queues.set d disp'.messages := by
  simp [Proxy.queues, Proxy.setDispatcher, List.map_set]

theorem queue_set (at_d : p.dispatchers[d]? = some disp) (disp' : Dispatcher) :
    (p.setDispatcher d disp').queues[d]? = some disp'.messages := by
  have bound := (List.getElem?_eq_some_iff.mp (queue_at at_d)).1
  rw [queues_set, List.getElem?_set_self bound]

/-- A dispatcher that goes on with the same messages changes no queue. -/
theorem queues_same (at_d : p.dispatchers[d]? = some disp) {disp' : Dispatcher}
    (same : disp'.messages = disp.messages) : (p.setDispatcher d disp').queues = p.queues :=
  Tasks.map_changed Dispatcher.messages at_d same

theorem handled_quiet {p' : Proxy} (same : p'.queues = p.queues) : handled p p' d = .quiet := by
  unfold handled
  rw [same]
  cases p.queues[d]? with
  | none => rfl
  | some q =>
    cases q with
    | nil => rfl
    | cons msg rest => simp

theorem handled_first {p' : Proxy} {msg : UpstreamMessage} {rest : List UpstreamMessage}
    (before : p.queues[d]? = some (msg :: rest)) (after : p'.queues[d]? = some rest) :
    handled p p' d = if p'.sent = p.sent then .rejected d msg else .forwarded d msg := by
  simp [handled, before, after]

/-- A step that leaves the queues and what was sent as they are. -/
theorem passed_quiet {p' : Proxy} (queues : p'.queues = p.queues) (sent : p'.sent = p.sent)
    (responses : p'.responses = p.responses) (tasks : TasksKept p p') : Passed p p' .quiet := by
  refine .quiet ?_ sent responses tasks
  rw [queues]
  exact .kept

/-- A dispatcher that goes on with the same messages passes nothing. -/
theorem passed_on (at_d : p.dispatchers[d]? = some disp) {disp' : Dispatcher}
    (same : disp'.messages = disp.messages) :
    Passed p (p.setDispatcher d disp') (handled p (p.setDispatcher d disp') d) := by
  have queues := queues_same at_d same
  rw [handled_quiet queues]
  exact passed_quiet queues rfl rfl (requests_kept rfl)

theorem passed_rejected (at_d : p.dispatchers[d]? = some disp) {disp' : Dispatcher}
    {msg : UpstreamMessage} (error : ProxyError) (first : disp.messages = msg :: disp'.queue) :
    Passed p (p.reject d disp' msg error) (handled p (p.reject d disp' msg error) d) := by
  have before : p.queues[d]? = some (msg :: disp'.queue) := by rw [queue_at at_d, first]
  have after : (p.reject d disp' msg error).queues[d]? = some disp'.queue :=
    queue_set at_d { disp' with phase := .receiving }
  have unsent : (p.reject d disp' msg error).sent = p.sent := rfl
  rw [handled_first before after, if_pos unsent]
  exact .rejected d disp disp' msg error at_d first

theorem passed_forwarded {msg : UpstreamMessage} {address : String}
    (at_d : p.dispatchers[d]? = some disp) (phase : disp.phase = .sending msg)
    (connection : disp.upstream = some address) :
    Passed p (p.sendMessage d disp msg address .ready)
      (handled p (p.sendMessage d disp msg address .ready) d) := by
  have before : p.queues[d]? = some (msg :: disp.queue) := by
    rw [queue_at at_d]
    simp [Dispatcher.messages, phase, DispatcherPhase.message]
  have later : (p.sendMessage d disp msg address .ready).queues[d]? = some disp.queue :=
    queue_set at_d { disp with phase := .receiving }
  have sent : (p.sendMessage d disp msg address .ready).sent ≠ p.sent := by
    simp [Proxy.sendMessage]
  rw [handled_first before later, if_neg sent]
  exact .forwarded d disp msg address at_d phase connection

theorem enqueue_passed {r : Nat} (h : p.step db (.enqueue r) = some outcome) :
    Passed p outcome.proxy (traffic p outcome.proxy (.enqueue r)) := by
  obtain ⟨req, token, d, disp, at_r, at_d, ⟨ended, after⟩ | ⟨live, after⟩⟩ := enqueue_cases h
  · have removed : (p.removeClosed token).requests[r]? =
        some { req, phase := .holding token d } := by
      rw [remove_closed_requests, at_r]
    have same := remove_closed_sent p token
    rw [after]
    simp only [traffic, set_phase_self _ removed]
    refine passed_quiet ?_ same.1 same.2
      (set_phase_kept _ (remove_closed_requests p token) at_r rfl)
    simp [Proxy.queues, Proxy.setPhase]
  · have kept : (p.setDispatcher d { disp with
        queue := disp.queue ++ [{ request := r, req }] }).requests[r]? =
        some { req, phase := .holding token d } := at_r
    rw [after]
    simp only [traffic, set_phase_self _ kept]
    exact .arrived r req token d disp at_r at_d live

/-- Every step passes the messages as its traffic says. -/
theorem step_passed {a : ProxyAction} (h : p.step db a = some outcome) :
    Passed p outcome.proxy (traffic p outcome.proxy a) := by
  -- a step of a task that is not underway
  have early : ∀ {r : Nat} {task : RequestTask} {phase : RequestPhase},
      p.requests[r]? = some task → task.phase.underway = false →
      Passed p (p.setPhase r phase) .quiet := by
    intro r task phase at_r early
    exact passed_quiet rfl rfl rfl (set_phase_kept phase rfl at_r early)
  cases proxy_step h with
  | arrived req phase parsed =>
    exact passed_quiet rfl rfl rfl (arrival_kept _)
  | hit r req token d at_r cached => exact early at_r rfl
  | missed r req token at_r => exact early at_r rfl
  | found r stored req token at_r => exact early at_r rfl
  | unknown r stored error mismatch =>
    obtain ⟨req, token, at_r⟩ := store_lookup_enabled h
    exact early at_r rfl
  | joined r req token d at_r cached => exact early at_r rfl
  | spawned r req token at_r absent =>
    have tasks := set_phase_kept (q := p.insertDispatcher token)
      (.holding token p.dispatchers.length) rfl at_r rfl
    refine .quiet ?_ rfl rfl tasks
    have opened : ((p.insertDispatcher token).setPhase r
        (.holding token p.dispatchers.length)).queues = p.queues ++ [[]] := by
      simp [Proxy.queues, Proxy.insertDispatcher, Proxy.setPhase, Dispatcher.messages,
        DispatcherPhase.message]
    rw [opened]
    exact .opened
  | enqueued r req token d disp at_r at_d => exact enqueue_passed h
  | closed r token message => exact enqueue_passed h
  | dropped r =>
    refine passed_quiet rfl rfl rfl ?_
    intro k task at_k underway
    by_cases self : k = r
    · subst k
      obtain ⟨req, phase⟩ := task
      rw [set_phase_self _ at_k]
      cases phase with
      | queued token d => exact Or.inr ⟨rfl, token, d, rfl⟩
      | answered result => simp [Proxy.step, at_k] at h
      | dropped => exact Or.inl rfl
      | _ => simp [RequestPhase.underway] at underway
    · rw [set_phase_other _ self]
      exact Or.inl at_k
  | received d disp msg rest at_d phase queue token =>
    refine passed_on at_d ?_
    by_cases idle : disp.upstream.isNone = true
    · simp [Dispatcher.messages, DispatcherPhase.message, phase, queue, idle]
    · simp [Dispatcher.messages, DispatcherPhase.message, phase, queue, idle]
  | refused d disp msg rest error at_d phase queue token =>
    refine passed_rejected at_d error ?_
    simp [Dispatcher.messages, DispatcherPhase.message, phase, queue]
  | resolved d stored disp msg address at_d phase round =>
    exact passed_on at_d (by simp [Dispatcher.messages, DispatcherPhase.message, phase])
  | waited d stored disp msg at_d phase =>
    have still : handled p p d = .quiet := handled_quiet rfl
    simp only [traffic, worker, still]
    exact passed_quiet rfl rfl rfl (requests_kept rfl)
  | unresolved d stored disp msg error at_d phase round =>
    exact passed_rejected at_d error (by simp [Dispatcher.messages, DispatcherPhase.message, phase])
  | connected d attempt disp msg address at_d phase =>
    exact passed_on at_d (by simp [Dispatcher.messages, DispatcherPhase.message, phase])
  | exhausted d attempt disp msg address error at_d phase mismatch =>
    exact passed_on at_d (by simp [Dispatcher.messages, DispatcherPhase.message, phase])
  | failed d stored disp msg address lastError error statement at_d phase source =>
    exact passed_rejected at_d error (by simp [Dispatcher.messages, DispatcherPhase.message, phase])
  | unsent d sending disp msg address upstream error at_d phase connection same mismatch =>
    exact passed_rejected at_d error (by simp [Dispatcher.messages, DispatcherPhase.message, phase])
  | sent d disp msg address at_d phase connection =>
    exact passed_forwarded at_d phase connection
  | responded r response awaited => exact .answered r response awaited
  | finished d disp at_d phase queue =>
    exact passed_on at_d (by simp [Dispatcher.messages, DispatcherPhase.message, phase, queue])

theorem dispatch_passed {p' : Proxy} {a : DispatchAction} (h : dispatchStep p a = some p') :
    Passed p p' (dispatchTraffic p p' a) := by
  cases a with
  | call req token =>
    cases h
    exact passed_quiet rfl rfl rfl (arrival_kept _)
  | proxy a db =>
    obtain ⟨outcome, step, rfl⟩ := Option.map_eq_some_iff.mp h
    exact step_passed step
  | invalidate token =>
    cases h
    exact passed_quiet rfl rfl rfl (requests_kept rfl)

theorem passed_move {p' : Proxy} {t : Traffic} (passed : Passed p p' t) :
    Move p.queues p'.queues t.event := by
  cases passed with
  | quiet queues sent responses tasks => exact queues
  | arrived r req token d disp at_r at_d live =>
    have after : ((p.setDispatcher d { disp with
        queue := disp.queue ++ [{ request := r, req }] }).setPhase r (.queued token d)).queues =
        p.queues.set d (disp.messages ++ [{ request := r, req }]) := by
      simp [Proxy.queues, Proxy.setDispatcher, Proxy.setPhase, List.map_set, Dispatcher.messages]
    rw [after]
    exact .arrived d disp.messages _ (queue_at at_d)
  | rejected d disp disp' msg error at_d first =>
    have after : (p.reject d disp' msg error).queues = p.queues.set d disp'.queue :=
      queues_set { disp' with phase := .receiving }
    rw [after]
    exact .taken d disp'.queue msg (by rw [queue_at at_d, first])
  | forwarded d disp msg address at_d phase connection =>
    have after : (p.sendMessage d disp msg address .ready).queues = p.queues.set d disp.queue :=
      queues_set { disp with phase := .receiving }
    rw [after]
    refine .taken d disp.queue msg ?_
    rw [queue_at at_d]
    simp [Dispatcher.messages, phase, DispatcherPhase.message]
  | answered r response awaited => exact .kept

end

/- What the book says of the state. -/

/-- The message that was forwarded, with its dispatcher. -/
def Forwarded.entry (f : Forwarded) : Nat × UpstreamMessage :=
  (f.dispatcher, { request := f.request, req := f.req })

/-- An enqueued request awaits its reply, has it, or was given up by its client. -/
def Delivered (phase : RequestPhase) (replied : Prop) : Prop :=
  match phase with
  | .queued .. => ¬ replied
  | .answered _ => replied
  | .dropped => True
  | _ => False

structure Ledger (p : Proxy) (book : ReplyBook) : Prop where
  fifo : Fifo p.queues book.log
  distinct : (book.log.arrived.map (·.2.request)).Nodup
  tasks : ∀ entry ∈ book.log.arrived, ∃ task, p.requests[entry.2.request]? = some task ∧
    Delivered task.phase (entry.2.request ∈ book.replies)
  order : (p.sent.map Forwarded.entry).Sublist book.log.taken
  split : (book.log.taken.map (·.2.request)).Perm (book.rejected ++ p.sent.map (·.request))
  awaited : (p.sent.map (·.request)).Perm (book.answered ++ p.responses)

theorem delivered_underway {phase : RequestPhase} {replied : Prop}
    (delivered : Delivered phase replied) : phase.underway := by
  cases phase <;> simp_all [Delivered, RequestPhase.underway]

section
variable {p p' : Proxy} {book : ReplyBook}

theorem taken_split (ledger : Ledger p book) :
    (book.log.taken.map (·.2.request)).Perm (book.replies ++ p.responses) := by
  have sent := ledger.split.trans (ledger.awaited.append_left book.rejected)
  rwa [← List.append_assoc] at sent

/-- A reply channel that was used belongs to a message that arrived. -/
theorem replied_arrived (ledger : Ledger p book) {r : Nat} (replied : r ∈ book.replies) :
    ∃ entry ∈ book.log.arrived, entry.2.request = r := by
  have out := (taken_split ledger).mem_iff.mpr (List.mem_append_left _ replied)
  obtain ⟨⟨d, msg⟩, taken, same⟩ := List.mem_map.mp out
  exact ⟨(d, msg), (arrived_iff ledger.fifo d msg).mpr (Or.inl taken), same⟩

theorem reply_delivers {q : Proxy} {r k : Nat} (result : Except ProxyError Response)
    {task : RequestTask} {replied : Prop} (same : q.requests = p.requests)
    (there : p.requests[k]? = some task) (delivered : Delivered task.phase replied) :
    ∃ task', (q.reply r result).requests[k]? = some task' ∧
      Delivered task'.phase (replied ∨ k = r) := by
  by_cases self : k = r
  · subst k
    obtain ⟨req, phase⟩ := task
    cases phase with
    | queued token d =>
      refine ⟨{ req, phase := .answered result }, ?_, Or.inr rfl⟩
      simp [Proxy.reply, same, there]
    | answered earlier =>
      refine ⟨{ req, phase := .answered earlier }, ?_, Or.inl delivered⟩
      simp [Proxy.reply, same, there]
    | dropped =>
      refine ⟨{ req, phase := .dropped }, ?_, trivial⟩
      simp [Proxy.reply, same, there]
    | _ => exact False.elim delivered
  · refine ⟨task, ?_, by simpa [self] using delivered⟩
    rw [reply_other result self, same, there]

theorem tasks_kept_delivered {replied : Prop} (kept : TasksKept p p') {k : Nat}
    {task : RequestTask} (there : p.requests[k]? = some task)
    (delivered : Delivered task.phase replied) :
    ∃ task', p'.requests[k]? = some task' ∧ Delivered task'.phase replied := by
  rcases kept k task there (delivered_underway delivered) with same | ⟨gone, _⟩
  · exact ⟨task, same, delivered⟩
  · exact ⟨_, gone, trivial⟩

/-- A request that still holds its sender has not been enqueued. -/
theorem holding_not_arrived (ledger : Ledger p book) {r : Nat} {req : Request} {token : String}
    {d : Nat} (at_r : p.requests[r]? = some { req, phase := .holding token d }) :
    r ∉ book.log.arrived.map (·.2.request) := by
  intro member
  obtain ⟨entry, arrived, rfl⟩ := List.mem_map.mp member
  obtain ⟨task, there, delivered⟩ := ledger.tasks entry arrived
  cases at_r.symm.trans there
  exact delivered

/-- A reply on a channel is delivered, and changes nothing for the other messages. -/
theorem tasks_replied (ledger : Ledger p book) {q : Proxy} {book' : ReplyBook} {r : Nat}
    (result : Except ProxyError Response) (same : q.requests = p.requests)
    (replies : ∀ k, k ∈ book'.replies ↔ k ∈ book.replies ∨ k = r) :
    ∀ entry ∈ book.log.arrived, ∃ task, (q.reply r result).requests[entry.2.request]? = some task ∧
      Delivered task.phase (entry.2.request ∈ book'.replies) := by
  intro entry arrived
  obtain ⟨task, there, delivered⟩ := ledger.tasks entry arrived
  obtain ⟨task', after, answered⟩ := reply_delivers result same there delivered
  exact ⟨task', after, by simpa only [replies] using answered⟩

/-- A request is enqueued: its message is new, and it awaits its reply. -/
theorem ledger_arrived (ledger : Ledger p book) {r : Nat} {req : Request} {token : String}
    {d : Nat} {disp' : Dispatcher}
    (at_r : p.requests[r]? = some { req, phase := .holding token d })
    (fifo : Fifo ((p.setDispatcher d disp').setPhase r (.queued token d)).queues
      (book.note (.arrived d { request := r, req })).log) :
    Ledger ((p.setDispatcher d disp').setPhase r (.queued token d))
      (book.note (.arrived d { request := r, req })) := by
  have fresh := holding_not_arrived ledger at_r
  refine ⟨fifo, ?_, ?_, ledger.order, ledger.split, ledger.awaited⟩
  · simp only [ReplyBook.note, Traffic.event, Log.note, List.map_append, List.map_cons,
      List.map_nil]
    rw [List.nodup_append]
    refine ⟨ledger.distinct, List.nodup_singleton _, ?_⟩
    intro x old y new same
    rw [List.mem_singleton] at new
    exact fresh (new ▸ same ▸ old)
  · intro entry arrived
    simp only [ReplyBook.note, Traffic.event, Log.note, List.mem_append,
      List.mem_singleton] at arrived
    rcases arrived with old | rfl
    · obtain ⟨task, there, delivered⟩ := ledger.tasks entry old
      have other : entry.2.request ≠ r := fun same =>
        fresh (List.mem_map.mpr ⟨entry, old, same⟩)
      refine ⟨task, ?_, delivered⟩
      rw [set_phase_other _ other]
      exact there
    · have unanswered : r ∉ book.replies := by
        intro replied
        obtain ⟨entry, old, same⟩ := replied_arrived ledger replied
        exact fresh (List.mem_map.mpr ⟨entry, old, same⟩)
      have kept : (p.setDispatcher d disp').requests[r]? =
          some { req, phase := .holding token d } := at_r
      exact ⟨_, set_phase_self _ kept, unanswered⟩

theorem ledger_passed {t : Traffic} (passed : Passed p p' t) (ledger : Ledger p book) :
    Ledger p' (book.note t) := by
  have fifo := fifo_step (passed_move passed) ledger.fifo
  cases passed with
  | quiet queues sent responses tasks =>
    refine ⟨fifo, ledger.distinct, ?_, ?_, ?_, ?_⟩
    · intro entry arrived
      obtain ⟨task, there, delivered⟩ := ledger.tasks entry arrived
      exact tasks_kept_delivered tasks there delivered
    · rw [sent]
      exact ledger.order
    · rw [sent]
      exact ledger.split
    · rw [sent, responses]
      exact ledger.awaited
  | arrived r req token d disp at_r at_d live => exact ledger_arrived ledger at_r fifo
  | rejected d disp disp' msg error at_d first =>
    refine ⟨fifo, ledger.distinct, ?_, ?_, ?_, ledger.awaited⟩
    · refine tasks_replied ledger (.error error) rfl fun k => ?_
      simp only [ReplyBook.note, ReplyBook.replies, List.mem_append, List.mem_singleton]
      tauto
    · exact ledger.order.trans (List.sublist_append_left _ _)
    · have moved : (book.rejected ++ p.sent.map (·.request) ++ [msg.request]).Perm
          (book.rejected ++ [msg.request] ++ p.sent.map (·.request)) := by
        rw [List.append_assoc, List.append_assoc]
        exact List.perm_append_comm.append_left _
      simp only [ReplyBook.note, Traffic.event, Log.note, List.map_append, List.map_cons,
        List.map_nil]
      exact (ledger.split.append_right _).trans moved
  | forwarded d disp msg address at_d phase connection =>
    refine ⟨fifo, ledger.distinct, ledger.tasks, ?_, ?_, ?_⟩
    · simp only [Proxy.sendMessage, List.map_append]
      exact ledger.order.append (List.Sublist.refl _)
    · simp only [Proxy.sendMessage, ReplyBook.note, Traffic.event, Log.note, List.map_append,
        List.map_cons, List.map_nil]
      rw [← List.append_assoc]
      exact ledger.split.append_right _
    · simp only [Proxy.sendMessage, ReplyBook.note, List.map_append, List.map_cons, List.map_nil]
      rw [← List.append_assoc]
      exact ledger.awaited.append_right _
  | answered r response awaited =>
    refine ⟨fifo, ledger.distinct, ?_, ledger.order, ledger.split, ?_⟩
    · refine tasks_replied ledger (response.mapError .upstreamRequest) rfl fun k => ?_
      simp only [ReplyBook.note, ReplyBook.replies, List.mem_append, List.mem_singleton]
      tauto
    · have moved := (List.perm_cons_erase awaited).append_left book.answered
      rw [List.append_cons] at moved
      exact ledger.awaited.trans moved

end

theorem ledger_start : Ledger {} {} := by
  refine ⟨fun d => rfl, List.nodup_nil, ?_, List.Sublist.refl _, List.Perm.refl _, List.Perm.refl _⟩
  intro entry arrived
  simp at arrived

theorem ledger_step {p p' : Proxy} {book book' : ReplyBook} {a : DispatchAction}
    (h : withHistory dispatchStep keepBook (p, book) a = some (p', book'))
    (ledger : Ledger p book) : Ledger p' book' := by
  obtain ⟨step, rfl⟩ := with_history_step.mp h
  simp only [keepBook, step]
  exact ledger_passed (dispatch_passed step) ledger

end SparkPlug
