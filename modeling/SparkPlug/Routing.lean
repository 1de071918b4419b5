import SparkPlug.ProxySteps
import SparkPlug.World

/-!
Routing isolation: whatever is sent upstream for a token goes to an address that
was read from a running row with that token.
-/
namespace SparkPlug
open KeyedTable Runs

/-- Dispatcher `d` has read this address from a RUNNING row with the token, in this
server process and in the state the store was in then. -/
def ReadRunning (start : World) (as : List Action) (d : Nat) (token address : String) : Prop :=
  ∃ before later w, as = before ++ .proxy (.resolve d true) :: later ∧
    .restart ∉ later ∧ exec World.step start before = some w ∧
    ∃ r ∈ w.db.rows, r.token = token ∧ r.state = .running ∧ r.address = some address

/-- The proxy keeps tokens apart; `as` are the actions taken since `start`. -/
structure Routed (start : World) (as : List Action) (p : Proxy) : Prop where
  cache : ∀ token d, p.connections.lookup token = some d → p.tokenOf d = some token
  parsed : ∀ task ∈ p.requests, ∀ token, task.phase.token = some token →
    extractBearerToken task.req.headers = .ok token
  senders : ∀ task ∈ p.requests, ∀ token d, task.phase.token = some token →
    task.phase.sender = some d → p.tokenOf d = some token
  messages : ∀ disp ∈ p.dispatchers, ∀ msg ∈ disp.messages,
    extractBearerToken msg.req.headers = .ok disp.token
  addresses : ∀ d disp, p.dispatchers[d]? = some disp → ∀ address, disp.Holds address →
    ReadRunning start as d disp.token address
  sent : ∀ f ∈ p.sent, ∃ token, extractBearerToken f.req.headers = .ok token ∧
    ReadRunning start as f.dispatcher token f.address
  errors : ∀ disp ∈ p.dispatchers, ∀ msg address,
    disp.phase ≠ .failing msg address .invalidAuthorizationToken
  answers : ∀ task ∈ p.requests, task.phase ≠ .answered (.error .invalidAuthorizationToken)

theorem read_later {start : World} {as : List Action} {d : Nat} {token address : String}
    {a : Action} (read : ReadRunning start as d token address) (alive : a ≠ .restart) :
    ReadRunning start (as ++ [a]) d token address := by
  obtain ⟨before, later, w, rfl, noRestart, run, row⟩ := read
  refine ⟨before, later ++ [a], w, by simp, ?_, run, row⟩
  intro member
  rcases List.mem_append.mp member with old | new
  · exact noRestart old
  · exact alive (List.mem_singleton.mp new).symm

/-- A step that leaves dispatchers, requests and what was sent alone, and at most
removes entries from the cache. -/
theorem routed_frame {start : World} {as : List Action} {a : Action} {p q : Proxy}
    (before : Routed start as p) (alive : a ≠ .restart)
    (cache : ∀ token d, q.connections.lookup token = some d → p.connections.lookup token = some d)
    (dispatchers : q.dispatchers = p.dispatchers) (requests : q.requests = p.requests)
    (sent : q.sent = p.sent) : Routed start (as ++ [a]) q := by
  have owner : ∀ d, q.tokenOf d = p.tokenOf d := by
    intro d
    unfold Proxy.tokenOf
    rw [dispatchers]
  constructor
  · intro token d cached
    rw [owner]
    exact before.cache token d (cache token d cached)
  · rw [requests]
    exact before.parsed
  · intro task member token d carries sender
    rw [requests] at member
    rw [owner]
    exact before.senders task member token d carries sender
  · rw [dispatchers]
    exact before.messages
  · intro d disp there address held
    rw [dispatchers] at there
    exact read_later (before.addresses d disp there address held) alive
  · intro f member
    rw [sent] at member
    obtain ⟨token, carries, read⟩ := before.sent f member
    exact ⟨token, carries, read_later read alive⟩
  · rw [dispatchers]
    exact before.errors
  · rw [requests]
    exact before.answers

theorem lookup_erase {connections : AList fun _ : String => Nat} {token key : String} {d : Nat}
    (h : (connections.erase token).lookup key = some d) : connections.lookup key = some d := by
  by_cases same : key = token
  · subst key
    simp [AList.lookup_erase] at h
  · rwa [AList.lookup_erase_ne same] at h

theorem routed_start (start : World) (as : List Action) : Routed start as {} := by
  constructor <;> simp

section
variable {start : World} {as : List Action} {w w' : World} {p : Proxy} {act : ProxyAction}
  {outcome : ProxyOutcome}

theorem routed_cache (before : Routed start as p) (h : p.step w.db act = some outcome) :
    ∀ token d, outcome.proxy.connections.lookup token = some d →
      outcome.proxy.tokenOf d = some token := by
  intro token d cached
  rcases step_connections h with same | ⟨r, req, created, rfl, at_r, absent, inserted⟩ |
    ⟨erased, removed⟩
  · rw [same] at cached
    exact token_of_step h (before.cache token d cached)
  · rw [inserted] at cached
    by_cases same : token = created
    · subst token
      rw [AList.lookup_insert] at cached
      cases cached
      exact spawned_token h at_r absent
    · rw [AList.lookup_insert_ne same] at cached
      exact token_of_step h (before.cache token d cached)
  · rw [removed] at cached
    exact token_of_step h (before.cache token d (lookup_erase cached))

theorem routed_parsed (before : Routed start as p) (h : p.step w.db act = some outcome) :
    ∀ task ∈ outcome.proxy.requests, ∀ token, task.phase.token = some token →
      extractBearerToken task.req.headers = .ok token := by
  intro task' member token carries
  obtain ⟨r, there⟩ := List.mem_iff_getElem?.mp member
  rcases step_request h there with old | ⟨_, _, arrived⟩ | ⟨task, old, same, move⟩
  · exact before.parsed task' (List.mem_of_getElem? old) token carries
  · rcases arrived with ⟨parsed, extracted, phase⟩ | ⟨error, _, phase⟩
    · rw [phase] at carries
      cases carries
      exact extracted
    · simp [phase, RequestPhase.token] at carries
  · rw [same]
    exact before.parsed task (List.mem_of_getElem? old) token (request_token move carries)

theorem routed_senders (before : Routed start as p) (h : p.step w.db act = some outcome) :
    ∀ task ∈ outcome.proxy.requests, ∀ token d, task.phase.token = some token →
      task.phase.sender = some d → outcome.proxy.tokenOf d = some token := by
  intro task' member token d carries sender
  obtain ⟨r, there⟩ := List.mem_iff_getElem?.mp member
  rcases step_request h there with old | ⟨_, _, arrived⟩ | ⟨task, old, same, move⟩
  · exact token_of_step h (before.senders task' (List.mem_of_getElem? old) token d carries sender)
  · rcases arrived with ⟨parsed, _, phase⟩ | ⟨error, _, phase⟩
    · simp [phase, RequestPhase.sender] at sender
    · simp [phase, RequestPhase.sender] at sender
  · have was := request_token move carries
    rcases request_sender move carries sender with cached | ⟨rfl, found, absent, rfl⟩ | held
    · exact token_of_step h (before.cache token d (open_sender_cached cached))
    · have at_r : p.requests[r]? = some { req := task.req, phase := .found token } := by
        rw [← found]
        exact old
      exact spawned_token h at_r absent
    · exact token_of_step h (before.senders task (List.mem_of_getElem? old) token d was held)

theorem routed_messages (before : Routed start as p) (h : p.step w.db act = some outcome) :
    ∀ disp ∈ outcome.proxy.dispatchers, ∀ msg ∈ disp.messages,
      extractBearerToken msg.req.headers = .ok disp.token := by
  intro disp' member msg queued
  obtain ⟨d, there⟩ := List.mem_iff_getElem?.mp member
  rcases dispatcher_origin h there with old | ⟨_, _, _, _, _, _, _, rfl⟩ | ⟨disp, old, move⟩
  · exact before.messages disp' (List.mem_of_getElem? old) msg queued
  · simp [Dispatcher.messages, DispatcherPhase.message] at queued
  · rw [move_token move]
    rcases message_move move queued with held | ⟨r, req, token, rfl, holding, rfl⟩
    · exact before.messages disp (List.mem_of_getElem? old) msg held
    · have waiting := List.mem_of_getElem? holding
      have owner := before.senders _ waiting token d rfl rfl
      have mine : p.tokenOf d = some disp.token := by simp [Proxy.tokenOf, old]
      obtain rfl := Option.some.inj (owner.symm.trans mine)
      exact before.parsed _ waiting disp.token rfl

theorem routed_addresses (run : exec World.step start as = some w)
    (before : Routed start as w.proxy) (h : w.proxy.step w.db act = some outcome) :
    ∀ d disp, outcome.proxy.dispatchers[d]? = some disp → ∀ address, disp.Holds address →
      ReadRunning start (as ++ [.proxy act]) d disp.token address := by
  intro d disp' there address held
  have alive : Action.proxy act ≠ .restart := by simp
  rcases dispatcher_origin h there with old | ⟨_, _, _, _, _, _, _, rfl⟩ | ⟨disp, old, move⟩
  · exact read_later (before.addresses d disp' old address held) alive
  · simp [Dispatcher.Holds, DispatcherPhase.address] at held
  · rw [move_token move]
    rcases holds_move move held with was | ⟨rfl, row⟩
    · exact read_later (before.addresses d disp old address was) alive
    · exact ⟨as, [], w, rfl, by simp, run, row⟩

theorem routed_sent (before : Routed start as p) (h : p.step w.db act = some outcome) :
    ∀ f ∈ outcome.proxy.sent, ∃ token, extractBearerToken f.req.headers = .ok token ∧
      ReadRunning start (as ++ [.proxy act]) f.dispatcher token f.address := by
  intro f member
  have alive : Action.proxy act ≠ .restart := by simp
  have old : f ∈ p.sent → ∃ token, extractBearerToken f.req.headers = .ok token ∧
      ReadRunning start (as ++ [.proxy act]) f.dispatcher token f.address := by
    intro earlier
    obtain ⟨token, carries, read⟩ := before.sent f earlier
    exact ⟨token, carries, read_later read alive⟩
  rcases step_sent h with ⟨same, _⟩ | ⟨d, disp, msg, address, _, at_d, phase, connection, sent, _⟩
  · rw [same] at member
    exact old member
  · rw [sent] at member
    rcases List.mem_append.mp member with earlier | new
    · exact old earlier
    · obtain rfl := List.mem_singleton.mp new
      have handled : msg ∈ disp.messages := by
        simp [Dispatcher.messages, DispatcherPhase.message, phase]
      have carries := before.messages disp (List.mem_of_getElem? at_d) msg handled
      have read := before.addresses d disp at_d address (Or.inr connection)
      exact ⟨disp.token, carries, read_later read alive⟩

theorem routed_errors (before : Routed start as p) (h : p.step w.db act = some outcome) :
    ∀ disp ∈ outcome.proxy.dispatchers, ∀ msg address,
      disp.phase ≠ .failing msg address .invalidAuthorizationToken := by
  intro disp' member msg address
  obtain ⟨d, there⟩ := List.mem_iff_getElem?.mp member
  rcases dispatcher_origin h there with old | ⟨_, _, _, _, _, _, _, rfl⟩ | ⟨disp, old, move⟩
  · exact before.errors disp' (List.mem_of_getElem? old) msg address
  · simp
  · have was := before.errors disp (List.mem_of_getElem? old) msg address
    cases move with
    | enqueued r req token holding => exact was
    | exhausted first read attempt error phase mismatch => simp [mismatch]
    | received first rest phase queue token =>
      by_cases idle : disp.upstream.isNone = true
      · simp [idle]
      · simp [idle]
    | _ => simp

/-- The token check of upstreamConnection never fails. -/
theorem no_mismatch (before : Routed start as p) : ¬ Mismatch p act := by
  intro mismatch
  rcases mismatch with ⟨d, disp, msg, rest, _, at_d, queue, differs⟩ |
    ⟨d, stored, disp, msg, address, _, at_d, phase⟩
  · have queued : msg ∈ disp.messages := by simp [Dispatcher.messages, queue]
    exact differs (before.messages disp (List.mem_of_getElem? at_d) msg queued)
  · exact before.errors disp (List.mem_of_getElem? at_d) msg address phase

theorem routed_answers (before : Routed start as p) (h : p.step w.db act = some outcome) :
    ∀ task ∈ outcome.proxy.requests,
      task.phase ≠ .answered (.error .invalidAuthorizationToken) := by
  intro task' member answered
  obtain ⟨r, there⟩ := List.mem_iff_getElem?.mp member
  rcases step_request h there with old | ⟨_, _, arrived⟩ | ⟨task, old, same, move⟩
  · exact before.answers task' (List.mem_of_getElem? old) answered
  · rcases arrived with ⟨parsed, _, phase⟩ | ⟨error, extracted, phase⟩
    · simp [phase] at answered
    · have known := extract_error extracted
      simp_all
  · rw [answered] at move
    generalize result : (Except.error .invalidAuthorizationToken : Except ProxyError Response) =
      reply at move
    cases move with
    | failed error source =>
      obtain rfl := Except.error.inj result
      exact no_mismatch before (source rfl)
    | responded response awaited => cases response <;> simp [Except.mapError] at result

end

theorem routed_step {start w w' : World} {as : List Action} {a : Action}
    (run : exec World.step start as = some w) (before : Routed start as w.proxy)
    (h : w.step a = some w') : Routed start (as ++ [a]) w'.proxy := by
  cases a with
  | proxy act =>
    obtain ⟨outcome, step, rfl⟩ := Option.map_eq_some_iff.mp h
    constructor
    · exact routed_cache before step
    · exact routed_parsed before step
    · exact routed_senders before step
    · exact routed_messages before step
    · exact routed_addresses run before step
    · exact routed_sent before step
    · exact routed_errors before step
    · exact routed_answers before step
  | routes act =>
    obtain ⟨outcome, step, rfl⟩ := Option.map_eq_some_iff.mp h
    cases removed : outcome.invalidate with
    | none => exact routed_frame before (by simp) (by simp [World.invalidate]) rfl rfl rfl
    | some token =>
      refine routed_frame before (by simp) ?_ rfl rfl rfl
      intro key d cached
      exact lookup_erase cached
  | check act =>
    obtain ⟨outcome, step, rfl⟩ := Option.map_eq_some_iff.mp h
    exact routed_frame before (by simp) (fun _ _ cached => cached) rfl rfl rfl
  | restart =>
    cases h
    exact routed_start start _

theorem routed_run {db : Db} {as : List Action} {w : World}
    (run : exec World.step (.start db) as = some w) : Routed (.start db) as w.proxy := by
  let holds : List Action → World → Prop := fun as w => Routed (.start db) as w.proxy
  have first : holds [] (.start db) := routed_start _ _
  have one : ∀ as s a s', exec World.step (.start db) as = some s → holds as s → True →
      s.step a = some s' → holds (as ++ [a]) s' := by
    intro as s a s' before inv _ step
    exact routed_step before inv step
  exact past_induction first one along_true run

/-- In every run, whatever was sent upstream with a bearer token went to an address
that its dispatcher had read from a running row with that token; the cache maps a
token to a dispatcher of that token, and the token check never fails. -/
theorem routing_isolated {db : Db} {as : List Action} {w : World}
    (run : exec World.step (.start db) as = some w) :
    (∀ f ∈ w.proxy.sent, ∀ token, extractBearerToken f.req.headers = .ok token →
      ReadRunning (.start db) as f.dispatcher token f.address) ∧
    (∀ token d, w.proxy.connections.lookup token = some d → w.proxy.tokenOf d = some token) ∧
    (∀ disp ∈ w.proxy.dispatchers, ∀ msg ∈ disp.messages,
      extractBearerToken msg.req.headers = .ok disp.token) ∧
    ∀ task ∈ w.proxy.requests, task.phase ≠ .answered (.error .invalidAuthorizationToken) := by
  have routed := routed_run run
  refine ⟨?_, routed.cache, routed.messages, routed.answers⟩
  intro f member token carries
  obtain ⟨other, found, read⟩ := routed.sent f member
  rw [carries] at found
  obtain rfl := Except.ok.inj found
  exact read

def bearer (token : String) : Request :=
  { headers := [(AUTHORIZATION, ("Bearer " ++ token).toList.map fun c => UInt8.ofNat c.toNat)]
    pathAndQuery := some "/Config" }

/-- Two applications, and a request of the second owner that meets no dispatcher. -/
def forwardRun : List Action :=
  [.routes (.createInsert "alice" none "token-a" 0 true),
   .routes (.createInsert "bob" none "token-b" 0 true),
   .routes (.appCallback "token-a" "10.0.0.1:15002" "app-1" true),
   .routes (.appCallback "token-b" "10.0.0.2:15002" "app-2" true),
   .proxy (.arrive (bearer "token-b")), .proxy (.lookup 0), .proxy (.storeLookup 0 true),
   .proxy (.lookupOrInsert 0), .proxy (.enqueue 0), .proxy (.receive 0), .proxy (.resolve 0 true),
   .proxy (.connect 0 fun _ => .connected), .proxy (.send 0 .ready)]

theorem forward_run_isolated : ∃ w, exec World.step (.start .new) forwardRun = some w ∧
    w.proxy.sent = [⟨0, bearer "token-b", 0, "10.0.0.2:15002"⟩] ∧
    ReadRunning (.start .new) forwardRun 0 "token-b" "10.0.0.2:15002" := by
  have computed : (exec World.step (.start .new) forwardRun).any (fun w =>
      w.proxy.sent = [⟨0, bearer "token-b", 0, "10.0.0.2:15002"⟩]) = true := by decide
  obtain ⟨w, run, facts⟩ := computed_run computed
  have sent := of_decide_eq_true facts
  refine ⟨w, run, sent, ?_⟩
  have token : extractBearerToken (bearer "token-b").headers = .ok "token-b" := by decide
  exact (routing_isolated run).1 ⟨0, bearer "token-b", 0, "10.0.0.2:15002"⟩ (by simp [sent])
    "token-b" token

end SparkPlug
