import SparkPlug.Cluster
import SparkPlug.SessionAgreement

/-!
What the servers of a cluster forward. A server reads addresses from the shared store
only, and nothing tells it that another server has ended a session: it goes on with the
connections that it has or is opening, and gets no other address.
-/
namespace SparkPlug
open KeyedTable Runs Shared

/-- Each dispatcher, message and request stays with one token. `held` says which addresses a
dispatcher may be connected to, `gone` which requests may have been forwarded. -/
structure Carried (held : Nat → String → String → Prop) (gone : Forwarded → String → Prop)
    (p : Proxy) : Prop where
  cache : ∀ token d, p.connections.lookup token = some d → p.tokenOf d = some token
  parsed : ∀ (r : Nat) task, p.requests[r]? = some task → ∀ token, task.phase.token = some token →
    extractBearerToken task.req.headers = .ok token
  senders : ∀ (r : Nat) task, p.requests[r]? = some task → ∀ token d,
    task.phase.token = some token → task.phase.sender = some d → p.tokenOf d = some token
  messages : ∀ (d : Nat) disp, p.dispatchers[d]? = some disp → ∀ msg ∈ disp.messages,
    extractBearerToken msg.req.headers = .ok disp.token
  addresses : ∀ (d : Nat) disp, p.dispatchers[d]? = some disp → ∀ address, disp.Holds address →
    held d disp.token address
  sent : ∀ f ∈ p.sent, ∃ token, extractBearerToken f.req.headers = .ok token ∧ gone f token

section
variable {held held' : Nat → String → String → Prop} {gone gone' : Forwarded → String → Prop}

theorem carried_start : Carried held gone {} := by
  constructor <;> simp

theorem carried_mono {p : Proxy} (before : Carried held gone p)
    (keeps : ∀ d token address, held d token address → held' d token address)
    (still : ∀ f token, gone f token → gone' f token) : Carried held' gone' p := by
  constructor
  · exact before.cache
  · exact before.parsed
  · exact before.senders
  · exact before.messages
  · intro d disp there address holds
    exact keeps d disp.token address (before.addresses d disp there address holds)
  · intro f member
    obtain ⟨token, carries, forwarded⟩ := before.sent f member
    exact ⟨token, carries, still f token forwarded⟩

theorem carried_invalidate {p : Proxy} (before : Carried held gone p) (token : String) :
    Carried held gone (p.invalidate token) := by
  constructor
  · intro key d cached
    exact before.cache key d (lookup_erase cached)
  · exact before.parsed
  · exact before.senders
  · exact before.messages
  · exact before.addresses
  · exact before.sent

section
variable {db : Db} {p : Proxy} {act : ProxyAction} {outcome : ProxyOutcome}

theorem carried_cache (before : Carried held gone p) (h : p.step db act = some outcome) :
    ∀ token d, outcome.proxy.connections.lookup token = some d →
      outcome.proxy.tokenOf d = some token := by
  intro token d cached
  rcases step_connections h with same | ⟨r, req, created, rfl, at_r, absent, inserted⟩ |
    ⟨erased, removed⟩
  · exact token_of_step h (before.cache token d (same ▸ cached))
  · by_cases new : token = created
    · subst token
      rw [inserted, AList.lookup_insert] at cached
      obtain rfl := Option.some.inj cached
      exact spawned_token h at_r absent
    · rw [inserted, AList.lookup_insert_ne new] at cached
      exact token_of_step h (before.cache token d cached)
  · rw [removed] at cached
    exact token_of_step h (before.cache token d (lookup_erase cached))

/-- The token of a request and the channel it holds, after a step. -/
theorem carried_request (before : Carried held gone p) (h : p.step db act = some outcome) {r : Nat}
    {task : RequestTask} (there : outcome.proxy.requests[r]? = some task) {token : String}
    (carries : task.phase.token = some token) :
    extractBearerToken task.req.headers = .ok token ∧
      ∀ d, task.phase.sender = some d → outcome.proxy.tokenOf d = some token := by
  rcases step_request h there with old | ⟨_, _, ⟨parsed, extracted, phase⟩ | ⟨_, _, phase⟩⟩ |
    ⟨task', old, same, move⟩
  · exact ⟨before.parsed r task old token carries, fun d sender =>
      token_of_step h (before.senders r task old token d carries sender)⟩
  · rw [phase] at carries
    obtain rfl := Option.some.inj carries
    exact ⟨extracted, by simp [phase, RequestPhase.sender]⟩
  · simp [phase, RequestPhase.token] at carries
  · have was := request_token move carries
    rw [same]
    refine ⟨before.parsed r task' old token was, fun d sender => ?_⟩
    rcases request_sender move carries sender with cached | ⟨rfl, found, absent, rfl⟩ | still
    · exact token_of_step h (before.cache token d (open_sender_cached cached))
    · have at_r : p.requests[r]? = some { req := task'.req, phase := .found token } := by
        rw [← found]
        exact old
      exact spawned_token h at_r absent
    · exact token_of_step h (before.senders r task' old token d was still)

theorem carried_messages (before : Carried held gone p) (h : p.step db act = some outcome) :
    ∀ (d : Nat) disp, outcome.proxy.dispatchers[d]? = some disp → ∀ msg ∈ disp.messages,
      extractBearerToken msg.req.headers = .ok disp.token := by
  intro d disp' there msg queued
  rcases dispatcher_origin h there with old | ⟨_, _, _, _, _, _, _, rfl⟩ | ⟨disp, old, move⟩
  · exact before.messages d disp' old msg queued
  · simp [Dispatcher.messages, DispatcherPhase.message] at queued
  · rw [move_token move]
    rcases message_move move queued with was | ⟨r, req, token, rfl, holding, rfl⟩
    · exact before.messages d disp old msg was
    · have owner := before.senders r _ holding token d rfl rfl
      have mine : p.tokenOf d = some disp.token := by simp [Proxy.tokenOf, old]
      obtain rfl := Option.some.inj (owner.symm.trans mine)
      exact before.parsed r _ holding _ rfl

/-- One step of the proxy. A new address comes from a row that is RUNNING in the store. -/
theorem carried_proxy (before : Carried held gone p) (h : p.step db act = some outcome)
    (keeps : ∀ d token address, held d token address → held' d token address)
    (still : ∀ f token, gone f token → gone' f token)
    (reads : ∀ d, act = .resolve d true → ∀ r ∈ db.rows, r.state = .running →
      ∀ address, r.address = some address → held' d r.token address)
    (forwards : ∀ f token, held f.dispatcher token f.address → gone' f token) :
    Carried held' gone' outcome.proxy := by
  constructor
  · exact carried_cache before h
  · intro r task there token carries
    exact (carried_request before h there carries).1
  · intro r task there token d carries sender
    exact (carried_request before h there carries).2 d sender
  · exact carried_messages before h
  · intro d disp' there address holds
    rcases dispatcher_origin h there with old | ⟨_, _, _, _, _, _, _, rfl⟩ | ⟨disp, old, move⟩
    · exact keeps d _ address (before.addresses d disp' old address holds)
    · simp [Dispatcher.Holds, DispatcherPhase.address] at holds
    · rw [move_token move]
      rcases holds_move move holds with was | ⟨rfl, r, member, owner, running, has⟩
      · exact keeps d _ address (before.addresses d disp old address was)
      · rw [← owner]
        exact reads d rfl r member running address has
  · intro f member
    rcases step_sent h with ⟨same, _⟩ | ⟨d, disp, msg, address, _, at_d, phase, upstream, sent, _⟩
    · obtain ⟨token, carries, forwarded⟩ := before.sent f (same ▸ member)
      exact ⟨token, carries, still f token forwarded⟩
    · rw [sent] at member
      rcases List.mem_append.mp member with earlier | new
      · obtain ⟨token, carries, forwarded⟩ := before.sent f earlier
        exact ⟨token, carries, still f token forwarded⟩
      · obtain rfl := List.mem_singleton.mp new
        have handled : msg ∈ disp.messages := by
          simp [Dispatcher.messages, DispatcherPhase.message, phase]
        refine ⟨disp.token, before.messages d disp at_d msg handled, forwards _ _ ?_⟩
        exact before.addresses d disp at_d address (Or.inr upstream)

end

/-- One step of a process, whatever it does. -/
theorem carried_step {w w' : World} {a : Action} (before : Carried held gone w.proxy)
    (h : w.step a = some w')
    (keeps : a ≠ .restart → ∀ d token address, held d token address → held' d token address)
    (still : a ≠ .restart → ∀ f token, gone f token → gone' f token)
    (reads : ∀ d, a = .proxy (.resolve d true) → ∀ r ∈ w.db.rows, r.state = .running →
      ∀ address, r.address = some address → held' d r.token address)
    (forwards : ∀ f token, held' f.dispatcher token f.address → gone' f token) :
    Carried held' gone' w'.proxy := by
  cases a with
  | proxy act =>
    obtain ⟨outcome, run, rfl⟩ := Option.map_eq_some_iff.mp h
    refine carried_proxy before run (keeps (by simp)) (still (by simp)) ?_ ?_
    · intro d same
      exact reads d (congrArg Action.proxy same)
    · intro f token address
      exact forwards f token (keeps (by simp) _ _ _ address)
  | routes act =>
    obtain ⟨outcome, run, rfl⟩ := Option.map_eq_some_iff.mp h
    have later := carried_mono before (keeps (by simp)) (still (by simp))
    cases removed : outcome.invalidate with
    | none => simpa [World.invalidate, removed] using later
    | some token => simpa [World.invalidate, removed] using carried_invalidate later token
  | check act =>
    obtain ⟨outcome, run, rfl⟩ := Option.map_eq_some_iff.mp h
    exact carried_mono before (keeps (by simp)) (still (by simp))
  | restart =>
    cases h
    exact carried_start

end

/- What a whole cluster forwards. -/

/-- A server has processed a registration of this token with this address, or the store had
the address from the start. -/
def Registered (db : Db) (ms : List (Move Action)) (token address : String) : Prop :=
  (∃ r ∈ db.rows, r.token = token ∧ r.address = some address) ∨
    ∃ i applicationId, .act i (.routes (.appCallback token address applicationId true)) ∈ ms

/-- Dispatcher `d` of server `i` has read this address from a RUNNING row with the token since
the server was last started, and it was registered for the token by then. -/
def ReadBy (db : Db) (ms : List (Move Action)) (i d : Nat) (token address : String) : Prop :=
  ∃ before later s, ms = before ++ .act i (.proxy (.resolve d true)) :: later ∧
    .act i .restart ∉ later ∧ exec Cluster.step (.start db) before = some s ∧
    (∃ r ∈ s.shared.db.rows, r.token = token ∧ r.state = .running ∧ r.address = some address) ∧
    Registered db before token address

theorem registered_later {db : Db} {ms : List (Move Action)} {token address : String}
    (m : Move Action) (known : Registered db ms token address) :
    Registered db (ms ++ [m]) token address := by
  rcases known with stored | ⟨i, applicationId, member⟩
  · exact Or.inl stored
  · exact Or.inr ⟨i, applicationId, List.mem_append_left _ member⟩

theorem read_by_later {db : Db} {ms : List (Move Action)} {i d : Nat} {token address : String}
    {m : Move Action} (read : ReadBy db ms i d token address) (alive : m ≠ .act i .restart) :
    ReadBy db (ms ++ [m]) i d token address := by
  obtain ⟨before, later, s, rfl, noRestart, run, row, known⟩ := read
  refine ⟨before, later ++ [m], s, by simp, ?_, run, row, known⟩
  intro member
  rcases List.mem_append.mp member with old | new
  · exact noRestart old
  · exact alive (List.mem_singleton.mp new).symm

/-- Only a registration writes an address. -/
theorem row_address {st : Statement} {r r' : Model} (h : st.row r = some r') {address : String}
    (has : r'.address = some address) :
    r.address = some address ∨
      ∃ applicationId, st = .appCallback r.token address applicationId := by
  cases st <;> grind [Statement.row, Statement.filter, Statement.set]

theorem registered_run {db : Db} {ms : List (Move Action)} {s : Cluster}
    (run : exec Cluster.step (.start db) ms = some s) :
    ∀ r ∈ s.shared.db.rows, ∀ address, r.address = some address →
      Registered db ms r.token address := by
  let holds : List (Move Action) → Cluster → Prop := fun ms s =>
    ∀ r ∈ s.shared.db.rows, ∀ address, r.address = some address → Registered db ms r.token address
  have first : holds [] (.start db) := by
    intro r stored address has
    exact Or.inl ⟨r, stored, rfl, has⟩
  have one : ∀ ms s m t, exec Cluster.step (.start db) ms = some s → holds ms s → True →
      Cluster.step s m = some t → holds (ms ++ [m]) t := by
    intro ms s m t _ before _ h r' member address has
    rcases step_cases h with ⟨i, a, l, g', l', rfl, _, moved, rfl⟩ | ⟨rfl, rfl⟩
    · have step := process_step.mp moved
      rcases step_rows step member with ⟨_, old⟩ | ⟨st, issued, ⟨r, stored, kept⟩ | new⟩
      · exact registered_later _ (before r' old address has)
      · rw [(Statement.row_owner kept).2]
        rcases row_address kept has with was | ⟨applicationId, rfl⟩
        · exact registered_later _ (before r stored address was)
        · obtain rfl := statement_registration issued
          exact Or.inr ⟨i, applicationId, List.mem_append_right _ (by simp)⟩
      · obtain ⟨_, _, _, _, _, rfl⟩ := new
        simp [Statement.newRow] at has
    · exact registered_later _ (before r' member address has)
  have last : holds ms s := past_induction first one along_true run
  exact last

theorem cluster_carried {db : Db} {ms : List (Move Action)} {s : Cluster}
    (run : exec Cluster.step (.start db) ms = some s) {i : Nat} {process : Process}
    (there : s.locals[i]? = some process) :
    Carried (ReadBy db ms i) (fun f token => ReadBy db ms i f.dispatcher token f.address)
      process.proxy := by
  let holds : List (Move Action) → Cluster → Prop := fun ms s =>
    ∀ i process, s.locals[i]? = some process → Carried (ReadBy db ms i)
      (fun f token => ReadBy db ms i f.dispatcher token f.address) process.proxy
  have first : holds [] (.start db) := by
    intro i process there
    simp [Cluster.start] at there
  have one : ∀ ms s m t, exec Cluster.step (.start db) ms = some s → holds ms s → True →
      Cluster.step s m = some t → holds (ms ++ [m]) t := by
    intro ms s m t run before _ h i process' there
    rcases process_cases h there with ⟨a, process, rfl, at_i, moved⟩ | ⟨at_i, other⟩ | ⟨_, rfl, _⟩
    · have step := process_step.mp moved
      have live : a ≠ .restart → Move.act i a ≠ .act i .restart := by simp
      refine carried_step (before i process at_i) step ?_ ?_ ?_ ?_
      · intro alive d token address read
        exact read_by_later read (live alive)
      · intro alive f token read
        exact read_by_later read (live alive)
      · intro d resolves r member running address has
        subst resolves
        have known := registered_run run r member address has
        exact ⟨ms, [], s, rfl, by simp, run, ⟨r, member, rfl, running, has⟩, known⟩
      · intro f token read
        exact read
    · refine carried_mono (before i process' at_i) ?_ ?_
      · intro d token address read
        exact read_by_later read (other .restart)
      · intro f token read
        exact read_by_later read (other .restart)
    · exact carried_start
  have last : holds ms s := past_induction first one along_true run
  exact last i process there

/-- In every run of a cluster, whatever any server forwards with a bearer token goes to an
address that this server has read from a running row with that token, and that was
registered for that token before, at whichever server. -/
theorem cluster_routing_isolated {db : Db} {ms : List (Move Action)} {s : Cluster}
    (run : exec Cluster.step (.start db) ms = some s) {i : Nat} {process : Process}
    (there : s.locals[i]? = some process) :
    (∀ f ∈ process.proxy.sent, ∀ token, extractBearerToken f.req.headers = .ok token →
      ReadBy db ms i f.dispatcher token f.address) ∧
    ∀ token d, process.proxy.connections.lookup token = some d →
      process.proxy.tokenOf d = some token := by
  have carried := cluster_carried run there
  refine ⟨?_, carried.cache⟩
  intro f member token carries
  obtain ⟨other, found, read⟩ := carried.sent f member
  obtain rfl := Except.ok.inj (carries.symm.trans found)
  exact read

/-- Alice's application is created and registered at the first server, and her request is
served by the second, which has never seen it before. -/
def crossRun : List (Move Action) :=
  [.join, .join,
   .act 0 (.routes (.createInsert "alice" none "token-a" 0 true)),
   .act 0 (.routes (.appCallback "token-a" "10.0.0.1:15002" "app-1" true)),
   .act 1 (.proxy (.arrive (bearer "token-a"))), .act 1 (.proxy (.lookup 0)),
   .act 1 (.proxy (.storeLookup 0 true)), .act 1 (.proxy (.lookupOrInsert 0)),
   .act 1 (.proxy (.enqueue 0)), .act 1 (.proxy (.receive 0)), .act 1 (.proxy (.resolve 0 true)),
   .act 1 (.proxy (.connect 0 fun _ => .connected)), .act 1 (.proxy (.send 0 .ready))]

theorem cross_run_computed : ∃ s process,
    exec Cluster.step (.start .new) crossRun = some s ∧ s.locals[1]? = some process ∧
    process.proxy.sent = [⟨0, bearer "token-a", 0, "10.0.0.1:15002"⟩] := by
  have computed : (exec Cluster.step (.start .new) crossRun).any (fun s =>
      s.locals[1]?.any fun process =>
        process.proxy.sent = [⟨0, bearer "token-a", 0, "10.0.0.1:15002"⟩]) = true := by decide
  obtain ⟨s, run, facts⟩ := computed_run computed
  obtain ⟨process, there, sent⟩ := (Option.any_eq_true _ _).mp facts
  exact ⟨s, process, run, there, of_decide_eq_true sent⟩

theorem cross_run_isolated :
    ReadBy .new crossRun 1 0 "token-a" "10.0.0.1:15002" := by
  obtain ⟨s, process, run, there, sent⟩ := cross_run_computed
  have token : extractBearerToken (bearer "token-a").headers = .ok "token-a" := by decide
  exact (cluster_routing_isolated run there).1 ⟨0, bearer "token-a", 0, "10.0.0.1:15002"⟩
    (by simp [sent]) "token-a" token

/- After the end of a session. -/

/-- The move processes no registration for the token. -/
def RegistersNot (token : String) : Move Action → Prop
  | .act _ a => ∀ c ∈ a.callback, c.1 ≠ token
  | .join => True

instance (token : String) (m : Move Action) : Decidable (RegistersNot token m) := by
  cases m <;> unfold RegistersNot <;> infer_instance

/-- Dispatcher `d` of server `i` is for the token, and has a connection to the address or is
opening one. -/
def HoldsAt (s : Cluster) (i d : Nat) (token address : String) : Prop :=
  ∃ process disp, s.locals[i]? = some process ∧ process.proxy.dispatchers[d]? = some disp ∧
    disp.token = token ∧ disp.Holds address

def ForwardedAt (s : Cluster) (i : Nat) (f : Forwarded) : Prop :=
  ∃ process, s.locals[i]? = some process ∧ f ∈ process.proxy.sent

/-- For this token a server holds the addresses it held in `s` and no others. -/
def Confined (s : Cluster) (token : String) (i : Nat) : Proxy → Prop :=
  Carried (fun d other address => other = token → HoldsAt s i d token address)
    (fun f other => other = token → ForwardedAt s i f ∨ HoldsAt s i f.dispatcher token f.address)

theorem confined_start {db : Db} {ms : List (Move Action)} {s : Cluster} (token : String)
    (run : exec Cluster.step (.start db) ms = some s) {i : Nat} {process : Process}
    (there : s.locals[i]? = some process) : Confined s token i process.proxy := by
  have carried := cluster_carried run there
  constructor
  · exact carried.cache
  · exact carried.parsed
  · exact carried.senders
  · exact carried.messages
  · intro d disp at_d address holds owner
    exact ⟨process, disp, there, at_d, owner, holds⟩
  · intro f member
    obtain ⟨other, carries, _⟩ := carried.sent f member
    exact ⟨other, carries, fun _ => Or.inl ⟨process, there, member⟩⟩

/-- With no RUNNING row for the token in the store no server gets an address for it. -/
theorem confined_cooperate (s : Cluster) (token : String) :
    Cooperates processStep {} (fun _ _ a => ∀ c ∈ a.callback, c.1 ≠ token) (fun _ _ => True)
      (fun g => NotRunning token g.db) (fun i _ process => Confined s token i process.proxy) := by
  constructor
  · intro i g l a g' l' ended _ silent h
    exact not_running_step silent (process_step.mp h) ended
  · intro i g l a g' l' ended before _ h
    refine carried_step (w := World.view g l) before (process_step.mp h) ?_ ?_ ?_ ?_
    · intro _ d other address held
      exact held
    · intro _ f other sent
      exact sent
    · intro d _ r member running address _ owner
      exact absurd running (ended r member owner)
    · intro f other held owner
      exact Or.inr (held owner)
  · intros
    trivial
  · intro i g l g' _ before _
    exact before
  · intro i g _
    exact carried_start

/-- Once the store has no RUNNING row for a token and while none is registered, no server
gets a new address for the token: it forwards only to addresses to which it had a connection,
or was already opening one, by then. A server that has joined since forwards nothing. -/
theorem only_held_after_end {db : Db} {ms ns : List (Move Action)} {s t : Cluster}
    {token : String} (run : exec Cluster.step (.start db) ms = some s)
    (ended : NotRunning token s.shared.db) (silent : ∀ m ∈ ns, RegistersNot token m)
    (later : exec Cluster.step s ns = some t) {i : Nat} {process : Process}
    (there : t.locals[i]? = some process) :
    NotRunning token t.shared.db ∧
    (∀ (d : Nat) disp, process.proxy.dispatchers[d]? = some disp → disp.token = token →
      ∀ address, disp.Holds address → HoldsAt s i d token address) ∧
    ∀ f ∈ process.proxy.sent, extractBearerToken f.req.headers = .ok token →
      ForwardedAt s i f ∨ HoldsAt s i f.dispatcher token f.address := by
  have weaker : ∀ (u : Cluster) m, RegistersNot token m →
      Meets (fun _ _ a => ∀ c ∈ a.callback, c.1 ≠ token) u m := by
    intro u m quiet
    cases m with
    | act k a => exact fun l _ => quiet
    | join => trivial
  have along : Along Cluster.step (fun _ m => RegistersNot token m) s ns := along_of_mem silent
  have start : Holds (fun g => NotRunning token g.db)
      (fun i _ process => Confined s token i process.proxy) s :=
    ⟨ended, fun k other at_k => confined_start token run at_k⟩
  obtain ⟨still, each⟩ :=
    cooperates_run (confined_cooperate s token) start (along_imp weaker along) later
  have confined := each i process there
  refine ⟨still, ?_, ?_⟩
  · intro d disp at_d owner address holds
    exact confined.addresses d disp at_d address holds owner
  · intro f member carries
    obtain ⟨other, found, sent⟩ := confined.sent f member
    obtain rfl := Except.ok.inj (carries.symm.trans found)
    exact sent rfl

/-- The first server processes the deregistration of the driver, and the second goes on
forwarding to the address that it had. -/
def outliveRun : List (Move Action) :=
  [.act 1 (.proxy (.arrive (bearer "token-a"))), .act 1 (.proxy (.lookup 1)),
   .act 1 (.proxy (.enqueue 1)), .act 1 (.proxy (.receive 0)), .act 1 (.proxy (.send 0 .ready))]

theorem second_server_outlives : ∃ s t process,
    exec Cluster.step (.start .new)
      (crossRun ++ [.act 0 (.routes (.appCallbackDelete "token-a" "10.0.0.1" true))]) = some s ∧
    exec Cluster.step s outliveRun = some t ∧ t.locals[1]? = some process ∧
    process.proxy.sent = [⟨0, bearer "token-a", 0, "10.0.0.1:15002"⟩,
      ⟨1, bearer "token-a", 0, "10.0.0.1:15002"⟩] ∧
    HoldsAt s 1 0 "token-a" "10.0.0.1:15002" := by
  have computed : (exec Cluster.step (.start .new)
      (crossRun ++ [.act 0 (.routes (.appCallbackDelete "token-a" "10.0.0.1" true))])).any (fun s =>
      decide (NotRunning "token-a" s.shared.db) && (exec Cluster.step s outliveRun).any fun t =>
        t.locals[1]?.any fun process =>
          process.proxy.sent = [⟨0, bearer "token-a", 0, "10.0.0.1:15002"⟩,
            ⟨1, bearer "token-a", 0, "10.0.0.1:15002"⟩] &&
          process.proxy.dispatchers[0]?.any fun disp =>
            disp.token = "token-a" && disp.upstream = some "10.0.0.1:15002") = true := by decide
  obtain ⟨s, run, facts⟩ := computed_run computed
  rw [Bool.and_eq_true] at facts
  obtain ⟨t, later, facts'⟩ := computed_run facts.2
  obtain ⟨process, there, found⟩ := (Option.any_eq_true _ _).mp facts'
  simp only [Bool.and_eq_true, decide_eq_true_eq] at found
  obtain ⟨sent, connected⟩ := found
  obtain ⟨disp, at_d, connected⟩ := (Option.any_eq_true _ _).mp connected
  simp only [Bool.and_eq_true, decide_eq_true_eq] at connected
  have confined := only_held_after_end run (of_decide_eq_true facts.1) (by decide) later there
  exact ⟨s, t, process, run, later, there, sent,
    confined.2.1 0 disp at_d connected.1 _ (Or.inr connected.2)⟩

end SparkPlug
