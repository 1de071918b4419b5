import SparkPlug.Library.Tasks
import SparkPlug.Proxy

/-!
What one step of the proxy can do: as a whole, to a dispatcher, to a request, to the
cache and to what has been sent. The invariants of the proxy are derived from these.
-/
namespace SparkPlug
open KeyedTable

/-- What one step of the proxy does, by action and outcome. -/
inductive ProxyStep (db : Db) (p : Proxy) : ProxyAction → ProxyOutcome → Prop where
  | arrived (req : Request) (phase : RequestPhase)
      (parsed : (∃ token, extractBearerToken req.headers = .ok token ∧ phase = .parsed token) ∨
        ∃ error, extractBearerToken req.headers = .error error ∧
          phase = .answered (.error error)) :
      ProxyStep db p (.arrive req)
        { proxy := { p with requests := p.requests ++ [{ req, phase }] } }
  | hit (r : Nat) (req : Request) (token : String) (d : Nat)
      (at_r : p.requests[r]? = some { req, phase := .parsed token })
      (cached : p.openSender token = some d) :
      ProxyStep db p (.lookup r) { proxy := p.setPhase r (.holding token d) }
  | missed (r : Nat) (req : Request) (token : String)
      (at_r : p.requests[r]? = some { req, phase := .parsed token }) :
      ProxyStep db p (.lookup r) { proxy := p.setPhase r (.missed token) }
  | found (r : Nat) (stored : Bool) (req : Request) (token : String)
      (at_r : p.requests[r]? = some { req, phase := .missed token }) :
      ProxyStep db p (.storeLookup r stored) { proxy := p.setPhase r (.found token) }
  | unknown (r : Nat) (stored : Bool) (error : ProxyError)
      (mismatch : error ≠ .invalidAuthorizationToken) :
      ProxyStep db p (.storeLookup r stored) { proxy := p.setPhase r (.answered (.error error)) }
  | joined (r : Nat) (req : Request) (token : String) (d : Nat)
      (at_r : p.requests[r]? = some { req, phase := .found token })
      (cached : p.openSender token = some d) :
      ProxyStep db p (.lookupOrInsert r) { proxy := p.setPhase r (.holding token d) }
  | spawned (r : Nat) (req : Request) (token : String)
      (at_r : p.requests[r]? = some { req, phase := .found token })
      (absent : p.openSender token = none) :
      ProxyStep db p (.lookupOrInsert r)
        { proxy := (p.insertDispatcher token).setPhase r (.holding token p.dispatchers.length) }
  | enqueued (r : Nat) (req : Request) (token : String) (d : Nat) (disp : Dispatcher)
      (at_r : p.requests[r]? = some { req, phase := .holding token d })
      (at_d : p.dispatchers[d]? = some disp) :
      ProxyStep db p (.enqueue r)
        { proxy := (p.setDispatcher d { disp with
            queue := disp.queue ++ [{ request := r, req }] }).setPhase r (.queued token d) }
  | closed (r : Nat) (token : String) (message : String) :
      ProxyStep db p (.enqueue r)
        { proxy := (p.removeClosed token).setPhase r (.answered (.error (.internal message))) }
  | dropped (r : Nat) : ProxyStep db p (.requestDropped r) { proxy := p.setPhase r .dropped }
  | received (d : Nat) (disp : Dispatcher) (msg : UpstreamMessage) (rest : List UpstreamMessage)
      (at_d : p.dispatchers[d]? = some disp) (phase : disp.phase = .receiving)
      (queue : disp.queue = msg :: rest)
      (token : extractBearerToken msg.req.headers = .ok disp.token) :
      ProxyStep db p (.receive d)
        { proxy := p.setDispatcher d { disp with
            queue := rest
            phase := if disp.upstream.isNone then .resolving msg else .sending msg } }
  | refused (d : Nat) (disp : Dispatcher) (msg : UpstreamMessage) (rest : List UpstreamMessage)
      (error : ProxyError) (at_d : p.dispatchers[d]? = some disp) (phase : disp.phase = .receiving)
      (queue : disp.queue = msg :: rest)
      (token : extractBearerToken msg.req.headers ≠ .ok disp.token) :
      ProxyStep db p (.receive d) { proxy := p.reject d { disp with queue := rest } msg error }
  | resolved (d : Nat) (stored : Bool) (disp : Dispatcher) (msg : UpstreamMessage)
      (address : String) (at_d : p.dispatchers[d]? = some disp)
      (phase : disp.phase = .resolving msg)
      (round : resolveRound db disp.token (p.sendersGone d) stored = .resolved address) :
      ProxyStep db p (.resolve d stored)
        { proxy := p.setDispatcher d { disp with phase := .connecting msg address } }
  | waited (d : Nat) (stored : Bool) (disp : Dispatcher) (msg : UpstreamMessage)
      (at_d : p.dispatchers[d]? = some disp) (phase : disp.phase = .resolving msg) :
      ProxyStep db p (.resolve d stored) { proxy := p }
  | unresolved (d : Nat) (stored : Bool) (disp : Dispatcher) (msg : UpstreamMessage)
      (error : ProxyError) (at_d : p.dispatchers[d]? = some disp)
      (phase : disp.phase = .resolving msg)
      (round : resolveRound db disp.token (p.sendersGone d) stored = .error error) :
      ProxyStep db p (.resolve d stored) { proxy := p.reject d disp msg error }
  | connected (d : Nat) (attempt : Nat → ConnectOutcome) (disp : Dispatcher)
      (msg : UpstreamMessage) (address : String) (at_d : p.dispatchers[d]? = some disp)
      (phase : disp.phase = .connecting msg address) :
      ProxyStep db p (.connect d attempt)
        { proxy := p.setDispatcher d
            { disp with phase := .sending msg, upstream := some address } }
  | exhausted (d : Nat) (attempt : Nat → ConnectOutcome) (disp : Dispatcher)
      (msg : UpstreamMessage) (address : String) (error : ProxyError)
      (at_d : p.dispatchers[d]? = some disp) (phase : disp.phase = .connecting msg address)
      (mismatch : error ≠ .invalidAuthorizationToken) :
      ProxyStep db p (.connect d attempt)
        { proxy := p.setDispatcher d { disp with phase := .failing msg address error } }
  | failed (d : Nat) (stored : Bool) (disp : Dispatcher) (msg : UpstreamMessage)
      (address : String) (lastError error : ProxyError) (statement : Option Statement)
      (at_d : p.dispatchers[d]? = some disp) (phase : disp.phase = .failing msg address lastError)
      (source : error = lastError ∨ error = databaseError) :
      ProxyStep db p (.markFailed d stored) { proxy := p.reject d disp msg error, statement }
  | unsent (d : Nat) (sending : SendOutcome) (disp : Dispatcher) (msg : UpstreamMessage)
      (address : String) (upstream : Option String) (error : ProxyError)
      (at_d : p.dispatchers[d]? = some disp) (phase : disp.phase = .sending msg)
      (connection : disp.upstream = some address)
      (same : upstream = disp.upstream ∨ upstream = none)
      (mismatch : error ≠ .invalidAuthorizationToken) :
      ProxyStep db p (.send d sending) { proxy := p.reject d { disp with upstream } msg error }
  | sent (d : Nat) (disp : Dispatcher) (msg : UpstreamMessage) (address : String)
      (at_d : p.dispatchers[d]? = some disp) (phase : disp.phase = .sending msg)
      (connection : disp.upstream = some address) :
      ProxyStep db p (.send d .ready)
        { proxy := { p.setDispatcher d { disp with phase := .receiving } with
            sent := p.sent ++ [{ request := msg.request, req := msg.req, dispatcher := d, address }]
            responses := p.responses ++ [msg.request] } }
  | responded (r : Nat) (response : Except String Response) (awaited : r ∈ p.responses) :
      ProxyStep db p (.respond r response)
        { proxy := { p with responses := p.responses.erase r }.reply r
            (response.mapError .upstreamRequest) }
  | finished (d : Nat) (disp : Dispatcher) (at_d : p.dispatchers[d]? = some disp)
      (phase : disp.phase = .receiving) (queue : disp.queue = []) :
      ProxyStep db p (.finish d)
        { proxy := p.setDispatcher d { disp with phase := .ended, upstream := none } }

inductive DispatcherMove (db : Db) (p : Proxy) (d : Nat) (disp : Dispatcher) :
    ProxyAction → Dispatcher → Prop where
  | enqueued (r : Nat) (req : Request) (token : String)
      (holding : p.requests[r]? = some { req, phase := .holding token d }) :
      DispatcherMove db p d disp (.enqueue r)
        { disp with queue := disp.queue ++ [{ request := r, req }] }
  | received (msg : UpstreamMessage) (rest : List UpstreamMessage)
      (phase : disp.phase = .receiving) (queue : disp.queue = msg :: rest)
      (token : extractBearerToken msg.req.headers = .ok disp.token) :
      DispatcherMove db p d disp (.receive d) { disp with
        queue := rest
        phase := if disp.upstream.isNone then .resolving msg else .sending msg }
  | refused (msg : UpstreamMessage) (rest : List UpstreamMessage)
      (phase : disp.phase = .receiving) (queue : disp.queue = msg :: rest)
      (token : extractBearerToken msg.req.headers ≠ .ok disp.token) :
      DispatcherMove db p d disp (.receive d) { disp with queue := rest, phase := .receiving }
  | resolved (msg : UpstreamMessage) (address : String) (stored : Bool)
      (phase : disp.phase = .resolving msg)
      (round : resolveRound db disp.token (p.sendersGone d) stored = .resolved address) :
      DispatcherMove db p d disp (.resolve d stored)
        { disp with phase := .connecting msg address }
  | unresolved (msg : UpstreamMessage) (error : ProxyError) (stored : Bool)
      (phase : disp.phase = .resolving msg)
      (round : resolveRound db disp.token (p.sendersGone d) stored = .error error) :
      DispatcherMove db p d disp (.resolve d stored) { disp with phase := .receiving }
  | connected (msg : UpstreamMessage) (address : String) (outcome : Nat → ConnectOutcome)
      (phase : disp.phase = .connecting msg address) :
      DispatcherMove db p d disp (.connect d outcome)
        { disp with phase := .sending msg, upstream := some address }
  | exhausted (msg : UpstreamMessage) (address : String) (outcome : Nat → ConnectOutcome)
      (error : ProxyError) (phase : disp.phase = .connecting msg address)
      (mismatch : error ≠ .invalidAuthorizationToken) :
      DispatcherMove db p d disp (.connect d outcome)
        { disp with phase := .failing msg address error }
  | failed (msg : UpstreamMessage) (address : String) (error : ProxyError) (stored : Bool)
      (phase : disp.phase = .failing msg address error) :
      DispatcherMove db p d disp (.markFailed d stored) { disp with phase := .receiving }
  | sent (msg : UpstreamMessage) (address : String) (outcome : SendOutcome)
      (upstream : Option String) (phase : disp.phase = .sending msg)
      (connection : disp.upstream = some address)
      (same : upstream = disp.upstream ∨ upstream = none) :
      DispatcherMove db p d disp (.send d outcome) { disp with upstream, phase := .receiving }
  | finished (phase : disp.phase = .receiving) (queue : disp.queue = []) :
      DispatcherMove db p d disp (.finish d) { disp with upstream := none, phase := .ended }

/-- The two ways to an invalidAuthorizationToken answer: a message with another token than
its dispatcher, or a connection that is given up for this error. -/
def Mismatch (p : Proxy) (a : ProxyAction) : Prop :=
  (∃ d disp msg rest, a = .receive d ∧ p.dispatchers[d]? = some disp ∧
    disp.queue = msg :: rest ∧ extractBearerToken msg.req.headers ≠ .ok disp.token) ∨
  ∃ d stored disp msg address, a = .markFailed d stored ∧ p.dispatchers[d]? = some disp ∧
    disp.phase = .failing msg address .invalidAuthorizationToken

inductive RequestMove (db : Db) (p : Proxy) (r : Nat) (task : RequestTask) :
    ProxyAction → RequestPhase → Prop where
  | hit (token : String) (d : Nat) (phase : task.phase = .parsed token)
      (cached : p.openSender token = some d) :
      RequestMove db p r task (.lookup r) (.holding token d)
  | missed (token : String) (phase : task.phase = .parsed token) :
      RequestMove db p r task (.lookup r) (.missed token)
  | found (token : String) (stored : Bool) (phase : task.phase = .missed token) :
      RequestMove db p r task (.storeLookup r stored) (.found token)
  | joined (token : String) (d : Nat) (phase : task.phase = .found token)
      (cached : p.openSender token = some d) :
      RequestMove db p r task (.lookupOrInsert r) (.holding token d)
  | spawned (token : String) (phase : task.phase = .found token)
      (absent : p.openSender token = none) :
      RequestMove db p r task (.lookupOrInsert r) (.holding token p.dispatchers.length)
  | enqueued (token : String) (d : Nat) (phase : task.phase = .holding token d) :
      RequestMove db p r task (.enqueue r) (.queued token d)
  | failed {a : ProxyAction} (error : ProxyError)
      (source : error = .invalidAuthorizationToken → Mismatch p a) :
      RequestMove db p r task a (.answered (.error error))
  | responded (response : Except String Response) (awaited : r ∈ p.responses) :
      RequestMove db p r task (.respond r response)
        (.answered (response.mapError .upstreamRequest))
  | dropped : RequestMove db p r task (.requestDropped r) .dropped

/- The parts of the proxy that its small operations leave alone. -/

@[simp] theorem remove_closed_dispatchers (p : Proxy) (token : String) :
    (p.removeClosed token).dispatchers = p.dispatchers := by
  unfold Proxy.removeClosed
  split
  · split <;> rfl
  · rfl

@[simp] theorem remove_closed_requests (p : Proxy) (token : String) :
    (p.removeClosed token).requests = p.requests := by
  unfold Proxy.removeClosed
  split
  · split <;> rfl
  · rfl

theorem remove_closed_sent (p : Proxy) (token : String) :
    (p.removeClosed token).sent = p.sent ∧ (p.removeClosed token).responses = p.responses := by
  unfold Proxy.removeClosed
  split
  · split <;> exact ⟨rfl, rfl⟩
  · exact ⟨rfl, rfl⟩

theorem remove_closed_connections (p : Proxy) (token : String) :
    (p.removeClosed token).connections = p.connections ∨
      (p.removeClosed token).connections = p.connections.erase token := by
  unfold Proxy.removeClosed
  split
  · split
    · exact Or.inr rfl
    · exact Or.inl rfl
  · exact Or.inl rfl

theorem connect_result (outcome : Nat → ConnectOutcome) (attempts : List Nat)
    (last : Option ProxyError) (known : last ≠ some .invalidAuthorizationToken) :
    connectAttempts outcome attempts last = .connected ∨
      ∃ error, connectAttempts outcome attempts last = .exhausted error ∧
        error ≠ some .invalidAuthorizationToken := by
  induction attempts generalizing last with
  | nil => exact Or.inr ⟨last, rfl, known⟩
  | cons attempt attempts ih =>
    unfold connectAttempts
    cases outcome attempt with
    | connected => exact Or.inl rfl
    | refused message => exact ih (some (.upstreamConnect message)) (by simp)
    | handshakeFailed message => exact ih (some (.upstreamHandshake message)) (by simp)

section
variable {db : Db} {p : Proxy} {d : Nat} {disp : Dispatcher} {outcome : ProxyOutcome}

theorem receive_step {msg : UpstreamMessage} {rest : List UpstreamMessage}
    (at_d : p.dispatchers[d]? = some disp) (phase : disp.phase = .receiving)
    (queue : disp.queue = msg :: rest) :
    ProxyStep db p (.receive d) { proxy := p.receiveMessage d disp msg rest } := by
  unfold Proxy.receiveMessage
  cases parsed : extractBearerToken msg.req.headers with
  | ok token =>
    by_cases same : token = disp.token
    · have owner : extractBearerToken msg.req.headers = .ok disp.token := by rw [parsed, same]
      simp only [same, ↓reduceIte]
      exact .received d disp msg rest at_d phase queue owner
    · have differs : extractBearerToken msg.req.headers ≠ .ok disp.token := by
        rw [parsed]
        intro eq
        exact same (Except.ok.inj eq)
      simp only [same, ↓reduceIte]
      exact .refused d disp msg rest _ at_d phase queue differs
  | error error =>
    have differs : extractBearerToken msg.req.headers ≠ .ok disp.token := by simp [parsed]
    exact .refused d disp msg rest error at_d phase queue differs

theorem resolve_step {msg : UpstreamMessage} {stored : Bool}
    (at_d : p.dispatchers[d]? = some disp) (phase : disp.phase = .resolving msg) :
    ProxyStep db p (.resolve d stored)
      { proxy := p.resolveUpstreamAddress db d disp msg stored } := by
  unfold Proxy.resolveUpstreamAddress
  split
  · rename_i address round
    exact .resolved d stored disp msg address at_d phase round
  · exact .waited d stored disp msg at_d phase
  · rename_i error round
    exact .unresolved d stored disp msg error at_d phase round

theorem connect_step {msg : UpstreamMessage} {address : String}
    {attempt : Nat → ConnectOutcome} (at_d : p.dispatchers[d]? = some disp)
    (phase : disp.phase = .connecting msg address)
    (h : p.connected d disp msg address (connectWithRetries attempt) = some outcome) :
    ProxyStep db p (.connect d attempt) outcome := by
  unfold connectWithRetries at h
  rcases connect_result attempt _ none (by simp) with opened | ⟨last, failed, known⟩
  · rw [opened] at h
    cases h
    exact .connected d attempt disp msg address at_d phase
  · rw [failed] at h
    cases last with
    | none => simp [Proxy.connected] at h
    | some error =>
      cases h
      have mismatch : error ≠ .invalidAuthorizationToken := by simpa using known
      exact .exhausted d attempt disp msg address error at_d phase mismatch

theorem send_step {msg : UpstreamMessage} {address : String} {sending : SendOutcome}
    (at_d : p.dispatchers[d]? = some disp) (phase : disp.phase = .sending msg)
    (connection : disp.upstream = some address) :
    ProxyStep db p (.send d sending)
      { proxy := p.sendMessage d disp msg address sending } := by
  cases sending with
  | invalidUri message =>
    exact .unsent d _ disp msg address disp.upstream _ at_d phase connection (Or.inl rfl) (by simp)
  | notReady message =>
    exact .unsent d _ disp msg address none _ at_d phase connection (Or.inr rfl) (by simp)
  | ready => exact .sent d disp msg address at_d phase connection

/-- Every enabled action of the proxy is one of the steps. -/
theorem proxy_step {a : ProxyAction} (h : p.step db a = some outcome) :
    ProxyStep db p a outcome := by
  cases a with
  | arrive req =>
    cases h
    refine .arrived req _ ?_
    cases parsed : extractBearerToken req.headers with
    | ok token => exact Or.inl ⟨token, rfl, rfl⟩
    | error error => exact Or.inr ⟨error, rfl, rfl⟩
  | lookup r =>
    simp only [Proxy.step] at h
    split at h
    · rename_i req token at_r
      split at h
      · rename_i d cached
        cases h
        exact .hit r req token d at_r cached
      · cases h
        exact .missed r req token at_r
    · simp at h
  | storeLookup r stored =>
    simp only [Proxy.step] at h
    split at h
    · rename_i req token at_r
      split at h
      · split at h
        · cases h
          exact .found r stored req token at_r
        · cases h
          exact .unknown r stored _ (by simp)
      · cases h
        exact .unknown r stored _ (by simp [databaseError])
    · simp at h
  | lookupOrInsert r =>
    simp only [Proxy.step] at h
    split at h
    · rename_i req token at_r
      split at h
      · rename_i d cached
        cases h
        exact .joined r req token d at_r cached
      · rename_i absent
        cases h
        exact .spawned r req token at_r absent
    · simp at h
  | enqueue r =>
    simp only [Proxy.step] at h
    split at h
    · rename_i req token d at_r
      split at h
      · rename_i disp at_d
        split at h
        · cases h
          exact .closed r token _
        · cases h
          exact .enqueued r req token d disp at_r at_d
      · simp at h
    · simp at h
  | requestDropped r =>
    simp only [Proxy.step] at h
    split at h
    · simp at h
    · simp at h
    · cases h
      exact .dropped r
  | receive d =>
    simp only [Proxy.step] at h
    split at h
    · rename_i disp at_d
      split at h
      · rename_i msg rest phase queue
        cases h
        exact receive_step at_d phase queue
      · simp at h
    · simp at h
  | resolve d stored =>
    simp only [Proxy.step] at h
    split at h
    · rename_i disp at_d
      split at h
      · rename_i msg phase
        cases h
        exact resolve_step at_d phase
      · simp at h
    · simp at h
  | connect d attempt =>
    simp only [Proxy.step] at h
    split at h
    · rename_i disp at_d
      split at h
      · rename_i msg address phase
        exact connect_step at_d phase h
      · simp at h
    · simp at h
  | markFailed d stored =>
    simp only [Proxy.step] at h
    split at h
    · rename_i disp at_d
      split at h
      · rename_i msg address lastError phase
        split at h
        · cases h
          exact .failed d stored disp msg address lastError _ _ at_d phase (Or.inl rfl)
        · cases h
          exact .failed d stored disp msg address lastError _ _ at_d phase (Or.inr rfl)
      · simp at h
    · simp at h
  | send d sending =>
    simp only [Proxy.step] at h
    split at h
    · rename_i disp at_d
      split at h
      · rename_i msg address phase connection
        cases h
        exact send_step at_d phase connection
      · simp at h
    · simp at h
  | respond r response =>
    simp only [Proxy.step] at h
    split at h
    · rename_i awaited
      cases h
      exact .responded r response awaited
    · simp at h
  | finish d =>
    simp only [Proxy.step] at h
    split at h
    · rename_i disp at_d
      split at h
      · rename_i idle
        simp only [Bool.and_eq_true, decide_eq_true_eq] at idle
        cases h
        exact .finished d disp at_d idle.1.1 idle.1.2
      · simp at h
    · simp at h

/-- One step changes at most one dispatcher, by a move, or spawns one. -/
theorem step_dispatchers {a : ProxyAction} (h : p.step db a = some outcome) :
    outcome.proxy.dispatchers = p.dispatchers ∨
    (∃ r req token, a = .lookupOrInsert r ∧ p.requests[r]? = some { req, phase := .found token } ∧
      p.openSender token = none ∧
      outcome.proxy.dispatchers = p.dispatchers ++ [({ token } : Dispatcher)]) ∨
    ∃ d disp disp', p.dispatchers[d]? = some disp ∧
      outcome.proxy.dispatchers = p.dispatchers.set d disp' ∧
      DispatcherMove db p d disp a disp' := by
  have changed : ∀ {d disp disp'}, p.dispatchers[d]? = some disp →
      outcome.proxy.dispatchers = p.dispatchers.set d disp' → DispatcherMove db p d disp a disp' →
      ∃ d disp disp', p.dispatchers[d]? = some disp ∧
        outcome.proxy.dispatchers = p.dispatchers.set d disp' ∧
        DispatcherMove db p d disp a disp' := by
    intro d disp disp' at_d set move
    exact ⟨d, disp, disp', at_d, set, move⟩
  cases proxy_step h with
  | spawned r req token at_r absent =>
    exact Or.inr (Or.inl ⟨r, req, token, rfl, at_r, absent, rfl⟩)
  | enqueued r req token d disp at_r at_d =>
    exact Or.inr (Or.inr (changed at_d rfl (.enqueued r req token at_r)))
  | closed r token message => exact Or.inl (remove_closed_dispatchers p token)
  | received d disp msg rest at_d phase queue token =>
    exact Or.inr (Or.inr (changed at_d rfl (.received msg rest phase queue token)))
  | refused d disp msg rest error at_d phase queue token =>
    exact Or.inr (Or.inr (changed at_d rfl (.refused msg rest phase queue token)))
  | resolved d stored disp msg address at_d phase round =>
    exact Or.inr (Or.inr (changed at_d rfl (.resolved msg address stored phase round)))
  | unresolved d stored disp msg error at_d phase round =>
    exact Or.inr (Or.inr (changed at_d rfl (.unresolved msg error stored phase round)))
  | connected d attempt disp msg address at_d phase =>
    exact Or.inr (Or.inr (changed at_d rfl (.connected msg address attempt phase)))
  | exhausted d attempt disp msg address error at_d phase mismatch =>
    exact Or.inr (Or.inr (changed at_d rfl (.exhausted msg address attempt error phase mismatch)))
  | failed d stored disp msg address lastError error statement at_d phase source =>
    exact Or.inr (Or.inr (changed at_d rfl (.failed msg address lastError stored phase)))
  | unsent d sending disp msg address upstream error at_d phase connection same mismatch =>
    exact Or.inr (Or.inr (changed at_d rfl
      (.sent msg address sending upstream phase connection same)))
  | sent d disp msg address at_d phase connection =>
    exact Or.inr (Or.inr (changed at_d rfl
      (.sent msg address .ready disp.upstream phase connection (Or.inl rfl))))
  | finished d disp at_d phase queue =>
    exact Or.inr (Or.inr (changed at_d rfl (.finished phase queue)))
  | _ => exact Or.inl rfl

theorem resolve_enabled {stored : Bool} (h : p.step db (.resolve d stored) = some outcome) :
    ∃ disp msg, p.dispatchers[d]? = some disp ∧ disp.phase = .resolving msg := by
  cases proxy_step h with
  | resolved _ _ disp msg address at_d phase round => exact ⟨disp, msg, at_d, phase⟩
  | waited _ _ disp msg at_d phase => exact ⟨disp, msg, at_d, phase⟩
  | unresolved _ _ disp msg error at_d phase round => exact ⟨disp, msg, at_d, phase⟩

/-- A dispatcher after a step: as it was, just spawned, or moved. -/
theorem dispatcher_origin {a : ProxyAction} (h : p.step db a = some outcome) {disp' : Dispatcher}
    (there : outcome.proxy.dispatchers[d]? = some disp') :
    p.dispatchers[d]? = some disp' ∨
    (d = p.dispatchers.length ∧ ∃ r req token, a = .lookupOrInsert r ∧
      p.requests[r]? = some { req, phase := .found token } ∧ p.openSender token = none ∧
      disp' = { token }) ∨
    ∃ disp, p.dispatchers[d]? = some disp ∧ DispatcherMove db p d disp a disp' := by
  rcases step_dispatchers h with same | ⟨r, req, token, act, at_r, absent, spawned⟩ |
    ⟨m, disp, new, at_m, changed, move⟩
  · rw [same] at there
    exact Or.inl there
  · rw [spawned] at there
    rcases Tasks.at_spawned there with ⟨last, new⟩ | before
    · exact Or.inr (Or.inl ⟨last, r, req, token, act, at_r, absent, new⟩)
    · exact Or.inl before
  · rw [changed] at there
    rcases Tasks.at_changed there with ⟨rfl, rfl⟩ | ⟨_, before⟩
    · exact Or.inr (Or.inr ⟨disp, at_m, move⟩)
    · exact Or.inl before

theorem dispatchers_length {a : ProxyAction} (h : p.step db a = some outcome) :
    p.dispatchers.length ≤ outcome.proxy.dispatchers.length := by
  rcases step_dispatchers h with same | ⟨_, _, _, _, _, _, spawned⟩ | ⟨_, _, _, _, changed, _⟩
  · rw [same]
  · simp [spawned]
  · simp [changed]

theorem move_token {a : ProxyAction} {disp' : Dispatcher}
    (move : DispatcherMove db p d disp a disp') : disp'.token = disp.token := by
  cases move <;> rfl

theorem token_of_step {a : ProxyAction} (h : p.step db a = some outcome) {token : String}
    (owner : p.tokenOf d = some token) : outcome.proxy.tokenOf d = some token := by
  obtain ⟨disp, at_d, rfl⟩ := Option.map_eq_some_iff.mp owner
  have bound := (List.getElem?_eq_some_iff.mp at_d).1
  unfold Proxy.tokenOf
  rcases step_dispatchers h with same | ⟨_, _, _, _, _, _, spawned⟩ |
    ⟨m, old, new, at_m, changed, move⟩
  · rw [same, at_d]
    rfl
  · rw [spawned, List.getElem?_append_left bound, at_d]
    rfl
  · rw [changed]
    by_cases same : m = d
    · subst m
      obtain rfl := Option.some.inj (at_m.symm.trans at_d)
      rw [List.getElem?_set_self bound]
      simp [move_token move]
    · rw [List.getElem?_set_ne same, at_d]
      rfl

/-- A message of a dispatcher was there before, or has just been enqueued. -/
theorem message_move {a : ProxyAction} {disp' : Dispatcher}
    (move : DispatcherMove db p d disp a disp') {msg : UpstreamMessage}
    (member : msg ∈ disp'.messages) : msg ∈ disp.messages ∨ ∃ r req token, a = .enqueue r ∧
      p.requests[r]? = some { req, phase := .holding token d } ∧ msg = { request := r, req } := by
  cases move with
  | enqueued r req token holding =>
    simp only [Dispatcher.messages, List.mem_append, List.mem_singleton] at member ⊢
    rcases member with current | old | new
    · exact Or.inl (Or.inl current)
    · exact Or.inl (Or.inr old)
    · exact Or.inr ⟨r, req, token, rfl, holding, new⟩
  | received first rest phase queue token =>
    refine Or.inl ?_
    by_cases idle : disp.upstream.isNone = true
    · simpa [Dispatcher.messages, DispatcherPhase.message, idle, phase, queue] using member
    · simpa [Dispatcher.messages, DispatcherPhase.message, idle, phase, queue] using member
  | refused first rest phase queue token =>
    refine Or.inl ?_
    simp only [Dispatcher.messages, DispatcherPhase.message, queue] at member ⊢
    simp_all
  | _ =>
    refine Or.inl ?_
    simp_all [Dispatcher.messages, DispatcherPhase.message]

/-- An address of a dispatcher was its before, or has just been read for its token. -/
theorem holds_move {a : ProxyAction} {disp' : Dispatcher} {address : String}
    (move : DispatcherMove db p d disp a disp') (held : disp'.Holds address) :
    disp.Holds address ∨ a = .resolve d true ∧ ∃ r ∈ db.rows,
      r.token = disp.token ∧ r.state = .running ∧ r.address = some address := by
  unfold Dispatcher.Holds at held ⊢
  cases move with
  | received msg rest phase queue token =>
    refine Or.inl (Or.inr ?_)
    by_cases idle : disp.upstream.isNone = true
    · simpa [DispatcherPhase.address, idle] using held
    · simpa [DispatcherPhase.address, idle] using held
  | resolved msg read stored phase round =>
    rcases held with connecting | connected
    · simp only [DispatcherPhase.address, Option.some.injEq] at connecting
      subst read
      obtain rfl := resolve_round_stored round
      obtain ⟨app, member, facts⟩ := resolve_round_resolved round
      exact Or.inr ⟨rfl, app, member, facts⟩
    · exact Or.inl (Or.inr connected)
  | connected msg read attempt phase =>
    refine Or.inl (Or.inl ?_)
    simpa [DispatcherPhase.address, phase] using held
  | exhausted msg read attempt error phase mismatch =>
    refine Or.inl ?_
    simpa [DispatcherPhase.address, phase] using held
  | sent msg read sending upstream phase connection same =>
    refine Or.inl (Or.inr ?_)
    rcases same with same | none
    · rw [← same]
      simpa [DispatcherPhase.address] using held
    · simp [DispatcherPhase.address, none] at held
  | enqueued r req token holding => exact Or.inl held
  | finished phase queue => simp [DispatcherPhase.address] at held
  | _ =>
    refine Or.inl (Or.inr ?_)
    simpa [DispatcherPhase.address] using held

/-- A request after a step: as it was before, just arrived, or moved. -/
def RequestStep (db : Db) (p : Proxy) (a : ProxyAction) (k : Nat) (task' : RequestTask) : Prop :=
  p.requests[k]? = some task' ∨
  (k = p.requests.length ∧ a = .arrive task'.req ∧
    ((∃ token, extractBearerToken task'.req.headers = .ok token ∧ task'.phase = .parsed token) ∨
      ∃ error, extractBearerToken task'.req.headers = .error error ∧
        task'.phase = .answered (.error error))) ∨
  ∃ task, p.requests[k]? = some task ∧ task'.req = task.req ∧ RequestMove db p k task a task'.phase

theorem set_phase_step {q : Proxy} {a : ProxyAction} {r k : Nat} {phase : RequestPhase}
    {task' : RequestTask} (same : q.requests = p.requests)
    (there : (q.setPhase r phase).requests[k]? = some task')
    (move : ∀ task, p.requests[r]? = some task → RequestMove db p r task a phase) :
    RequestStep db p a k task' := by
  unfold Proxy.setPhase at there
  simp only [same] at there
  rcases Tasks.at_modified there with ⟨rfl, task, old, rfl⟩ | ⟨_, old⟩
  · exact Or.inr (Or.inr ⟨task, old, rfl, move task old⟩)
  · exact Or.inl old

theorem reply_step {q : Proxy} {a : ProxyAction} {r k : Nat}
    {result : Except ProxyError Response} {task' : RequestTask}
    (same : q.requests = p.requests) (there : (q.reply r result).requests[k]? = some task')
    (move : ∀ task, RequestMove db p r task a (.answered result)) :
    RequestStep db p a k task' := by
  unfold Proxy.reply at there
  simp only [same] at there
  rcases Tasks.at_modified there with ⟨rfl, task, old, rfl⟩ | ⟨_, old⟩
  · cases phase : task.phase with
    | queued token d =>
      exact Or.inr (Or.inr ⟨task, old, rfl, move task⟩)
    | _ => exact Or.inl old
  · exact Or.inl old

theorem reject_step {a : ProxyAction} {k : Nat} {msg : UpstreamMessage} {error : ProxyError}
    {task' : RequestTask} (there : (p.reject d disp msg error).requests[k]? = some task')
    (source : error = .invalidAuthorizationToken → Mismatch p a) :
    RequestStep db p a k task' := by
  have same : (p.setDispatcher d { disp with phase := .receiving }).requests = p.requests := rfl
  exact reply_step same there fun _ => .failed error source

theorem extract_error {headers : HeaderMap} {error : ProxyError}
    (h : extractBearerToken headers = .error error) : error ≠ .invalidAuthorizationToken := by
  unfold extractBearerToken at h
  grind

theorem resolve_round_error {token : String} {closed stored : Bool} {error : ProxyError}
    (h : resolveRound db token closed stored = .error error) :
    error ≠ .invalidAuthorizationToken := by
  unfold resolveRound databaseError at h
  grind

theorem step_request {a : ProxyAction} (h : p.step db a = some outcome) {k : Nat}
    {task' : RequestTask} (there : outcome.proxy.requests[k]? = some task') :
    RequestStep db p a k task' := by
  -- the request at the position an action has read
  have read : ∀ {r : Nat} {phase : RequestPhase} {req : Request} {before : RequestPhase},
      p.requests[r]? = some { req, phase := before } →
      RequestMove db p r { req, phase := before } a phase →
      ∀ task, p.requests[r]? = some task → RequestMove db p r task a phase := by
    intro r phase req before at_r move task old
    cases at_r.symm.trans old
    exact move
  cases proxy_step h with
  | arrived req phase parsed =>
    rcases Tasks.at_spawned there with ⟨rfl, rfl⟩ | old
    · exact Or.inr (Or.inl ⟨rfl, rfl, parsed⟩)
    · exact Or.inl old
  | hit r req token d at_r cached =>
    exact set_phase_step rfl there (read at_r (.hit token d rfl cached))
  | missed r req token at_r => exact set_phase_step rfl there (read at_r (.missed token rfl))
  | found r stored req token at_r =>
    exact set_phase_step rfl there (read at_r (.found token stored rfl))
  | unknown r stored error mismatch =>
    exact set_phase_step rfl there fun _ _ => .failed error fun same => absurd same mismatch
  | joined r req token d at_r cached =>
    exact set_phase_step rfl there (read at_r (.joined token d rfl cached))
  | spawned r req token at_r absent =>
    have same : (p.insertDispatcher token).requests = p.requests := rfl
    exact set_phase_step same there (read at_r (.spawned token rfl absent))
  | enqueued r req token d disp at_r at_d =>
    have same : ∀ disp', (p.setDispatcher d disp').requests = p.requests := fun _ => rfl
    exact set_phase_step (same _) there (read at_r (.enqueued token d rfl))
  | closed r token message =>
    exact set_phase_step (remove_closed_requests p token) there fun _ _ => .failed _ (by simp)
  | dropped r => exact set_phase_step rfl there fun _ _ => .dropped
  | refused d disp msg rest error at_d phase queue token =>
    exact reject_step there fun _ => Or.inl ⟨d, disp, msg, rest, rfl, at_d, queue, token⟩
  | unresolved d stored disp msg error at_d phase round =>
    exact reject_step there fun same => absurd same (resolve_round_error round)
  | failed d stored disp msg address lastError error statement at_d phase source =>
    refine reject_step there fun same => Or.inr ⟨d, stored, disp, msg, address, rfl, at_d, ?_⟩
    rcases source with last | store
    · rw [phase, ← last, same]
    · simp [same, databaseError] at store
  | unsent d sending disp msg address upstream error at_d phase connection same mismatch =>
    exact reject_step there fun same => absurd same mismatch
  | responded r response awaited =>
    have same : ({ p with responses := p.responses.erase r } : Proxy).requests = p.requests := rfl
    exact reply_step same there fun _ => .responded response awaited
  | _ => exact Or.inl there

theorem set_phase_length (p : Proxy) (r : Nat) (phase : RequestPhase) :
    (p.setPhase r phase).requests.length = p.requests.length := List.length_modify _ _ _

theorem reject_length (msg : UpstreamMessage) (error : ProxyError) :
    (p.reject d disp msg error).requests.length = p.requests.length := List.length_modify _ _ _

/-- Requests arrive and are never removed. -/
theorem requests_length {a : ProxyAction} (h : p.step db a = some outcome) :
    p.requests.length ≤ outcome.proxy.requests.length := by
  cases proxy_step h with
  | arrived req phase parsed => simp
  | closed r token message =>
    rw [set_phase_length, remove_closed_requests]
  | received | resolved | waited | connected | exhausted | sent | finished => exact Nat.le_refl _
  | responded r response awaited => exact Nat.le_of_eq (List.length_modify _ _ _).symm
  | hit | missed | found | unknown | joined | spawned | enqueued | dropped =>
    exact Nat.le_of_eq (set_phase_length _ _ _).symm
  | refused | unresolved | failed | unsent => exact Nat.le_of_eq (reject_length _ _).symm

/-- The token of a request never changes while it is on its way. -/
theorem request_token {r : Nat} {task : RequestTask} {a : ProxyAction} {phase : RequestPhase}
    (move : RequestMove db p r task a phase) {token : String} (carries : phase.token = some token) :
    task.phase.token = some token := by
  cases move with
  | responded response awaited => simp [RequestPhase.token] at carries
  | failed error source => simp [RequestPhase.token] at carries
  | dropped => simp [RequestPhase.token] at carries
  | _ => simp_all [RequestPhase.token]

/-- A request is answered with a response only if it was forwarded. -/
theorem response_awaited {r : Nat} {task : RequestTask} {a : ProxyAction} {response : Response}
    (move : RequestMove db p r task a (.answered (.ok response))) : r ∈ p.responses := by
  generalize answer : (Except.ok response : Except ProxyError Response) = result at move
  cases move with
  | failed error source => simp at answer
  | responded received awaited => exact awaited

theorem spawned_token {r : Nat} {req : Request} {token : String}
    (h : p.step db (.lookupOrInsert r) = some outcome)
    (at_r : p.requests[r]? = some { req, phase := .found token })
    (absent : p.openSender token = none) :
    outcome.proxy.tokenOf p.dispatchers.length = some token := by
  simp only [Proxy.step, at_r, absent] at h
  cases h
  simp [Proxy.tokenOf, Proxy.insertDispatcher, Proxy.setPhase]

/-- A request comes to hold a channel by a look at the cache, by spawning its
dispatcher, or it held it before. -/
theorem request_sender {r : Nat} {task : RequestTask} {a : ProxyAction} {phase : RequestPhase}
    (move : RequestMove db p r task a phase) {token : String} {e : Nat}
    (carries : phase.token = some token) (sender : phase.sender = some e) :
    p.openSender token = some e ∨
      (a = .lookupOrInsert r ∧ task.phase = .found token ∧ p.openSender token = none ∧
        e = p.dispatchers.length) ∨
      task.phase.sender = some e := by
  cases move with
  | hit token' d before cached =>
    cases carries
    cases sender
    exact Or.inl cached
  | joined token' d before cached =>
    cases carries
    cases sender
    exact Or.inl cached
  | spawned token' before absent =>
    cases carries
    cases sender
    exact Or.inr (Or.inl ⟨rfl, before, absent, rfl⟩)
  | enqueued token' d before =>
    refine Or.inr (Or.inr ?_)
    simpa [RequestPhase.sender, before] using sender
  | _ => simp [RequestPhase.sender] at sender

theorem open_sender_cached {token : String} {e : Nat} (h : p.openSender token = some e) :
    p.connections.lookup token = some e :=
  (Option.filter_eq_some_iff.mp h).1

/-- What one step does to the cache. -/
theorem step_connections {a : ProxyAction} (h : p.step db a = some outcome) :
    outcome.proxy.connections = p.connections ∨
    (∃ r req token, a = .lookupOrInsert r ∧ p.requests[r]? = some { req, phase := .found token } ∧
      p.openSender token = none ∧
      outcome.proxy.connections = p.connections.insert token p.dispatchers.length) ∨
    ∃ token, outcome.proxy.connections = p.connections.erase token := by
  cases proxy_step h with
  | spawned r req token at_r absent =>
    exact Or.inr (Or.inl ⟨r, req, token, rfl, at_r, absent, rfl⟩)
  | closed r token message =>
    rcases remove_closed_connections p token with same | erased
    · exact Or.inl same
    · exact Or.inr (Or.inr ⟨token, erased⟩)
  | _ => exact Or.inl rfl

/-- What one step hands to an upstream connection. -/
theorem step_sent {a : ProxyAction} (h : p.step db a = some outcome) :
    (outcome.proxy.sent = p.sent ∧ ∀ r ∈ outcome.proxy.responses, r ∈ p.responses) ∨
    ∃ d disp msg address, a = .send d .ready ∧ p.dispatchers[d]? = some disp ∧
      disp.phase = .sending msg ∧ disp.upstream = some address ∧
      outcome.proxy.sent = p.sent ++
        [{ request := msg.request, req := msg.req, dispatcher := d, address }] ∧
      outcome.proxy.responses = p.responses ++ [msg.request] := by
  cases proxy_step h with
  | closed r token message =>
    have same := remove_closed_sent p token
    refine Or.inl ⟨same.1, ?_⟩
    intro r member
    rw [← same.2]
    exact member
  | sent d disp msg address at_d phase connection =>
    exact Or.inr ⟨d, disp, msg, address, rfl, at_d, phase, connection, rfl, rfl⟩
  | responded r response awaited => exact Or.inl ⟨rfl, fun _ member => List.mem_of_mem_erase member⟩
  | _ => exact Or.inl ⟨rfl, fun _ member => member⟩

end

end SparkPlug
