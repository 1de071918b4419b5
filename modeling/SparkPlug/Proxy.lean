import Mathlib.Data.List.AList
import SparkPlug.Library.Text
import SparkPlug.Store

/-!
The gRPC proxy: the process-wide cache of dispatchers, the dispatcher tasks and
the proxied requests. A dispatcher and its channel share one number. Outcomes of
the network are parameters of the actions.
-/
namespace SparkPlug
open KeyedTable Text

/- Header names are in lower case, as HeaderMap keeps them; values are bytes. -/
abbrev HeaderMap := List (String × List UInt8)

namespace HeaderMap

/-- The first value of a header. -/
def get (headers : HeaderMap) (name : String) : Option (List UInt8) :=
  (headers.find? fun h => h.1 = name).map (·.2)

end HeaderMap

/-- `HeaderValue::to_str`: visible ASCII and tabs only. -/
def toStr (value : List UInt8) : Option String :=
  if value.all fun b => b = 9 || (32 ≤ b && b ≤ 126) then
    some (String.ofList (value.map fun b => Char.ofNat b.toNat))
  else none

def AUTHORIZATION : String := "authorization"

def extractBearerToken (headers : HeaderMap) : Except ProxyError String :=
  match headers.get AUTHORIZATION with
  | none => .error .missingAuthorizationHeader
  | some value =>
    match toStr value with
    | none => .error (.invalidAuthorizationHeader "failed to convert header to a str")
    | some authorization =>
      match splitOnce ' ' authorization with
      | some (scheme, token) =>
        if scheme = "Bearer" then
          if token.isEmpty then .error (.invalidAuthorizationHeader "missing bearer token")
          else .ok token
        else .error .invalidAuthorizationScheme
      | none => .error (.invalidAuthorizationHeader "expected `Bearer <token>`")

structure Request where
  headers : HeaderMap
  pathAndQuery : Option String
  deriving DecidableEq

/- The response of an upstream, an opaque tag. -/
abbrev Response := Nat

/-- How far a proxied request has come in dispatchRequest and senderFor. -/
inductive RequestPhase where
  | parsed (token : String)
  /- No open sender in the cache, the store lookup is pending. -/
  | missed (token : String)
  /- The application exists, the second look at the cache is pending. -/
  | found (token : String)
  | holding (token : String) (channel : Nat)
  | queued (token : String) (channel : Nat)
  | answered (result : Except ProxyError Response)
  | dropped
  deriving DecidableEq

structure RequestTask where
  req : Request
  phase : RequestPhase
  deriving DecidableEq

/-- A queued request and the number of the task that awaits its reply. -/
structure UpstreamMessage where
  request : Nat
  req : Request
  deriving DecidableEq

inductive DispatcherPhase where
  | receiving
  | resolving (msg : UpstreamMessage)
  | connecting (msg : UpstreamMessage) (address : String)
  /- The retries are exhausted and markApplicationFailed is pending. -/
  | failing (msg : UpstreamMessage) (address : String) (lastError : ProxyError)
  | sending (msg : UpstreamMessage)
  | ended
  deriving DecidableEq

namespace DispatcherPhase

/-- The message that is being handled. -/
def message : DispatcherPhase → Option UpstreamMessage
  | .resolving msg | .connecting msg _ | .failing msg _ _ | .sending msg => some msg
  | _ => none

/-- The address that was read and is being connected to. -/
def address : DispatcherPhase → Option String
  | .connecting _ address => some address
  | .failing _ address _ => some address
  | _ => none

end DispatcherPhase

/-- The task of upstreamConnection; `upstream` is the address of the open connection. -/
structure Dispatcher where
  token : String
  queue : List UpstreamMessage := []
  upstream : Option String := none
  phase : DispatcherPhase := .receiving
  deriving DecidableEq

namespace Dispatcher

/-- The messages that have reached the dispatcher and are not answered or forwarded. -/
def messages (disp : Dispatcher) : List UpstreamMessage := disp.phase.message.toList ++ disp.queue

/-- The dispatcher has a connection to the address or is opening one. -/
def Holds (disp : Dispatcher) (address : String) : Prop :=
  disp.phase.address = some address ∨ disp.upstream = some address

end Dispatcher

/-- A request handed to the sender of an upstream connection. -/
structure Forwarded where
  request : Nat
  req : Request
  dispatcher : Nat
  address : String
  deriving DecidableEq

structure Proxy where
  connections : AList (fun _ : String => Nat) := ∅
  dispatchers : List Dispatcher := []
  requests : List RequestTask := []
  /- The tasks that await the response of an upstream, by request. -/
  responses : List Nat := []
  sent : List Forwarded := []

def MAX_UPSTREAM_CONNECT_RETRIES : Nat := 3

/-- What becomes of one attempt to open a connection. -/
inductive ConnectOutcome where
  | connected
  | refused (message : String)
  | handshakeFailed (message : String)
  deriving DecidableEq

def connectUpstream : ConnectOutcome → Except ProxyError Unit
  | .connected => .ok ()
  | .refused message => .error (.upstreamConnect message)
  | .handshakeFailed message => .error (.upstreamHandshake message)

inductive ConnectResult where
  | connected
  | exhausted (lastError : Option ProxyError)
  | aborted (error : ProxyError)
  deriving DecidableEq

/-- The retry loop of resolveUpstreamConnection over the attempts still to come. -/
def connectAttempts (outcome : Nat → ConnectOutcome) :
    List Nat → Option ProxyError → ConnectResult
  | [], lastError => .exhausted lastError
  | attempt :: rest, _ =>
    match connectUpstream (outcome attempt) with
    | .ok () => .connected
    | .error (.upstreamConnect e) => connectAttempts outcome rest (some (.upstreamConnect e))
    | .error (.upstreamHandshake e) => connectAttempts outcome rest (some (.upstreamHandshake e))
    | .error error => .aborted error

def connectWithRetries (outcome : Nat → ConnectOutcome) : ConnectResult :=
  connectAttempts outcome (List.range (MAX_UPSTREAM_CONNECT_RETRIES + 1)) none

def databaseError : ProxyError := .database "the store failed"

inductive Resolution where
  | resolved (address : String)
  | wait
  | error (error : ProxyError)
  deriving DecidableEq

/-- One round of the loop of resolveUpstreamAddress. -/
def resolveRound (db : Db) (token : String) (closed stored : Bool) : Resolution :=
  if closed then .error .applicationNotFound
  else if stored then
    match db.first fun r => r.token = token with
    | none => .error .applicationNotFound
    | some app =>
      match app.state with
      | .running =>
        match app.address with
        | some address => .resolved address
        | none => .error .missingApplicationAddress
      | .launching => .wait
      | state => .error (.invalidApplicationState state)
  else .error databaseError

theorem resolve_round_resolved {db : Db} {token address : String} {closed stored : Bool}
    (h : resolveRound db token closed stored = .resolved address) :
    ∃ app ∈ db.rows, app.token = token ∧ app.state = .running ∧ app.address = some address := by
  cases found : db.first (fun r => r.token = token) with
  | none => grind [resolveRound]
  | some app =>
    have facts := Table.first_some found
    exact ⟨app, by grind [resolveRound]⟩

/-- An address is read only when the store answers. -/
theorem resolve_round_stored {db : Db} {token address : String} {closed stored : Bool}
    (h : resolveRound db token closed stored = .resolved address) : stored = true := by
  cases stored with
  | true => rfl
  | false => cases closed <;> simp [resolveRound] at h

theorem resolve_round_missing {db : Db} {token : String} {closed stored : Bool}
    (h : resolveRound db token closed stored = .error .missingApplicationAddress) :
    ∃ app ∈ db.rows, app.token = token ∧ app.state = .running ∧ app.address = none := by
  cases found : db.first (fun r => r.token = token) with
  | none => grind [resolveRound, databaseError]
  | some app =>
    have facts := Table.first_some found
    exact ⟨app, by grind [resolveRound, databaseError]⟩

theorem resolve_round_wait {db : Db} {token : String} {closed stored : Bool}
    (h : resolveRound db token closed stored = .wait) :
    ∃ app ∈ db.rows, app.token = token ∧ app.state = .launching := by
  cases found : db.first (fun r => r.token = token) with
  | none => grind [resolveRound]
  | some app =>
    have facts := Table.first_some found
    exact ⟨app, by grind [resolveRound]⟩

inductive SendOutcome where
  | invalidUri (message : String)
  | notReady (message : String)
  | ready
  deriving DecidableEq

inductive ProxyAction where
  | arrive (req : Request)
  | lookup (r : Nat)
  | storeLookup (r : Nat) (stored : Bool)
  | lookupOrInsert (r : Nat)
  | enqueue (r : Nat)
  | requestDropped (r : Nat)
  | receive (d : Nat)
  | resolve (d : Nat) (stored : Bool)
  | connect (d : Nat) (outcome : Nat → ConnectOutcome)
  | markFailed (d : Nat) (stored : Bool)
  | send (d : Nat) (outcome : SendOutcome)
  | respond (r : Nat) (response : Except String Response)
  | finish (d : Nat)

structure ProxyOutcome where
  proxy : Proxy
  statement : Option Statement := none

namespace RequestPhase

/-- The token that the request was parsed to carry. -/
def token : RequestPhase → Option String
  | .parsed token | .missed token | .found token | .holding token _ | .queued token _ => some token
  | _ => none

/-- The channel whose sender the task keeps alive. -/
def sender : RequestPhase → Option Nat
  | holding _ d => some d
  | queued _ d => some d
  | _ => none

end RequestPhase

namespace Proxy

def setPhase (p : Proxy) (r : Nat) (phase : RequestPhase) : Proxy :=
  { p with requests := p.requests.modify r fun task => { task with phase } }

/-- `tx.send`: the reply reaches the task if it still waits. -/
def reply (p : Proxy) (r : Nat) (result : Except ProxyError Response) : Proxy :=
  { p with requests := p.requests.modify r fun task =>
      match task.phase with
      | .queued .. => { task with phase := .answered result }
      | _ => task }

def setDispatcher (p : Proxy) (d : Nat) (dispatcher : Dispatcher) : Proxy :=
  { p with dispatchers := p.dispatchers.set d dispatcher }

/-- The token that a dispatcher was created for. -/
def tokenOf (p : Proxy) (d : Nat) : Option String := (p.dispatchers[d]?).map (·.token)

/-- `sender.is_closed()`: the receiver is gone with its task. -/
def isClosed (p : Proxy) (d : Nat) : Bool :=
  match p.dispatchers[d]? with
  | some dispatcher => dispatcher.phase = .ended
  | none => true

/-- The sender that a look at the cache finds. -/
def openSender (p : Proxy) (token : String) : Option Nat :=
  (p.connections.lookup token).filter fun d => !p.isClosed d

/-- `rx.is_closed()`: no sender of the channel is left. -/
def sendersGone (p : Proxy) (d : Nat) : Bool :=
  !(p.connections.entries.any fun e => e.2 = d) &&
    !(p.requests.any fun task => task.phase.sender = some d)

def removeClosed (p : Proxy) (token : String) : Proxy :=
  match p.connections.lookup token with
  | some d => if p.isClosed d then { p with connections := p.connections.erase token } else p
  | none => p

def invalidate (p : Proxy) (token : String) : Proxy :=
  { p with connections := p.connections.erase token }

/-- A fresh channel, its sender in the cache and its dispatcher spawned. -/
def insertDispatcher (p : Proxy) (token : String) : Proxy :=
  { p with
    connections := p.connections.insert token p.dispatchers.length
    dispatchers := p.dispatchers ++ [{ token }] }

/-- The dispatcher answers its message with an error and goes back to its queue. -/
def reject (p : Proxy) (d : Nat) (dispatcher : Dispatcher) (msg : UpstreamMessage)
    (error : ProxyError) : Proxy :=
  (p.setDispatcher d { dispatcher with phase := .receiving }).reply msg.request (.error error)

/-- The next message of a dispatcher, up to the first await of its handling. -/
def receiveMessage (p : Proxy) (d : Nat) (dispatcher : Dispatcher) (msg : UpstreamMessage)
    (rest : List UpstreamMessage) : Proxy :=
  let dispatcher := { dispatcher with queue := rest }
  match extractBearerToken msg.req.headers with
  | .ok token =>
    if token = dispatcher.token then
      let phase : DispatcherPhase :=
        if dispatcher.upstream.isNone then .resolving msg else .sending msg
      p.setDispatcher d { dispatcher with phase }
    else p.reject d dispatcher msg .invalidAuthorizationToken
  | .error error => p.reject d dispatcher msg error

def resolveUpstreamAddress (p : Proxy) (db : Db) (d : Nat) (dispatcher : Dispatcher)
    (msg : UpstreamMessage) (stored : Bool) : Proxy :=
  match resolveRound db dispatcher.token (p.sendersGone d) stored with
  | .resolved address => p.setDispatcher d { dispatcher with phase := .connecting msg address }
  | .wait => p
  | .error error => p.reject d dispatcher msg error

/-- resolveUpstreamConnection after its attempts to connect to the address read. -/
def connected (p : Proxy) (d : Nat) (dispatcher : Dispatcher) (msg : UpstreamMessage)
    (address : String) : ConnectResult → Option ProxyOutcome
  | .connected =>
    some { proxy := p.setDispatcher d
            { dispatcher with phase := .sending msg, upstream := some address } }
  | .exhausted (some lastError) =>
    some { proxy := p.setDispatcher d
            { dispatcher with phase := .failing msg address lastError } }
  -- `last_error.expect` would panic here
  | .exhausted none => none
  | .aborted error => some { proxy := p.reject d dispatcher msg error }

/-- The rest of the loop body of upstreamConnection, with a connection to `address`. -/
def sendMessage (p : Proxy) (d : Nat) (dispatcher : Dispatcher) (msg : UpstreamMessage)
    (address : String) : SendOutcome → Proxy
  | .invalidUri message => p.reject d dispatcher msg (.invalidUpstreamUri message)
  | .notReady message =>
    p.reject d { dispatcher with upstream := none } msg (.upstreamRequest message)
  | .ready =>
    { p.setDispatcher d { dispatcher with phase := .receiving } with
      sent := p.sent ++ [{ request := msg.request, req := msg.req, dispatcher := d, address }]
      responses := p.responses ++ [msg.request] }

/-- The outcome of an action that executes no statement. -/
abbrev quiet (proxy : Proxy) : Option ProxyOutcome := some { proxy }

def step (db : Db) (p : Proxy) : ProxyAction → Option ProxyOutcome
  | .arrive req =>
    let phase : RequestPhase :=
      match extractBearerToken req.headers with
      | .ok token => .parsed token
      | .error error => .answered (.error error)
    quiet { p with requests := p.requests ++ [{ req, phase }] }
  | .lookup r =>
    match p.requests[r]? with
    | some { phase := .parsed token, .. } =>
      match p.openSender token with
      | some d => quiet (p.setPhase r (.holding token d))
      | none => quiet (p.setPhase r (.missed token))
    | _ => none
  | .storeLookup r stored =>
    match p.requests[r]? with
    | some { phase := .missed token, .. } =>
      if stored then
        match db.first fun r => r.token = token with
        | some _ => quiet (p.setPhase r (.found token))
        | none => quiet (p.setPhase r (.answered (.error .applicationNotFound)))
      else quiet (p.setPhase r (.answered (.error databaseError)))
    | _ => none
  | .lookupOrInsert r =>
    match p.requests[r]? with
    | some { phase := .found token, .. } =>
      match p.openSender token with
      | some d => quiet (p.setPhase r (.holding token d))
      | none => quiet ((p.insertDispatcher token).setPhase r (.holding token p.dispatchers.length))
    | _ => none
  | .enqueue r =>
    match p.requests[r]? with
    | some { req, phase := .holding token d } =>
      match p.dispatchers[d]? with
      | some dispatcher =>
        if dispatcher.phase = .ended then
          quiet ((p.removeClosed token).setPhase r
            (.answered (.error (.internal "Upstream unexpectedly closed"))))
        else
          let queue := dispatcher.queue ++ [{ request := r, req }]
          quiet ((p.setDispatcher d { dispatcher with queue }).setPhase r (.queued token d))
      | none => none
    | _ => none
  | .requestDropped r =>
    match p.requests[r]? with
    | some { phase := .answered _, .. } | none => none
    | some _ => quiet (p.setPhase r .dropped)
  | .receive d =>
    match p.dispatchers[d]? with
    | some dispatcher =>
      match dispatcher.phase, dispatcher.queue with
      | .receiving, msg :: rest => quiet (p.receiveMessage d dispatcher msg rest)
      | _, _ => none
    | none => none
  | .resolve d stored =>
    match p.dispatchers[d]? with
    | some dispatcher =>
      match dispatcher.phase with
      | .resolving msg => quiet (p.resolveUpstreamAddress db d dispatcher msg stored)
      | _ => none
    | none => none
  | .connect d outcome =>
    match p.dispatchers[d]? with
    | some dispatcher =>
      match dispatcher.phase with
      | .connecting msg address => p.connected d dispatcher msg address (connectWithRetries outcome)
      | _ => none
    | none => none
  | .markFailed d stored =>
    match p.dispatchers[d]? with
    | some dispatcher =>
      match dispatcher.phase with
      | .failing msg _ lastError =>
        if stored then some { proxy := p.reject d dispatcher msg lastError
                              statement := some (.markApplicationFailed dispatcher.token) }
        else quiet (p.reject d dispatcher msg databaseError)
      | _ => none
    | none => none
  | .send d outcome =>
    match p.dispatchers[d]? with
    | some dispatcher =>
      match dispatcher.phase, dispatcher.upstream with
      | .sending msg, some address => quiet (p.sendMessage d dispatcher msg address outcome)
      -- `upstream.as_mut().unwrap()` would panic without a connection
      | _, _ => none
    | none => none
  | .respond r response =>
    if r ∈ p.responses then
      quiet ({ p with responses := p.responses.erase r }.reply r
        (response.mapError .upstreamRequest))
    else none
  | .finish d =>
    match p.dispatchers[d]? with
    | some dispatcher =>
      -- `rx.recv()` gives None once the queue is drained and no sender is left
      if dispatcher.phase = .receiving && dispatcher.queue = [] && p.sendersGone d then
        quiet (p.setDispatcher d { dispatcher with phase := .ended, upstream := none })
      else none
    | none => none

end Proxy

theorem Proxy.connected_quiet {p : Proxy} {d : Nat} {dispatcher : Dispatcher}
    {msg : UpstreamMessage} {address : String} {result : ConnectResult} {outcome : ProxyOutcome}
    (h : p.connected d dispatcher msg address result = some outcome) :
    outcome.statement = none := by
  cases result with
  | exhausted lastError => cases lastError <;> grind [Proxy.connected]
  | _ => grind [Proxy.connected]

/-- The only statement of the proxy is the one of markApplicationFailed. -/
theorem Proxy.step_statement {db : Db} {p : Proxy} {a : ProxyAction} {outcome : ProxyOutcome}
    (h : p.step db a = some outcome) : outcome.statement = none ∨
      ∃ d dispatcher msg address lastError, a = .markFailed d true ∧
        p.dispatchers[d]? = some dispatcher ∧
        dispatcher.phase = .failing msg address lastError ∧
        outcome.statement = some (.markApplicationFailed dispatcher.token) := by
  cases a <;> grind [Proxy.step, Proxy.connected_quiet]

end SparkPlug
