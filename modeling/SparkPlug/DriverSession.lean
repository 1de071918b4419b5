import SparkPlug.Driver
import SparkPlug.Sessions

/-!
One driver together with the server processes. Calls to the driver and its callbacks
are delayed and reordered at will; each callback is processed once.
-/
namespace SparkPlug
open KeyedTable Runs

/-- A call on its way to the driver. -/
inductive Call where
  | session (token : String) (message : SessionMessage)
  | user (headers : HeaderMap)
  deriving DecidableEq

def Call.metadata : Call → HeaderMap
  | .session token message => sessionHeaders token message
  | .user headers => headers

/-- The attempts of a health check, which ends with the first that succeeds. -/
def healthAttempts (outcome : Nat → Bool) : Nat :=
  min (HEALTH_CHECK_RETRIES + 1)
    (((List.range (HEALTH_CHECK_RETRIES + 1)).takeWhile fun k => !outcome k).length + 1)

/-- The calls that an action of the servers makes, with the address of each. -/
def World.calls (w : World) : Action → List (String × Call)
  | .routes (.deleteUpdate n true) =>
    match w.routes.deletes[n]? with
    | some (.read _ _ (some address) token) => [(address, .session token .stop)]
    | _ => []
  | .check (.checkProbe n outcome) =>
    match w.checks[n]? with
    | some (.next (app :: _)) =>
      app.address.toList.flatMap fun address =>
        List.replicate (healthAttempts outcome) (address, .session app.token .health)
    | _ => []
  | .proxy (.send d .ready) =>
    match w.proxy.dispatchers[d]? with
    | some { phase := .sending msg, upstream := some address, .. } =>
      [(address, .user msg.req.headers)]
    | _ => []
  | _ => []

/-- The token of the driver whose callback an action processes. -/
def Action.caller : Action → Option String
  | .routes (.appCallback token ..) | .routes (.appCallbackDelete token ..) => some token
  | _ => none

structure Session where
  world : World
  driver : Driver
  inbox : List Call := []

inductive SessionAction where
  /- Anything the servers do but processing a callback of this driver. -/
  | server (a : Action)
  | processCallback (stored : Bool)
  | processCallbackDelete (stored : Bool)
  | receive (k : Nat) (now : Int)
  | driver (a : DriverAction)

def appCallbackDeleteAnswer (db : Db) (token : String) (stored : Bool) : Except StatusCode Unit :=
  if stored then
    if db.rowsAffected (.appCallbackDelete token) = 0 then .error .notFound else .ok ()
  else .error .internalServerError

namespace Session

def start (d : Driver) : Session := { world := .start .new, driver := d }

def callback (s : Session) (stored : Bool) : Action :=
  .routes (.appCallback s.driver.token s.driver.address s.driver.applicationId stored)

def callbackDelete (s : Session) (stored : Bool) : Action :=
  .routes (.appCallbackDelete s.driver.token s.driver.address stored)

/-- The calls of an action that go to the address of this driver. -/
def arriving (s : Session) (a : Action) : List Call :=
  ((s.world.calls a).filter fun c => c.1 = s.driver.address).map (·.2)

def step (grpc : Grpc) (s : Session) : SessionAction → Option Session
  | .server a =>
    if a.caller = some s.driver.token then none
    else (s.world.step a).map fun world =>
      { s with world, inbox := s.inbox ++ s.arriving a }
  | .processCallback stored =>
    if s.driver.post = .inFlight then
      let answer := appCallbackAnswer s.world.db s.driver.token s.driver.address
        s.driver.applicationId stored
      (s.world.step (s.callback stored)).map fun world =>
        { s with world, driver := { s.driver with post := .processed answer } }
    else none
  | .processCallbackDelete stored =>
    if s.driver.delete = .inFlight then
      let answer := appCallbackDeleteAnswer s.world.db s.driver.token stored
      (s.world.step (s.callbackDelete stored)).map fun world =>
        { s with world, driver := { s.driver with delete := .processed answer } }
    else none
  | .receive k now =>
    match s.inbox[k]? with
    | some call =>
      let inbox := s.inbox.eraseIdx k
      if s.driver.service = .down then none
      else if grpc.authenticated s.driver.token call.metadata then
        some { s with inbox, driver := (s.driver.interceptCall grpc now call.metadata).1 }
      else some { s with inbox }
    | none => none
  | .driver a => (s.driver.step a).map fun driver => { s with driver }

end Session

/-- The action is the update of a delete that has read an address for the token. -/
def World.marks (w : World) (token : String) : Action → Bool
  | .routes (.deleteUpdate n true) =>
    match w.routes.deletes[n]? with
    | some (.read _ _ (some _) other) => other = token
    | _ => false
  | _ => false

/-- History: whether such an update has been made for the driver of the session. -/
def observeMark (s : Session) (a : SessionAction) (marked : Bool) : Bool :=
  match a with
  | .server a => marked || s.world.marks s.driver.token a
  | _ => marked

def markedStep (grpc : Grpc) : Session × Bool → SessionAction → Option (Session × Bool) :=
  withHistory (Session.step grpc) observeMark

def NotRunning (token : String) (db : Db) : Prop :=
  ∀ r ∈ db.rows, r.token = token → r.state ≠ .running

instance (token : String) (db : Db) : Decidable (NotRunning token db) :=
  inferInstanceAs (Decidable (∀ r ∈ db.rows, r.token = token → r.state ≠ .running))

/-- The service has ended, its end is handled, and no callback is left to process. -/
def Driver.Settled (d : Driver) : Prop :=
  d.listener = .done ∧ d.post ≠ .inFlight ∧ d.delete ≠ .inFlight

instance (d : Driver) : Decidable d.Settled :=
  inferInstanceAs (Decidable (d.listener = .done ∧ d.post ≠ .inFlight ∧ d.delete ≠ .inFlight))

def CallbackPhase.isProcessed : CallbackPhase → Bool
  | .processed _ => true
  | _ => false

end SparkPlug
