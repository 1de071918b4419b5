import Mathlib.Algebra.Group.Int.Defs
import Mathlib.Algebra.Group.Nat.Defs
import SparkPlug.World

/-!
The plugin in the driver: listener, interceptor and idle timer. The Connect service
is Spark's own; its gRPC server is a parameter with the two facts the plugin and the
proxy rely on. Times are in milliseconds.
-/
namespace SparkPlug

/-- The bytes of a header value that is built from a string. -/
def headerValue (text : String) : List UInt8 := text.toList.flatMap String.utf8EncodeChar

theorem header_value_injective {a b : String} (h : headerValue a = headerValue b) : a = b := by
  have bytes : a.toByteArray = b.toByteArray := by
    rw [← String.utf8Encode_toList, ← String.utf8Encode_toList]
    exact congrArg List.toByteArray h
  exact String.toByteArray_inj.mp bytes

theorem utf8_ascii {n : Nat} (ascii : n < 128) :
    String.utf8EncodeChar (Char.ofNat n) = [UInt8.ofNat n] := by
  have valid : n.isValidChar := Or.inl (by omega)
  have value : (Char.ofNat n).val.toNat = n := by
    rw [Char.ofNat, dif_pos valid]
    rfl
  unfold String.utf8EncodeChar
  simp only [value]
  exact if_pos (by omega)

/-- Bytes that are ASCII characters make a value of one byte a character. -/
theorem header_value_ascii {value : List UInt8} (ascii : ∀ b ∈ value, b.toNat < 128) :
    headerValue (String.ofList (value.map fun b => Char.ofNat b.toNat)) = value := by
  unfold headerValue
  rw [String.toList_ofList]
  induction value with
  | nil => rfl
  | cons b value ih =>
    simp only [List.mem_cons, forall_eq_or_imp] at ascii
    rw [List.map_cons, List.flatMap_cons, utf8_ascii ascii.1, ih ascii.2, UInt8.ofNat_toNat]
    rfl

def X_SPARK_PLUG : String := "x-spark-plug"

inductive SessionMessage where
  | health
  | stop
  deriving DecidableEq

def SessionMessage.text : SessionMessage → String
  | .health => "health"
  | .stop => "stop"

/-- The headers of the call that sendSessionMessage fakes. -/
def sessionHeaders (token : String) (message : SessionMessage) : HeaderMap :=
  [(AUTHORIZATION, headerValue ("Bearer " ++ token)), (X_SPARK_PLUG, headerValue message.text),
   ("content-type", headerValue "application/grpc"), ("te", headerValue "trailers")]

structure Grpc where
  /- `metadata.get` of a key with the ASCII marshaller. -/
  metadataGet : HeaderMap → String → Option String
  /- The check of `spark.connect.authenticate.token` before the interceptor is called. -/
  authenticated : String → HeaderMap → Bool
  delivers : ∀ token message,
    metadataGet (sessionHeaders token message) X_SPARK_PLUG = some message.text
  rejects : ∀ token other message,
    authenticated token (sessionHeaders other message) = true → other = token

/-- The last value of a header, as `metadata.get` returns it. -/
def HeaderMap.last (headers : HeaderMap) (name : String) : Option (List UInt8) :=
  HeaderMap.get headers.reverse name

/-- Spark's server as far as ASCII header values go. -/
def sparkGrpc : Grpc where
  metadataGet headers name :=
    (headers.last name).map fun value => String.ofList (value.map fun b => Char.ofNat b.toNat)
  authenticated token headers :=
    decide (headers.last AUTHORIZATION = some (headerValue ("Bearer " ++ token)))
  delivers token message := by
    cases message <;> rfl
  rejects token other message h := by
    have value : some (headerValue ("Bearer " ++ other)) =
        some (headerValue ("Bearer " ++ token)) := of_decide_eq_true h
    have text := header_value_injective (Option.some.inj value)
    simpa using text

inductive ConnectService where
  | down
  | up
  | ended
  deriving DecidableEq

/-- `SparkConnectService.stop()`; only a service that is up ends, with one event. -/
def ConnectService.stop : ConnectService → ConnectService
  | .up => .ended
  | service => service

/-- A callback on its way; it is processed once, at any time after it was sent. -/
inductive CallbackPhase where
  | unsent
  | inFlight
  | processed (answer : Except StatusCode Unit)
  deriving DecidableEq

/-- The listener handles one event after the other, and each callback blocks it. -/
inductive ListenerPhase where
  | waiting
  | registering
  | registered
  | deregistering
  | done
  deriving DecidableEq

structure Driver where
  token : String
  address : String
  applicationId : String
  /- `spark.plug.idle.timeout`, in seconds. -/
  timeout : Option Int
  lastActive : Int
  externalShutdown : Bool := false
  service : ConnectService := .down
  polling : Bool := true
  listener : ListenerPhase := .waiting
  post : CallbackPhase := .unsent
  delete : CallbackPhase := .unsent

inductive DriverAction where
  | start
  | connectServiceStarted (now : Int)
  | callbackAnswered
  /- The connection is refused, so that the registration is never sent. -/
  | callbackRefused
  | callbackTimedOut
  | connectServiceEnd (now : Int)
  /- An answer, a bad status or a timeout; all are only logged. -/
  | callbackDeleteDone
  | otherEvent (now : Int)
  | idlePoll (now : Int) (active : Bool)

/-- The value of a Long; its arithmetic wraps. -/
def toLong (x : Int) : Int := x.bmod (2 ^ 64)

theorem to_long_eq {x : Int} (least : -2 ^ 63 ≤ x) (most : x < 2 ^ 63) : toLong x = x := by
  apply Int.bmod_eq_of_le
  · simpa using least
  · simpa using most

inductive GrpcStatus where
  | ok
  | cancelled
  | invalidArgument
  deriving DecidableEq

namespace Driver

def updateLastActive (d : Driver) (now : Int) : Driver := { d with lastActive := now }

def stop (d : Driver) : Driver := { d with service := d.service.stop }

/-- The status that closes the call, or none when the call goes on to Spark. -/
def interceptCall (grpc : Grpc) (d : Driver) (now : Int) (metadata : HeaderMap) :
    Driver × Option GrpcStatus :=
  match grpc.metadataGet metadata X_SPARK_PLUG with
  | some message =>
    if message = "health" then (d, some .ok)
    else if message = "stop" then ({ d with externalShutdown := true }.stop, some .cancelled)
    else (d, some .invalidArgument)
  | none => (d.updateLastActive now, none)

/-- The end of the POST in onOtherEvent: anything but status 200 stops the service. -/
def afterCallback (d : Driver) : Except StatusCode Unit → Driver
  | .ok () => { d with listener := .registered }
  | .error _ => { d.stop with listener := .registered }

/-- The event of the service's end; externalShutdown suppresses the DELETE. -/
def onServiceEnd (d : Driver) : Driver :=
  if d.externalShutdown then { d with listener := .done }
  else { d with listener := .deregistering, delete := .inFlight }

/-- One round of the timeout thread. -/
def idlePoll (d : Driver) (timeout now : Int) (active : Bool) : Driver :=
  if active then d.updateLastActive now
  else if d.lastActive < toLong (now - toLong (timeout * 1000)) then
    { d.stop with polling := false }
  else d

def step (d : Driver) : DriverAction → Option Driver
  | .start => if d.service = .down then some { d with service := .up } else none
  | .connectServiceStarted now =>
    if d.listener = .waiting && d.service ≠ .down then
      some { d.updateLastActive now with listener := .registering, post := .inFlight }
    else none
  | .callbackAnswered =>
    match d.listener, d.post with
    | .registering, .processed answer => some (d.afterCallback answer)
    | _, _ => none
  | .callbackRefused =>
    if d.listener = .registering && d.post = .inFlight then
      some { d.stop with listener := .registered, post := .unsent }
    else none
  | .callbackTimedOut =>
    if d.listener = .registering then some { d.stop with listener := .registered } else none
  | .connectServiceEnd now =>
    if d.listener = .registered && d.service = .ended then
      some (d.updateLastActive now).onServiceEnd
    else none
  | .callbackDeleteDone =>
    if d.listener = .deregistering then some { d with listener := .done } else none
  | .otherEvent now =>
    if d.listener = .registering || d.listener = .deregistering then none
    else some (d.updateLastActive now)
  | .idlePoll now active =>
    match d.timeout with
    | some timeout => if d.polling then some (d.idlePoll timeout now active) else none
    | none => none

end Driver

/-- What an action does to the callbacks of a driver. -/
inductive DriverMove (d : Driver) : Driver → Prop where
  | kept (lastActive : Int) (service : ConnectService) (polling : Bool) :
      DriverMove d { d with lastActive, service, polling }
  | registering (lastActive : Int) (first : d.listener = .waiting) :
      DriverMove d { d with lastActive, listener := .registering, post := .inFlight }
  | registered (service : ConnectService) (post : CallbackPhase)
      (first : d.listener = .registering)
      (sent : post = d.post ∨ (d.post = .inFlight ∧ post = .unsent)) :
      DriverMove d { d with service, post, listener := .registered }
  | suppressed (lastActive : Int) (first : d.listener = .registered)
      (shutdown : d.externalShutdown = true) :
      DriverMove d { d with lastActive, listener := .done }
  | deregistering (lastActive : Int) (first : d.listener = .registered) :
      DriverMove d { d with lastActive, listener := .deregistering, delete := .inFlight }
  | deregistered (first : d.listener = .deregistering) : DriverMove d { d with listener := .done }

theorem driver_move {d d' : Driver} {a : DriverAction} (h : d.step a = some d') :
    DriverMove d d' := by
  cases a with
  | start =>
    obtain ⟨_, eq⟩ := Option.ite_none_right_eq_some.mp h
    cases eq
    exact .kept _ _ _
  | connectServiceStarted now =>
    obtain ⟨first, eq⟩ := Option.ite_none_right_eq_some.mp h
    cases eq
    simp only [Bool.and_eq_true, decide_eq_true_eq] at first
    exact .registering now first.1
  | callbackAnswered =>
    simp only [Driver.step] at h
    split at h
    · rename_i answer first _
      cases h
      cases answer with
      | ok => exact .registered d.service d.post first (Or.inl rfl)
      | error => exact .registered d.service.stop d.post first (Or.inl rfl)
    · simp at h
  | callbackRefused =>
    obtain ⟨first, eq⟩ := Option.ite_none_right_eq_some.mp h
    cases eq
    simp only [Bool.and_eq_true, decide_eq_true_eq] at first
    exact .registered d.service.stop .unsent first.1 (Or.inr ⟨first.2, rfl⟩)
  | callbackTimedOut =>
    obtain ⟨first, eq⟩ := Option.ite_none_right_eq_some.mp h
    cases eq
    exact .registered d.service.stop d.post first (Or.inl rfl)
  | connectServiceEnd now =>
    obtain ⟨first, eq⟩ := Option.ite_none_right_eq_some.mp h
    cases eq
    simp only [Bool.and_eq_true, decide_eq_true_eq] at first
    unfold Driver.onServiceEnd
    split
    · rename_i shutdown
      exact .suppressed now first.1 shutdown
    · exact .deregistering now first.1
  | callbackDeleteDone =>
    obtain ⟨first, eq⟩ := Option.ite_none_right_eq_some.mp h
    cases eq
    exact .deregistered first
  | otherEvent now =>
    obtain ⟨_, eq⟩ := Option.ite_none_left_eq_some.mp h
    cases eq
    exact .kept now d.service d.polling
  | idlePoll now active =>
    simp only [Driver.step] at h
    split at h
    · obtain ⟨_, eq⟩ := Option.ite_none_right_eq_some.mp h
      cases eq
      unfold Driver.idlePoll
      split
      · exact .kept now d.service d.polling
      · split
        · exact .kept d.lastActive d.service.stop false
        · exact .kept d.lastActive d.service d.polling
    · simp at h

/-- Only a stop message sets externalShutdown; no call touches listener or callbacks. -/
theorem intercepted (grpc : Grpc) (d : Driver) (now : Int) (metadata : HeaderMap) :
    ∃ active shutdown service, (d.interceptCall grpc now metadata).1 =
        { d with lastActive := active, externalShutdown := shutdown, service := service } ∧
      (shutdown = d.externalShutdown ∨
        (shutdown = true ∧ grpc.metadataGet metadata X_SPARK_PLUG = some "stop")) := by
  unfold Driver.interceptCall
  split
  · split
    · exact ⟨_, _, _, rfl, Or.inl rfl⟩
    · split
      · rename_i message read _ stop
        rw [stop] at read
        exact ⟨d.lastActive, true, d.service.stop, rfl, Or.inr ⟨rfl, read⟩⟩
      · exact ⟨_, _, _, rfl, Or.inl rfl⟩
  · exact ⟨now, _, _, rfl, Or.inl rfl⟩

end SparkPlug
