import Mathlib.Data.Nat.Find
import SparkPlug.ErrorResponse

/-!
The session messages of the server and what it takes for a success. The sender looks
at the HTTP status alone, while gRPC reports its errors under HTTP status 200.
-/
namespace SparkPlug

/- The end of one exchange with the peer at an application's address. -/
inductive Answer where
  | unreachable (message : String)
  | response (response : HttpResponse)
  deriving DecidableEq

inductive SendError where
  | transport (message : String)
  | status (code : Nat)
  deriving DecidableEq

/-- `Response::error_for_status`: client and server errors only. -/
def errorForStatus (response : HttpResponse) : Except SendError Unit :=
  if 400 ≤ response.status && response.status < 600 then .error (.status response.status)
  else .ok ()

def sendSessionMessage : Answer → Except SendError Unit
  | .unreachable message => .error (.transport message)
  | .response response => errorForStatus response

def delivered (answer : Answer) : Bool := (sendSessionMessage answer).isOk

def GrpcStatus.code : GrpcStatus → String
  | .ok => "0"
  | .cancelled => "1"
  | .invalidArgument => "3"

/-- What a gRPC server answers when it closes a call without a message. -/
def closeResponse (status : GrpcStatus) : HttpResponse where
  status := 200
  headers :=
    [(CONTENT_TYPE, headerValue "application/grpc"), (GRPC_STATUS, headerValue status.code)]

/-- The status with which the interceptor closes the call of a message it has handled. -/
def SessionMessage.status : SessionMessage → GrpcStatus
  | .health => .ok
  | .stop => .cancelled

def Handled (message : SessionMessage) : Answer → Prop
  | .unreachable _ => False
  | .response response => (200 ≤ response.status ∧ response.status < 300) ∧
      response.grpcStatus = some (headerValue message.status.code)

instance (message : SessionMessage) (answer : Answer) : Decidable (Handled message answer) :=
  match answer with
  | .unreachable _ => isFalse id
  | .response response => inferInstanceAs (Decidable ((200 ≤ response.status ∧
      response.status < 300) ∧ response.grpcStatus = some (headerValue message.status.code)))

/-- The exchange fails, or the peer answers with an HTTP error. -/
def Refused : Answer → Prop
  | .unreachable _ => True
  | .response response => 400 ≤ response.status ∧ response.status < 600

instance (answer : Answer) : Decidable (Refused answer) :=
  match answer with
  | .unreachable _ => isTrue trivial
  | .response response =>
    inferInstanceAs (Decidable (400 ≤ response.status ∧ response.status < 600))

/-- The driver's interceptor closes a session message with the status that is looked for. -/
theorem interceptor_handles (grpc : Grpc) (d : Driver) (now : Int) (token : String)
    (message : SessionMessage) : ∃ status,
      (d.interceptCall grpc now (sessionHeaders token message)).2 = some status ∧
        Handled message (.response (closeResponse status)) := by
  refine ⟨message.status, ?_, ?_⟩
  · unfold Driver.interceptCall
    rw [grpc.delivers]
    cases message <;> simp [SessionMessage.text, SessionMessage.status]
  · cases message <;> decide

theorem delivered_iff (answer : Answer) : delivered answer = true ↔ ¬ Refused answer := by
  cases answer with
  | unreachable message => simp [delivered, sendSessionMessage, Refused, Except.isOk, Except.toBool]
  | response response =>
    by_cases error : 400 ≤ response.status ∧ response.status < 600
    · simp [delivered, sendSessionMessage, errorForStatus, Refused, error, Except.isOk,
        Except.toBool]
    · have passes : errorForStatus response = .ok () := by
        simp only [errorForStatus, Bool.and_eq_true, decide_eq_true_eq, error, ↓reduceIte]
      simp [delivered, sendSessionMessage, Refused, passes, error, Except.isOk, Except.toBool]

theorem handled_not_refused {message : SessionMessage} {answer : Answer}
    (handled : Handled message answer) : ¬ Refused answer := by
  cases answer with
  | unreachable => exact fun _ => handled
  | response response =>
    have status := handled.1
    intro refused
    have code := refused.1
    omega

/-- A message counts as delivered only if it was handled, exactly for these answers. -/
theorem delivered_handled_iff (message : SessionMessage) (answer : Answer) :
    (delivered answer = true → Handled message answer) ↔
      Refused answer ∨ Handled message answer := by
  rw [delivered_iff]
  by_cases refused : Refused answer
  · simp [refused]
  · simp [refused]

/-- A check leaves a probed application running only if an attempt that was made was
answered by its driver. -/
def KeptIfAnswered (app : Model) (answers : Nat → Answer) : Prop :=
  Check.shouldFail app (fun k => delivered (answers k)) = false →
    ∃ k ≤ HEALTH_CHECK_RETRIES, (∀ j < k, Refused (answers j)) ∧ Handled .health (answers k)

theorem should_fail_iff (app : Model) (answers : Nat → Answer) :
    Check.shouldFail app (fun k => delivered (answers k)) = false ↔
      app.address ≠ none ∧ ∃ k ≤ HEALTH_CHECK_RETRIES, ¬ Refused (answers k) := by
  rw [← Bool.not_eq_true, Check.fails_iff]
  simp [delivered_iff]

theorem kept_if_answered_iff (app : Model) (answers : Nat → Answer) :
    KeptIfAnswered app answers ↔ app.address = none ∨
      ∀ k ≤ HEALTH_CHECK_RETRIES, (∀ j < k, Refused (answers j)) →
        Refused (answers k) ∨ Handled .health (answers k) := by
  unfold KeptIfAnswered
  rw [should_fail_iff]
  constructor
  · intro kept
    by_cases absent : app.address = none
    · exact Or.inl absent
    · refine Or.inr fun k bound earlier => ?_
      by_cases refused : Refused (answers k)
      · exact Or.inl refused
      · obtain ⟨first, _, before, handled⟩ := kept ⟨absent, k, bound, refused⟩
        have answered := handled_not_refused handled
        rcases Nat.lt_trichotomy first k with less | same | more
        · exact absurd (earlier first less) answered
        · exact Or.inr (same ▸ handled)
        · exact absurd (before k more) refused
  · rintro (absent | attempts) ⟨probed, k, bound, passed⟩
    · exact absurd absent probed
    · -- the first attempt that is not refused ends the check
      obtain ⟨first, least, answered, before⟩ : ∃ first ≤ k, ¬ Refused (answers first) ∧
          ∀ j < first, Refused (answers j) := by
        have some : ∃ k, ¬ Refused (answers k) := ⟨k, passed⟩
        refine ⟨Nat.find some, Nat.find_min' some passed, Nat.find_spec some, fun j less => ?_⟩
        simpa using Nat.find_min some less
      refine ⟨first, by omega, before, ?_⟩
      rcases attempts first (by omega) before with refused | handled
      · exact absurd refused answered
      · exact handled

/-- Every error of the proxy passes for a delivered message. -/
theorem proxy_error_delivered (error : ProxyError) (message : SessionMessage) :
    delivered (.response (proxyErrorResponse error)) = true ∧
      ¬ Handled message (.response (proxyErrorResponse error)) := by
  constructor
  · rw [delivered_iff]
    simp [Refused, proxyErrorResponse]
  · intro handled
    have status := handled.2
    rw [proxy_error_status, Option.some.injEq] at status
    have same := header_value_injective status
    have other := error_status_ne error
    rw [same] at other
    cases message <;> simp [SessionMessage.status, GrpcStatus.code] at other

/-- When a success means that the driver took the message: for one exchange, for a whole
check, and for the errors of a proxy, which are never reported as failures. -/
theorem session_message_success_iff (message : SessionMessage) (answer : Answer) (app : Model)
    (answers : Nat → Answer) (error : ProxyError) :
    ((delivered answer = true → Handled message answer) ↔
      Refused answer ∨ Handled message answer) ∧
    (KeptIfAnswered app answers ↔ app.address = none ∨
      ∀ k ≤ HEALTH_CHECK_RETRIES, (∀ j < k, Refused (answers j)) →
        Refused (answers k) ∨ Handled .health (answers k)) ∧
    delivered (.response (proxyErrorResponse error)) = true ∧
      ¬ Handled message (.response (proxyErrorResponse error)) :=
  ⟨delivered_handled_iff message answer, kept_if_answered_iff app answers,
    proxy_error_delivered error message⟩

/-- Another server at the address rejects the token, and the message counts as delivered. -/
theorem rejected_stop_delivered :
    sendSessionMessage (.response (proxyErrorResponse .applicationNotFound)) = .ok () ∧
      (proxyErrorResponse .applicationNotFound).grpcStatus = some (headerValue "5") ∧
      ¬ Handled .stop (.response (proxyErrorResponse .applicationNotFound)) := by decide

end SparkPlug
