import SparkPlug.Driver

/-!
How the proxy reports its errors to a gRPC client: always in a response of HTTP
status 200, with the gRPC status and a percent-encoded message in the headers.
-/
namespace SparkPlug

structure HttpResponse where
  status : Nat
  headers : HeaderMap
  trailers : HeaderMap := []
  deriving DecidableEq

def CONTENT_TYPE : String := "content-type"
def GRPC_STATUS : String := "grpc-status"
def GRPC_MESSAGE : String := "grpc-message"

def ProxyError.toString : ProxyError → String
  | .authorization message => "authorization error: " ++ message
  | .missingAuthorizationHeader => "missing authorization header"
  | .invalidAuthorizationHeader message => "invalid authorization header: " ++ message
  | .invalidAuthorizationScheme => "unsupported authorization scheme"
  | .invalidAuthorizationToken => "invalid authorization token"
  | .applicationNotFound => "application not found for provided token"
  | .missingApplicationAddress => "application has no upstream address"
  | .invalidApplicationState state =>
    "application is not ready for proxying: " ++ state.toValue
  | .database message => "database error: " ++ message
  | .upstreamConnect message => "failed to connect to upstream: " ++ message
  | .upstreamHandshake message => "failed to establish upstream HTTP/2 session: " ++ message
  | .invalidUpstreamUri message => "invalid upstream URI: " ++ message
  | .upstreamRequest message => "upstream request failed: " ++ message
  | .internal message => "internal error: " ++ message

/-- The gRPC status of an error. -/
def ProxyError.grpcStatus : ProxyError → String
  | .missingAuthorizationHeader => "16"
  | .invalidAuthorizationHeader _ => "16"
  | .invalidAuthorizationScheme => "16"
  | .invalidAuthorizationToken => "16"
  | .applicationNotFound => "5"
  | .missingApplicationAddress => "14"
  | .invalidApplicationState .launching => "14"
  | .invalidApplicationState _ => "9"
  | .database _ => "13"
  | .upstreamConnect _ => "14"
  | .upstreamHandshake _ => "14"
  | .invalidUpstreamUri _ => "13"
  | .upstreamRequest _ => "14"
  | .authorization _ => "16"
  | .internal _ => "13"

/-- One digit of the format `{:02X}`. -/
def hexDigit (n : Nat) : Char := Char.ofNat (if n < 10 then 48 + n else 55 + n)

/- A blank to a tilde without the percent sign stands for itself. -/
def encodeByte (byte : UInt8) : List Char :=
  if 32 ≤ byte && byte ≤ 126 && byte ≠ 37 then [Char.ofNat byte.toNat]
  else ['%', hexDigit (byte.toNat / 16), hexDigit (byte.toNat % 16)]

def percentEncodeGrpcMessage (message : String) : String :=
  String.ofList ((headerValue message).flatMap encodeByte)

/-- `HeaderValue::from_str`. -/
def headerFromStr (text : String) : Option (List UInt8) :=
  if (headerValue text).all fun b => b = 9 || (32 ≤ b && b ≠ 127) then some (headerValue text)
  else none

def proxyErrorResponse (error : ProxyError) : HttpResponse where
  status := 200
  headers :=
    [(CONTENT_TYPE, headerValue "application/grpc"),
     (GRPC_STATUS, headerValue error.grpcStatus),
     (GRPC_MESSAGE, (headerFromStr (percentEncodeGrpcMessage error.toString)).getD
       (headerValue "proxy%20error"))]

/-- The gRPC status of a response, in its headers or in its trailers. -/
def HttpResponse.grpcStatus (response : HttpResponse) : Option (List UInt8) :=
  match response.headers.get GRPC_STATUS with
  | some status => some status
  | none => response.trailers.get GRPC_STATUS

theorem proxy_error_status (error : ProxyError) :
    (proxyErrorResponse error).grpcStatus = some (headerValue error.grpcStatus) := rfl

/-- No error is reported as success or as cancelled. -/
theorem error_status_ne (error : ProxyError) : error.grpcStatus ∉ ["0", "1"] := by
  cases error with
  | invalidApplicationState state => cases state <;> simp [ProxyError.grpcStatus]
  | _ => simp [ProxyError.grpcStatus]

example : percentEncodeGrpcMessage "upstream failed: bad\nstate % value" =
    "upstream failed: bad%0Astate %25 value" := by decide

end SparkPlug
