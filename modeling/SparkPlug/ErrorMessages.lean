import SparkPlug.Library.PercentEncoding
import SparkPlug.ErrorResponse

/-!
The message of a proxy error reaches the client whole: its percent encoding is always
a header value, so that building the response cannot fail.
-/
namespace SparkPlug
open PercentEncoding

/-- The value of a header that the response builder is given as a string. -/
def builderHeader (name value : String) : Option (String × List UInt8) :=
  (headerFromStr value).map fun value => (name, value)

/-- The response that proxyErrorResponse builds, up to the final `unwrap`. -/
def buildErrorResponse (error : ProxyError) : Option HttpResponse := do
  let grpcMessage := percentEncodeGrpcMessage error.toString
  let contentType ← builderHeader CONTENT_TYPE "application/grpc"
  let grpcStatus ← builderHeader GRPC_STATUS error.grpcStatus
  let value := (headerFromStr grpcMessage).getD (headerValue "proxy%20error")
  return { status := 200, headers := [contentType, grpcStatus, (GRPC_MESSAGE, value)] }

/-- What a gRPC client makes of the message in the headers. -/
def clientMessage (response : HttpResponse) : Option String :=
  (response.headers.get GRPC_MESSAGE).bind fun value =>
    String.fromUTF8? (decode value).toByteArray

/- The bytes of what is written for one byte. -/

def encodedByte (byte : UInt8) : List UInt8 := (encodeByte byte).flatMap String.utf8EncodeChar

/-- The byte of a hexadecimal digit. -/
def hexByte (n : Nat) : UInt8 := UInt8.ofNat (if n < 10 then 48 + n else 55 + n)

theorem hex_digit_byte {n : Nat} (digit : n < 16) :
    String.utf8EncodeChar (hexDigit n) = [hexByte n] := by
  apply utf8_ascii
  split
  · omega
  · omega

theorem hex_byte_upper {n : Nat} (digit : n < 16) : isUpperHex (hexByte n) = true := by
  revert n
  decide

theorem hex_byte_value {n : Nat} (digit : n < 16) : hexValue (hexByte n) = some n := by
  revert n
  decide

theorem encoded_plain {byte : UInt8} (plain : (32 ≤ byte && byte ≤ 126 && byte ≠ 37) = true) :
    encodedByte byte = [byte] := by
  have printable := plain
  simp only [Bool.and_eq_true, decide_eq_true_eq, UInt8.le_iff_toNat_le] at printable
  have upper : byte.toNat ≤ 126 := printable.1.2
  unfold encodedByte encodeByte
  rw [if_pos plain, List.flatMap_singleton, utf8_ascii (by omega), UInt8.ofNat_toNat]

theorem encoded_escape {byte : UInt8} (special : (32 ≤ byte && byte ≤ 126 && byte ≠ 37) ≠ true) :
    encodedByte byte = [percent, hexByte (byte.toNat / 16), hexByte (byte.toNat % 16)] := by
  have size := byte.toNat_lt
  have sign : String.utf8EncodeChar '%' = [percent] := by decide
  have high := hex_digit_byte (n := byte.toNat / 16) (by omega)
  have low := hex_digit_byte (n := byte.toNat % 16) (by omega)
  unfold encodedByte encodeByte
  rw [if_neg special]
  simp only [List.flatMap_cons, List.flatMap_nil, List.append_nil, sign, high, low,
    List.singleton_append]

theorem encoded_image (byte : UInt8) : Image byte (encodedByte byte) := by
  by_cases plain : (32 ≤ byte && byte ≤ 126 && byte ≠ 37) = true
  · rw [encoded_plain plain]
    apply Image.plain
    simp only [Bool.and_eq_true, decide_eq_true_eq] at plain
    exact plain.2
  · have size := byte.toNat_lt
    have high : byte.toNat / 16 < 16 := by omega
    have low : byte.toNat % 16 < 16 := by omega
    have whole : 16 * (byte.toNat / 16) + byte.toNat % 16 = byte.toNat := by omega
    rw [encoded_escape plain]
    apply Image.escape
    · exact hex_byte_upper high
    · exact hex_byte_upper low
    · simp only [escaped, hex_byte_value high, hex_byte_value low, whole, UInt8.ofNat_toNat]

theorem upper_hex_printable {b : UInt8} (h : isUpperHex b = true) : 32 ≤ b ∧ b ≤ 126 := by
  simp only [isUpperHex, Bool.or_eq_true, Bool.and_eq_true, decide_eq_true_eq,
    UInt8.le_iff_toNat_le] at h
  simp only [UInt8.le_iff_toNat_le]
  rcases h with ⟨lower, upper⟩ | ⟨lower, upper⟩
  · exact ⟨Nat.le_trans (by decide) lower, Nat.le_trans upper (by decide)⟩
  · exact ⟨Nat.le_trans (by decide) lower, Nat.le_trans upper (by decide)⟩

theorem encoded_printable {byte b : UInt8} (member : b ∈ encodedByte byte) :
    32 ≤ b ∧ b ≤ 126 := by
  by_cases plain : (32 ≤ byte && byte ≤ 126 && byte ≠ 37) = true
  · rw [encoded_plain plain] at member
    have same := List.mem_singleton.mp member
    simp only [Bool.and_eq_true, decide_eq_true_eq] at plain
    rw [same]
    exact plain.1
  · have size := byte.toNat_lt
    rw [encoded_escape plain] at member
    simp only [List.mem_cons, List.not_mem_nil, or_false] at member
    rcases member with rfl | rfl | rfl
    · decide
    · exact upper_hex_printable (hex_byte_upper (by omega))
    · exact upper_hex_printable (hex_byte_upper (by omega))

/- The whole message. -/

theorem encoded_bytes (message : String) :
    headerValue (percentEncodeGrpcMessage message) = (headerValue message).flatMap encodedByte := by
  unfold percentEncodeGrpcMessage
  conv => lhs; unfold headerValue
  rw [String.toList_ofList, List.flatMap_assoc]
  rfl

theorem header_value_printable {text : String} (printable : ∀ b ∈ headerValue text,
    32 ≤ b ∧ b ≤ 126) : headerFromStr text = some (headerValue text) := by
  unfold headerFromStr
  apply if_pos
  rw [List.all_eq_true]
  intro b member
  have bounds := printable b member
  have visible : b ≠ 127 := by
    intro delete
    rw [delete] at bounds
    revert bounds
    decide
  simp [bounds.1, visible]

theorem message_printable (message : String) :
    ∀ b ∈ headerValue (percentEncodeGrpcMessage message), 32 ≤ b ∧ b ≤ 126 := by
  intro b member
  rw [encoded_bytes] at member
  obtain ⟨byte, _, written⟩ := List.mem_flatMap.mp member
  exact encoded_printable written

theorem message_decoded (message : String) :
    decode (headerValue (percentEncodeGrpcMessage message)) = headerValue message := by
  rw [encoded_bytes]
  exact decode_encoded encoded_image (headerValue message)

theorem text_of_bytes (text : String) :
    String.fromUTF8? (headerValue text).toByteArray = some text := by
  have bytes : (headerValue text).toByteArray = text.toByteArray :=
    String.utf8Encode_toList
  rw [bytes, String.fromUTF8?, dif_pos text.isValidUTF8]
  rfl

/- The fallback is never taken and the builder never fails. -/

theorem message_header (message : String) :
    headerFromStr (percentEncodeGrpcMessage message) =
      some (headerValue (percentEncodeGrpcMessage message)) :=
  header_value_printable (message_printable message)

theorem grpc_status_listed (error : ProxyError) :
    error.grpcStatus ∈ ["5", "9", "13", "14", "16"] := by
  cases error with
  | invalidApplicationState state => cases state <;> simp [ProxyError.grpcStatus]
  | _ => simp [ProxyError.grpcStatus]

theorem status_header (error : ProxyError) :
    headerFromStr error.grpcStatus = some (headerValue error.grpcStatus) := by
  have valid : ∀ status ∈ ["5", "9", "13", "14", "16"],
      headerFromStr status = some (headerValue status) := by decide
  exact valid error.grpcStatus (grpc_status_listed error)

theorem error_response_built (error : ProxyError) :
    buildErrorResponse error = some (proxyErrorResponse error) := by
  have contentType : headerFromStr "application/grpc" = some (headerValue "application/grpc") := rfl
  simp [buildErrorResponse, builderHeader, contentType, status_header, proxyErrorResponse]

theorem client_reads_error (error : ProxyError) :
    clientMessage (proxyErrorResponse error) = some error.toString := by
  have value : (proxyErrorResponse error).headers.get GRPC_MESSAGE =
      some (headerValue (percentEncodeGrpcMessage error.toString)) := by
    simp [proxyErrorResponse, message_header, HeaderMap.get, CONTENT_TYPE, GRPC_STATUS,
      GRPC_MESSAGE]
  unfold clientMessage
  rw [value, Option.bind_some, message_decoded]
  exact text_of_bytes error.toString

/-- The encoding is made of printable bytes, it can be undone, and every error is built
into a response that carries its whole text. -/
theorem grpc_message_lossless :
    (∀ message, ∀ b ∈ headerValue (percentEncodeGrpcMessage message), 32 ≤ b ∧ b ≤ 126) ∧
    (∀ message, Escapes (headerValue (percentEncodeGrpcMessage message))) ∧
    (∀ message, decode (headerValue (percentEncodeGrpcMessage message)) = headerValue message) ∧
    (∀ message other, percentEncodeGrpcMessage message = percentEncodeGrpcMessage other →
      message = other) ∧
    ∀ error : ProxyError,
      headerFromStr (percentEncodeGrpcMessage error.toString) =
        some (headerValue (percentEncodeGrpcMessage error.toString)) ∧
      buildErrorResponse error = some (proxyErrorResponse error) ∧
      clientMessage (proxyErrorResponse error) = some error.toString := by
  refine ⟨message_printable, ?_, message_decoded, ?_, ?_⟩
  · intro message
    rw [encoded_bytes]
    exact escapes_encoded encoded_image (headerValue message)
  · intro message other same
    have texts := congrArg headerValue same
    rw [encoded_bytes, encoded_bytes] at texts
    exact header_value_injective (encoded_injective encoded_image texts)
  · intro error
    exact ⟨message_header error.toString, error_response_built error, client_reads_error error⟩

end SparkPlug
