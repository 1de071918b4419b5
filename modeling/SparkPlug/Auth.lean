import SparkPlug.Driver

/-!
Authentication of requests. Three functions read a bearer token from the headers: one
for the users with a JWT, one for the callbacks of drivers and one in the proxy. Only
the one in the proxy rejects an empty token.
-/
namespace SparkPlug
open Text

/- A status with which a request is turned away. -/
inductive AuthStatus where
  | unauthorized
  | badRequest
  deriving DecidableEq, Repr

namespace Auth

def extractBearerToken (headerMap : HeaderMap) : Except String (Option String) :=
  match headerMap.get AUTHORIZATION with
  | none => .ok none
  | some value =>
    match toStr value with
    | none => .error "failed to convert header to a str"
    | some h =>
      if startsWith h "Bearer " then .ok (some (String.ofList (h.toList.drop 7))) else .ok none

end Auth

/-- The token that a request of a driver is given as an extension. -/
def TokenAuth.authorize (headers : HeaderMap) : Except AuthStatus String :=
  match headers.get AUTHORIZATION with
  | none => .error .unauthorized
  | some value =>
    match toStr value with
    | none => .error .badRequest
    | some authorization =>
      match splitOnce ' ' authorization with
      | some (scheme, token) => if scheme = "Bearer" then .ok token else .error .unauthorized
      | none => .error .unauthorized

/- What each function finds, whatever it says where it finds nothing. -/

def userToken (headers : HeaderMap) : Option String :=
  (Auth.extractBearerToken headers).toOption.join

def callbackToken (headers : HeaderMap) : Option String := (TokenAuth.authorize headers).toOption

def proxyToken (headers : HeaderMap) : Option String := (extractBearerToken headers).toOption

/-- All three find the same token, or none of them finds one. -/
def ReadersAgree (headers : HeaderMap) : Prop :=
  ∃ token : Option String, userToken headers = token ∧ callbackToken headers = token ∧
    proxyToken headers = token ∧ token ≠ some ""

/- The text of a value. -/

theorem bearer_split {authorization token : String} :
    splitOnce ' ' authorization = some ("Bearer", token) ↔ authorization = "Bearer " ++ token := by
  constructor
  · intro split
    simp only [splitOnce, Option.map_eq_some_iff, Prod.exists, Prod.mk.injEq] at split
    obtain ⟨front, back, found, scheme, rfl⟩ := split
    have text := (split_once_chars_some found).2
    have word : front = "Bearer".toList := by rw [← scheme, String.toList_ofList]
    apply String.toList_inj.mp
    simp [text, word]
  · intro text
    rw [text]
    exact split_once_at ' ' "Bearer" token (by decide)

theorem bearer_starts {authorization : String} :
    startsWith authorization "Bearer " = true ↔ ∃ token, authorization = "Bearer " ++ token := by
  unfold startsWith
  rw [List.isPrefixOf_iff_prefix]
  constructor
  · rintro ⟨rest, text⟩
    refine ⟨String.ofList rest, ?_⟩
    apply String.toList_inj.mp
    rw [← text]
    simp
  · rintro ⟨token, rfl⟩
    exact ⟨token.toList, by simp⟩

section
variable {headers : HeaderMap} {value : List UInt8} {authorization token : String}

theorem user_token_bearer (sent : headers.get AUTHORIZATION = some value)
    (text : toStr value = some ("Bearer " ++ token)) : userToken headers = some token := by
  have starts := bearer_starts.mpr ⟨token, rfl⟩
  simp [userToken, Auth.extractBearerToken, sent, text, starts, Except.toOption]

theorem callback_token_bearer (sent : headers.get AUTHORIZATION = some value)
    (text : toStr value = some ("Bearer " ++ token)) : callbackToken headers = some token := by
  have split := bearer_split.mpr (rfl : "Bearer " ++ token = "Bearer " ++ token)
  simp [callbackToken, TokenAuth.authorize, sent, text, split, Except.toOption]

theorem proxy_token_bearer (sent : headers.get AUTHORIZATION = some value)
    (text : toStr value = some ("Bearer " ++ token)) :
    proxyToken headers = if token = "" then none else some token := by
  have split := bearer_split.mpr (rfl : "Bearer " ++ token = "Bearer " ++ token)
  simp only [proxyToken, extractBearerToken, sent, text, split, ↓reduceIte, String.isEmpty_iff]
  by_cases empty : token = ""
  · simp [empty, Except.toOption]
  · simp [empty, Except.toOption]

/-- A text of another form is no credential to any of the three. -/
theorem no_bearer_token (sent : headers.get AUTHORIZATION = some value)
    (text : toStr value = some authorization)
    (other : ∀ token, authorization ≠ "Bearer " ++ token) :
    userToken headers = none ∧ callbackToken headers = none ∧ proxyToken headers = none := by
  have starts : startsWith authorization "Bearer " = false := by
    by_contra starts
    obtain ⟨token, same⟩ := bearer_starts.mp (Bool.not_eq_false _ ▸ starts)
    exact other token same
  refine ⟨?_, ?_⟩
  · simp [userToken, Auth.extractBearerToken, sent, text, starts, Except.toOption]
  · cases split : splitOnce ' ' authorization with
    | none =>
      simp [callbackToken, proxyToken, TokenAuth.authorize, extractBearerToken, sent, text, split,
        Except.toOption]
    | some parts =>
      obtain ⟨scheme, token⟩ := parts
      have unknown : scheme ≠ "Bearer" := by
        rintro rfl
        exact other token (bearer_split.mp split)
      simp [callbackToken, proxyToken, TokenAuth.authorize, extractBearerToken, sent, text, split,
        unknown, Except.toOption]

theorem unreadable_token (sent : headers.get AUTHORIZATION = some value)
    (unreadable : toStr value = none) :
    userToken headers = none ∧ callbackToken headers = none ∧ proxyToken headers = none := by
  simp [userToken, callbackToken, proxyToken, Auth.extractBearerToken, TokenAuth.authorize,
    extractBearerToken, sent, unreadable, Except.toOption]

theorem missing_token (missing : headers.get AUTHORIZATION = none) :
    userToken headers = none ∧ callbackToken headers = none ∧ proxyToken headers = none := by
  simp [userToken, callbackToken, proxyToken, Auth.extractBearerToken, TokenAuth.authorize,
    extractBearerToken, missing, Except.toOption]

end

/- Which headers the three read alike. -/

theorem to_str_bytes {value : List UInt8} {text : String} (read : toStr value = some text) :
    headerValue text = value := by
  unfold toStr at read
  split at read
  · rename_i visible
    rw [← Option.some.inj read]
    apply header_value_ascii
    intro b member
    have seen := List.all_eq_true.mp visible b member
    simp only [Bool.or_eq_true, Bool.and_eq_true, decide_eq_true_eq, UInt8.le_iff_toNat_le] at seen
    rcases seen with rfl | ⟨_, upper⟩
    · decide
    · exact Nat.lt_of_le_of_lt upper (by decide)
  · cases read

theorem to_str_header {text : String} (printable : ∀ b ∈ headerValue text, 32 ≤ b ∧ b ≤ 126) :
    toStr (headerValue text) = some text := by
  cases read : toStr (headerValue text) with
  | some other => rw [header_value_injective (to_str_bytes read)]
  | none =>
    unfold toStr at read
    split at read
    · cases read
    · rename_i hidden
      refine absurd (List.all_eq_true.mpr fun b member => ?_) hidden
      have bounds := printable b member
      simp [bounds.1, bounds.2]

theorem header_value_append (front back : String) :
    headerValue (front ++ back) = headerValue front ++ headerValue back := by
  simp [headerValue]

/-- A token of printable characters, blanks among them, is read whole by all three. -/
theorem printable_token_read {headers : HeaderMap} {token : String} (filled : token ≠ "")
    (printable : ∀ b ∈ headerValue token, 32 ≤ b ∧ b ≤ 126)
    (sent : headers.get AUTHORIZATION = some (headerValue ("Bearer " ++ token))) :
    userToken headers = some token ∧ callbackToken headers = some token ∧
      proxyToken headers = some token := by
  have text : toStr (headerValue ("Bearer " ++ token)) = some ("Bearer " ++ token) := by
    apply to_str_header
    intro b member
    rw [header_value_append] at member
    rcases List.mem_append.mp member with scheme | rest
    · have printed : (headerValue "Bearer ").all (fun b => 32 ≤ b && b ≤ 126) = true := by decide
      simpa using List.all_eq_true.mp printed b scheme
    · exact printable b rest
  refine ⟨user_token_bearer sent text, callback_token_bearer sent text, ?_⟩
  rw [proxy_token_bearer sent text, if_neg filled]

theorem readers_agree_text {headers : HeaderMap} {value : List UInt8} {authorization : String}
    (sent : headers.get AUTHORIZATION = some value) (text : toStr value = some authorization)
    (filled : authorization ≠ "Bearer ") : ReadersAgree headers := by
  by_cases bearer : ∃ token, authorization = "Bearer " ++ token
  · obtain ⟨token, rfl⟩ := bearer
    have named : token ≠ "" := by
      rintro rfl
      exact filled rfl
    refine ⟨some token, user_token_bearer sent text, callback_token_bearer sent text, ?_, ?_⟩
    · rw [proxy_token_bearer sent text, if_neg named]
    · intro empty
      exact named (Option.some.inj empty)
  · have silent := no_bearer_token sent text (not_exists.mp bearer)
    exact ⟨none, silent.1, silent.2.1, silent.2.2, nofun⟩

theorem readers_disagree {headers : HeaderMap}
    (sent : headers.get AUTHORIZATION = some (headerValue "Bearer ")) : ¬ ReadersAgree headers := by
  rintro ⟨token, _, callback, proxy, _⟩
  have text : toStr (headerValue "Bearer ") = some ("Bearer " ++ "") := by decide
  rw [callback_token_bearer sent text] at callback
  rw [proxy_token_bearer sent text, if_pos rfl, ← callback] at proxy
  cases proxy

/-- The readers agree on every header map but those with the scheme and an empty token. -/
theorem bearer_readers_agree_iff (headers : HeaderMap) :
    (ReadersAgree headers ↔ headers.get AUTHORIZATION ≠ some (headerValue "Bearer ")) ∧
    ∀ token, token ≠ "" → (∀ b ∈ headerValue token, 32 ≤ b ∧ b ≤ 126) →
      headers.get AUTHORIZATION = some (headerValue ("Bearer " ++ token)) →
        userToken headers = some token ∧ callbackToken headers = some token ∧
          proxyToken headers = some token := by
  constructor
  · constructor
    · intro agree sent
      exact readers_disagree sent agree
    · intro filled
      cases sent : headers.get AUTHORIZATION with
      | none =>
        have silent := missing_token sent
        exact ⟨none, silent.1, silent.2.1, silent.2.2, nofun⟩
      | some value =>
        cases text : toStr value with
        | none =>
          have silent := unreadable_token sent text
          exact ⟨none, silent.1, silent.2.1, silent.2.2, nofun⟩
        | some authorization =>
          apply readers_agree_text sent text
          rintro rfl
          rw [to_str_bytes text] at filled
          exact filled sent
  · intro token filled printable sent
    exact printable_token_read filled printable sent

/-- The callbacks and the users get the empty token where the proxy turns it away. -/
theorem empty_token_read :
    TokenAuth.authorize [(AUTHORIZATION, headerValue "Bearer ")] = .ok "" ∧
    Auth.extractBearerToken [(AUTHORIZATION, headerValue "Bearer ")] = .ok (some "") ∧
    extractBearerToken [(AUTHORIZATION, headerValue "Bearer ")] =
      .error (.invalidAuthorizationHeader "missing bearer token") ∧
    ¬ ReadersAgree [(AUTHORIZATION, headerValue "Bearer ")] :=
  ⟨rfl, rfl, rfl, readers_disagree rfl⟩

end SparkPlug
