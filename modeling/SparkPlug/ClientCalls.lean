import SparkPlug.Library.Digits
import SparkPlug.Clients
import SparkPlug.HttpApi

/-!
The REST calls of the clients and of the plugin, as requests, and what they are at the
server. Each call appends its path to a base URL; the headers and the bodies are those that
the HTTP library of the caller sends.
-/
namespace SparkPlug
open Text PercentEncoding Authority Digits

/-- The path of a call. -/
def BaseUrl.target (url : BaseUrl) (path : String) : String := String.ofList url.path ++ path

namespace PythonClient

def createApplication (url : BaseUrl) (headers : HeaderMap) (body : List UInt8) : HttpRequest :=
  { method := .post, path := url.target "/apps", headers, body }

def listApplications (url : BaseUrl) (headers : HeaderMap) : HttpRequest :=
  { method := .get, path := url.target "/apps", headers }

def stopApplication (url : BaseUrl) (headers : HeaderMap) (id : Int) : HttpRequest :=
  { method := .delete, path := url.target ("/apps/" ++ String.ofList (intText id)), headers }

end PythonClient

namespace RustClient

def createApplication (url : BaseUrl) (headers : HeaderMap) (body : List UInt8) : HttpRequest :=
  { method := .post, path := url.target "/apps", headers, body }

def stopApplication (url : BaseUrl) (headers : HeaderMap) (appId : Int) : HttpRequest :=
  { method := .delete, path := url.target ("/apps/" ++ String.ofList (intText appId)), headers }

end RustClient

namespace SparkPlugListener

def headers (token : String) : HeaderMap :=
  [(AUTHORIZATION, headerValue ("Bearer " ++ token)),
   (CONTENT_TYPE, headerValue "application/json")]

/-- The two texts are put between quotes as they are. -/
def callbackBody (connectUri appId : String) : String :=
  "\x7b\"address\": \"" ++ connectUri ++ "\", \"application_id\": \"" ++ appId ++ "\"\x7d"

/-- What onOtherEvent sends for a started service. -/
def callback (callbackAddr : BaseUrl) (token connectUri appId : String) : HttpRequest :=
  { method := .post, path := callbackAddr.target "/callback", headers := headers token
    body := headerValue (callbackBody connectUri appId) }

/-- What onOtherEvent sends for an ended service. -/
def callbackDelete (callbackAddr : BaseUrl) (token : String) : HttpRequest :=
  { method := .delete, path := callbackAddr.target "/callback", headers := headers token }

end SparkPlugListener

/- The id in a path. -/

theorem digit_ascii {c : Char} (digit : c.isDigit = true) : c.toNat < 128 ∧ c ≠ '%' := by
  have bounds : 48 ≤ c.toNat ∧ c.toNat ≤ 57 := by
    simp only [Char.isDigit, Bool.and_eq_true, decide_eq_true_eq, UInt32.le_iff_toNat_le] at digit
    exact digit
  refine ⟨by omega, ?_⟩
  rintro rfl
  simp at bounds

/-- ASCII text without a percent sign is decoded to itself. -/
theorem decode_text (text : List Char) (plain : ∀ c ∈ text, c.toNat < 128 ∧ c ≠ '%') :
    (decode (headerValue (String.ofList text))).map (fun b => Char.ofNat b.toNat) = text := by
  unfold headerValue
  rw [String.toList_ofList]
  induction text with
  | nil => rfl
  | cons c text ih =>
    simp only [List.mem_cons, forall_eq_or_imp] at plain
    obtain ⟨⟨ascii, other⟩, plain⟩ := plain
    have value : (UInt8.ofNat c.toNat).toNat = c.toNat := by
      rw [UInt8.toNat_ofNat']
      omega
    have byte : String.utf8EncodeChar c = [UInt8.ofNat c.toNat] := by
      have encoded := utf8_ascii ascii
      rwa [Char.ofNat_toNat] at encoded
    have ordinary : UInt8.ofNat c.toNat ≠ percent := by
      intro same
      apply other
      have number : c.toNat = 37 := by
        rw [← value, same]
        rfl
      rw [← Char.ofNat_toNat c, number]
    rw [List.flatMap_cons, byte, List.cons_append, List.nil_append, decode_plain ordinary,
      List.map_cons, ih plain, value, Char.ofNat_toNat]

theorem int_text_plain (n : Int) : ∀ c ∈ intText n, c.toNat < 128 ∧ c ≠ '%' := by
  intro c member
  rcases mem_int_text member with digit | rfl
  · exact digit_ascii digit
  · decide

theorem int_text_slash (n : Int) : '/' ∉ intText n := by
  intro member
  rcases mem_int_text member with digit | sign
  · simp at digit
  · simp at sign

/-- Digits are not mistaken for a sign. -/
theorem read_i32_digits {text : List Char} (digits : text.all Char.isDigit = true) :
    readI32 text = ((readPort text).map Int.ofNat).filter
      fun n => -2147483648 ≤ n && n ≤ 2147483647 := by
  unfold readI32
  split
  · simp at digits
  · simp at digits
  · rfl

theorem read_i32_text {n : Int} (small : -2147483648 ≤ n) (large : n ≤ 2147483647) :
    readI32 (intText n) = some n := by
  have kept : (some n).filter (fun n => -2147483648 ≤ n && n ≤ 2147483647) = some n := by
    simp [small, large]
  by_cases negative : n < 0
  · have back : -Int.ofNat n.natAbs = n := by
      rw [Int.ofNat_eq_natCast]
      omega
    simp only [intText, if_pos negative, readI32, read_port_digits, Option.map_some, back, kept]
  · have back : Int.ofNat n.natAbs = n := by
      rw [Int.ofNat_eq_natCast]
      omega
    rw [intText, if_neg negative, read_i32_digits (decimal_digits n.natAbs), read_port_digits,
      Option.map_some, back, kept]

theorem read_app_id_text {n : Int} (small : -2147483648 ≤ n) (large : n ≤ 2147483647) :
    readAppId (String.ofList (intText n)) = some n := by
  rw [readAppId, decode_text (intText n) (int_text_plain n)]
  exact read_i32_text small large

/- The paths. -/

theorem app_path_route {text : List Char} (filled : text ≠ []) (segment : '/' ∉ text) :
    route ("/apps/" ++ String.ofList text) = some (.app (String.ofList text)) := by
  have other : ∀ path : String, path.toList.take 6 ≠ "/apps/".toList →
      "/apps/" ++ String.ofList text ≠ path := by
    rintro path differs rfl
    apply differs
    simp
  have found : appIdOf ("/apps/" ++ String.ofList text) = some (String.ofList text) := by
    unfold appIdOf
    simp [startsWith, filled, segment]
  rw [route, if_neg (other "/apps" (by decide)), if_neg (other "/versions" (by decide)),
    if_neg (other "/callback" (by decide)), found]
  rfl

/- The calls at their handlers. -/

section
variable {self : ProxyService} {req : HttpRequest} {username token : String}

theorem bare_target {url : BaseUrl} (bare : url.path = []) (path : String) :
    url.target path = path := by
  simp [BaseUrl.target, bare]

theorem json_ok_iff {α : Type} {read : List UInt8 → Option α} {value : List UInt8} {params : α}
    (typed : req.headers.get CONTENT_TYPE = some value)
    (accepted : self.jsonContentType value = true) :
    self.json read req = .ok params ↔
      req.body.length ≤ BODY_LIMIT ∧ read req.body = some params := by
  rw [ProxyService.json, typed]
  simp only [accepted, ↓reduceIte]
  by_cases short : req.body.length ≤ BODY_LIMIT
  · cases found : read req.body <;> simp [short, extracted]
  · simp [short]

theorem routed {endpoint : Endpoint}
    (other : startsWith req.path "/spark.connect.SparkConnectService" = false)
    (found : route req.path = some endpoint) : self.call req = self.callEndpoint req endpoint := by
  simp only [ProxyService.call, other, found, Bool.false_eq_true, ↓reduceIte]

theorem apps_route (path : req.path = "/apps") : self.call req = self.callEndpoint req .apps := by
  apply routed
  · rw [path]
    decide
  · rw [path]
    rfl

theorem callback_route (path : req.path = "/callback") :
    self.call req = self.callEndpoint req .callback := by
  apply routed
  · rw [path]
    decide
  · rw [path]
    rfl

theorem post_apps (path : req.path = "/apps") (method : req.method = .post)
    (authorized : UserAuth.authorize self.authMethods req.headers = .ok username)
    {value : List UInt8} (typed : req.headers.get CONTENT_TYPE = some value)
    (accepted : self.jsonContentType value = true) (params : CreateApplicationRequest) :
    self.call req = .ok (.createApp username params) ↔
      req.body.length ≤ BODY_LIMIT ∧ self.readCreate req.body = some params := by
  rw [apps_route path, ← json_ok_iff typed accepted]
  simp only [ProxyService.callEndpoint, ProxyService.userAuth, authorized, method,
    Except.mapError, bind, Except.bind]
  cases self.json self.readCreate req <;> simp

theorem get_apps (path : req.path = "/apps") (method : req.method = .get) (query : req.query = none)
    (authorized : UserAuth.authorize self.authMethods req.headers = .ok username)
    (empty : self.readQuery "" = some {}) : self.call req = .ok (.listApps username {}) := by
  rw [apps_route path, ProxyService.callEndpoint, ProxyService.userAuth, authorized, method,
    query, Option.getD_none, empty]
  rfl

theorem delete_apps {id : Int} (small : -2147483648 ≤ id) (large : id ≤ 2147483647)
    (path : req.path = "/apps/" ++ String.ofList (intText id)) (method : req.method = .delete)
    (authorized : UserAuth.authorize self.authMethods req.headers = .ok username) :
    self.call req = .ok (.deleteApp username id) := by
  have other : startsWith req.path "/spark.connect.SparkConnectService" = false := by
    rw [path]
    simp [startsWith, List.isPrefixOf]
  have found := app_path_route (int_text_filled id) (int_text_slash id)
  rw [← path] at found
  rw [routed other found, ProxyService.callEndpoint, ProxyService.userAuth, authorized, method,
    read_app_id_text small large]
  rfl

end

/-- With a base URL that has no path, the calls of both clients reach their handlers, for the
user that the headers authenticate: a listing, a stop with its id, and a creation exactly if
its body is within the limit and read as the request. -/
theorem client_calls_arrive (self : ProxyService) {url : BaseUrl} (bare : url.path = [])
    {headers : HeaderMap} {username : String} {contentType : List UInt8}
    (authorized : UserAuth.authorize self.authMethods headers = .ok username)
    (typed : headers.get CONTENT_TYPE = some contentType)
    (accepted : self.jsonContentType contentType = true) (empty : self.readQuery "" = some {}) :
    (∀ body params,
      (self.call (PythonClient.createApplication url headers body) =
          .ok (.createApp username params) ↔
        body.length ≤ BODY_LIMIT ∧ self.readCreate body = some params) ∧
      (self.call (RustClient.createApplication url headers body) =
          .ok (.createApp username params) ↔
        body.length ≤ BODY_LIMIT ∧ self.readCreate body = some params)) ∧
    self.call (PythonClient.listApplications url headers) = .ok (.listApps username {}) ∧
    ∀ id : Int, -2147483648 ≤ id → id ≤ 2147483647 →
      self.call (PythonClient.stopApplication url headers id) = .ok (.deleteApp username id) ∧
      self.call (RustClient.stopApplication url headers id) = .ok (.deleteApp username id) := by
  have apps := bare_target bare "/apps"
  have app := fun id => bare_target bare ("/apps/" ++ String.ofList (intText id))
  refine ⟨?_, ?_, ?_⟩
  · intro body params
    constructor
    · exact post_apps apps rfl authorized typed accepted params
    · exact post_apps apps rfl authorized typed accepted params
  · exact get_apps apps rfl rfl authorized empty
  · intro id small large
    constructor
    · exact delete_apps small large (app id) rfl authorized
    · exact delete_apps small large (app id) rfl authorized

/-- A server that trusts a header, and reads a body that asks for nothing and one registration. -/
def trustingService : ProxyService where
  authMethods := [remoteUserAuth "REMOTE_USER"]
  jsonContentType := fun value => value = headerValue "application/json"
  readCreate := fun body => if body = headerValue "\x7b\x7d" then some {} else none
  readCallback := fun body =>
    if body = headerValue (SparkPlugListener.callbackBody "10.0.0.1:15002" "app-1") then
      some { address := "10.0.0.1:15002", applicationId := "app-1" }
    else none
  readQuery := fun query => if query = "" then some {} else none

def aliceHeaders : HeaderMap :=
  [("remote_user", headerValue "alice"), (CONTENT_TYPE, headerValue "application/json")]

/-- Alice creates an application with an empty request and stops another one. -/
theorem alice_calls_arrive :
    trustingService.call (PythonClient.createApplication localUrl aliceHeaders
      (headerValue "\x7b\x7d")) = .ok (.createApp "alice" {}) ∧
    trustingService.call (RustClient.stopApplication localUrl aliceHeaders 7) =
      .ok (.deleteApp "alice" 7) := by
  have authorized : UserAuth.authorize trustingService.authMethods aliceHeaders = .ok "alice" := by
    decide
  have accepted : trustingService.jsonContentType (headerValue "application/json") = true := by
    decide
  have arrive := @client_calls_arrive trustingService localUrl rfl _ _ _ authorized rfl accepted rfl
  constructor
  · exact (arrive.1 _ _).1.mpr ⟨by decide, rfl⟩
  · exact (arrive.2.2 7 (by decide) (by decide)).2

/- The calls of the plugin. -/

section
variable {self : ProxyService} {token : String}

theorem listener_authorized (filled : token ≠ "")
    (printable : ∀ b ∈ headerValue token, 32 ≤ b ∧ b ≤ 126) :
    TokenAuth.authorize (SparkPlugListener.headers token) = .ok token := by
  have read : callbackToken (SparkPlugListener.headers token) = some token :=
    (printable_token_read filled printable rfl).2.1
  unfold callbackToken at read
  cases answer : TokenAuth.authorize (SparkPlugListener.headers token) with
  | error status => simp [answer, Except.toOption] at read
  | ok other =>
    rw [answer] at read
    cases read
    rfl

theorem callback_arrives {callbackAddr : BaseUrl} (bare : callbackAddr.path = [])
    (filled : token ≠ "") (printable : ∀ b ∈ headerValue token, 32 ≤ b ∧ b ≤ 126)
    (accepted : self.jsonContentType (headerValue "application/json") = true)
    (connectUri appId : String) (params : ApplicationCallbackRequest) :
    self.call (SparkPlugListener.callback callbackAddr token connectUri appId) =
        .ok (.appCallback token params) ↔
      (headerValue (SparkPlugListener.callbackBody connectUri appId)).length ≤ BODY_LIMIT ∧
        self.readCallback (headerValue (SparkPlugListener.callbackBody connectUri appId)) =
          some params := by
  have typed : (SparkPlugListener.callback callbackAddr token connectUri appId).headers.get
      CONTENT_TYPE = some (headerValue "application/json") := rfl
  have authorized := listener_authorized filled printable
  refine Iff.trans ?_ (json_ok_iff typed accepted)
  rw [callback_route (bare_target bare "/callback")]
  simp only [ProxyService.callEndpoint, ProxyService.tokenAuth, SparkPlugListener.callback,
    authorized, Except.mapError, bind, Except.bind]
  cases self.json self.readCallback _ <;> simp

theorem callback_delete_arrives {callbackAddr : BaseUrl} (bare : callbackAddr.path = [])
    (filled : token ≠ "") (printable : ∀ b ∈ headerValue token, 32 ≤ b ∧ b ≤ 126) :
    self.call (SparkPlugListener.callbackDelete callbackAddr token) =
      .ok (.appCallbackDelete token) := by
  have authorized := listener_authorized filled printable
  rw [callback_route (bare_target bare "/callback"), ProxyService.callEndpoint]
  simp only [ProxyService.tokenAuth, SparkPlugListener.callbackDelete, authorized,
    Except.mapError, bind, Except.bind]

end

end SparkPlug
