import SparkPlug.Library.Authority
import SparkPlug.AuthChain
import SparkPlug.ErrorMessages
import SparkPlug.Launcher

/-!
The way of an HTTP request to its handler: the split between Spark Connect and the REST
API, the routes, the layers that authenticate, and the extractors.
-/
namespace SparkPlug
open Text PercentEncoding Authority

inductive Method where
  | get
  | head
  | post
  | delete
  | other (name : String)
  deriving DecidableEq

structure HttpRequest where
  method : Method
  path : String
  query : Option String := none
  headers : HeaderMap
  body : List UInt8 := []
  deriving DecidableEq

/-- The request as the proxy sees it. -/
def HttpRequest.forProxy (req : HttpRequest) : Request :=
  { headers := req.headers
    pathAndQuery := some (req.path ++ req.query.elim "" fun query => "?" ++ query) }

structure CreateApplicationRequest where
  name : Option String := none
  version : Option String := none
  config : Option HashMap := none
  pythonPackages : Option (List String) := none

structure ApplicationCallbackRequest where
  address : String
  applicationId : String
  deriving DecidableEq

/-- A request that has come to its handler, with what the handler is given of it. -/
inductive ApiCall where
  | dispatchRequest (req : Request)
  | listApps (username : String) (params : ListApplicationsRequest)
  | createApp (username : String) (params : CreateApplicationRequest)
  | getApp (username : String) (appId : Int)
  | deleteApp (username : String) (appId : Int)
  | listVersions
  | appCallback (token : String) (params : ApplicationCallbackRequest)
  | appCallbackDelete (token : String)

inductive Refusal where
  | unauthenticated (status : AuthStatus)
  | notFound
  | methodNotAllowed
  | unsupportedMediaType
  | payloadTooLarge
  /- An extractor of the handler has found nothing it can read. -/
  | unreadable
  deriving DecidableEq

/- The layer on the user routes is `authMethods`. The rest is what the web framework and
   serde read of a content type, a body and a query. -/
structure ProxyService where
  authMethods : List UserAuthMethod
  jsonContentType : List UInt8 → Bool
  readCreate : List UInt8 → Option CreateApplicationRequest
  readCallback : List UInt8 → Option ApplicationCallbackRequest
  readQuery : String → Option ListApplicationsRequest

/-- `DefaultBodyLimit` -/
def BODY_LIMIT : Nat := 2097152

def extracted {α : Type} (value : Option α) : Except Refusal α :=
  value.elim (.error .unreadable) .ok

/-- `i32::from_str` -/
def readI32 (text : List Char) : Option Int :=
  let number : Option Int :=
    match text with
    | '+' :: digits => (readPort digits).map Int.ofNat
    | '-' :: digits => (readPort digits).map fun n => -Int.ofNat n
    | digits => (readPort digits).map Int.ofNat
  number.filter fun n => -2147483648 ≤ n && n ≤ 2147483647

/-- `Path<i32>` -/
def readAppId (appId : String) : Option Int :=
  readI32 ((decode (headerValue appId)).map fun b => Char.ofNat b.toNat)

inductive Endpoint where
  | apps
  | app (appId : String)
  | versions
  | callback
  deriving DecidableEq

/-- The parameter of a route is one segment that is not empty. -/
def appIdOf (path : String) : Option String :=
  let appId := path.toList.drop 6
  if startsWith path "/apps/" && appId ≠ [] && '/' ∉ appId then some (String.ofList appId) else none

def route (path : String) : Option Endpoint :=
  if path = "/apps" then some .apps
  else if path = "/versions" then some .versions
  else if path = "/callback" then some .callback
  else (appIdOf path).map .app

namespace ProxyService

/-- `Json`: the content type is looked at first, and a long body is not read. -/
def json {α : Type} (self : ProxyService) (read : List UInt8 → Option α) (req : HttpRequest) :
    Except Refusal α :=
  match req.headers.get CONTENT_TYPE with
  | none => .error .unsupportedMediaType
  | some value =>
    if self.jsonContentType value then
      if req.body.length ≤ BODY_LIMIT then extracted (read req.body) else .error .payloadTooLarge
    else .error .unsupportedMediaType

def userAuth (self : ProxyService) (req : HttpRequest) : Except Refusal String :=
  (UserAuth.authorize self.authMethods req.headers).mapError .unauthenticated

def tokenAuth (req : HttpRequest) : Except Refusal String :=
  (TokenAuth.authorize req.headers).mapError .unauthenticated

/- The layer of a route is asked before its methods; `get` answers HEAD as well. -/
def callEndpoint (self : ProxyService) (req : HttpRequest) : Endpoint → Except Refusal ApiCall
  | .apps => do
    let username ← self.userAuth req
    match req.method with
    | .get | .head =>
      let params ← extracted (self.readQuery (req.query.getD ""))
      .ok (.listApps username params)
    | .post =>
      let params ← self.json self.readCreate req
      .ok (.createApp username params)
    | _ => .error .methodNotAllowed
  | .app appId => do
    let username ← self.userAuth req
    match req.method with
    | .get | .head =>
      let appId ← extracted (readAppId appId)
      .ok (.getApp username appId)
    | .delete =>
      let appId ← extracted (readAppId appId)
      .ok (.deleteApp username appId)
    | _ => .error .methodNotAllowed
  | .versions => do
    let _ ← self.userAuth req
    match req.method with
    | .get | .head => .ok .listVersions
    | _ => .error .methodNotAllowed
  | .callback => do
    let token ← tokenAuth req
    match req.method with
    | .post =>
      let params ← self.json self.readCallback req
      .ok (.appCallback token params)
    | .delete => .ok (.appCallbackDelete token)
    | _ => .error .methodNotAllowed

def call (self : ProxyService) (req : HttpRequest) : Except Refusal ApiCall :=
  if startsWith req.path "/spark.connect.SparkConnectService" then
    .ok (.dispatchRequest req.forProxy)
  else
    match route req.path with
    | some endpoint => self.callEndpoint req endpoint
    | none => .error .notFound

end ProxyService

/- What comes through. -/

/-- How a request has come to be a call: through the layer of its route, with the arguments
that the extractors have read. -/
inductive Admits (self : ProxyService) (req : HttpRequest) : ApiCall → Prop
  | dispatched : startsWith req.path "/spark.connect.SparkConnectService" = true →
      Admits self req (.dispatchRequest req.forProxy)
  | listed (username : String) (params : ListApplicationsRequest) : req.path = "/apps" →
      UserAuth.authorize self.authMethods req.headers = .ok username →
      Admits self req (.listApps username params)
  | created (username : String) (params : CreateApplicationRequest) : req.path = "/apps" →
      UserAuth.authorize self.authMethods req.headers = .ok username → req.method = .post →
      self.json self.readCreate req = .ok params →
      Admits self req (.createApp username params)
  | got (username text : String) (appId : Int) : appIdOf req.path = some text →
      UserAuth.authorize self.authMethods req.headers = .ok username →
      readAppId text = some appId → Admits self req (.getApp username appId)
  | deleted (username text : String) (appId : Int) : appIdOf req.path = some text →
      UserAuth.authorize self.authMethods req.headers = .ok username → req.method = .delete →
      readAppId text = some appId → Admits self req (.deleteApp username appId)
  | versions (username : String) :
      UserAuth.authorize self.authMethods req.headers = .ok username → Admits self req .listVersions
  | registered (token : String) (params : ApplicationCallbackRequest) : req.path = "/callback" →
      TokenAuth.authorize req.headers = .ok token → req.method = .post →
      self.json self.readCallback req = .ok params →
      Admits self req (.appCallback token params)
  | deregistered (token : String) : req.path = "/callback" →
      TokenAuth.authorize req.headers = .ok token → req.method = .delete →
      Admits self req (.appCallbackDelete token)

theorem bind_ok {ε α β : Type} {x : Except ε α} {f : α → Except ε β} {b : β}
    (h : (x >>= f) = .ok b) : ∃ a, x = .ok a ∧ f a = .ok b := by
  cases x with
  | error e => cases h
  | ok a => exact ⟨a, rfl, h⟩

theorem layer_ok {α : Type} {x : Except AuthStatus α} {a : α}
    (h : x.mapError Refusal.unauthenticated = .ok a) : x = .ok a := by
  cases x with
  | error status => cases h
  | ok b =>
    cases h
    rfl

theorem extracted_ok {α : Type} {value : Option α} {a : α} (h : extracted value = .ok a) :
    value = some a := by
  cases value with
  | none => cases h
  | some b =>
    cases h
    rfl

section
variable {self : ProxyService} {req : HttpRequest} {call : ApiCall}

theorem apps_admits (path : req.path = "/apps") (h : self.callEndpoint req .apps = .ok call) :
    Admits self req call := by
  obtain ⟨username, layer, h⟩ := bind_ok h
  have authorized := layer_ok layer
  split at h
  · obtain ⟨params, _, h⟩ := bind_ok h
    cases h
    exact .listed username params path authorized
  · obtain ⟨params, _, h⟩ := bind_ok h
    cases h
    exact .listed username params path authorized
  · rename_i method
    obtain ⟨params, read, h⟩ := bind_ok h
    cases h
    exact .created username params path authorized method read
  · cases h

theorem app_admits {text : String} (path : appIdOf req.path = some text)
    (h : self.callEndpoint req (.app text) = .ok call) : Admits self req call := by
  obtain ⟨username, layer, h⟩ := bind_ok h
  have authorized := layer_ok layer
  split at h
  · obtain ⟨appId, read, h⟩ := bind_ok h
    cases h
    exact .got username text appId path authorized (extracted_ok read)
  · obtain ⟨appId, read, h⟩ := bind_ok h
    cases h
    exact .got username text appId path authorized (extracted_ok read)
  · rename_i method
    obtain ⟨appId, read, h⟩ := bind_ok h
    cases h
    exact .deleted username text appId path authorized method (extracted_ok read)
  · cases h

theorem versions_admits (h : self.callEndpoint req .versions = .ok call) :
    Admits self req call := by
  obtain ⟨username, layer, h⟩ := bind_ok h
  have authorized := layer_ok layer
  split at h
  · cases h
    exact .versions username authorized
  · cases h
    exact .versions username authorized
  · cases h

theorem callback_admits (path : req.path = "/callback")
    (h : self.callEndpoint req .callback = .ok call) : Admits self req call := by
  obtain ⟨token, layer, h⟩ := bind_ok h
  have authorized := layer_ok layer
  split at h
  · rename_i method
    obtain ⟨params, read, h⟩ := bind_ok h
    cases h
    exact .registered token params path authorized method read
  · rename_i method
    cases h
    exact .deregistered token path authorized method
  · cases h

theorem route_some {path : String} {endpoint : Endpoint} (h : route path = some endpoint) :
    (endpoint = .apps ∧ path = "/apps") ∨ endpoint = .versions ∨
      (endpoint = .callback ∧ path = "/callback") ∨
      ∃ text, endpoint = .app text ∧ appIdOf path = some text := by
  unfold route at h
  split at h
  · rename_i apps
    exact Or.inl ⟨(Option.some.inj h).symm, apps⟩
  · split at h
    · exact Or.inr (Or.inl (Option.some.inj h).symm)
    · split at h
      · rename_i callback
        exact Or.inr (Or.inr (Or.inl ⟨(Option.some.inj h).symm, callback⟩))
      · obtain ⟨text, found, same⟩ := Option.map_eq_some_iff.mp h
        exact Or.inr (Or.inr (Or.inr ⟨text, same.symm, found⟩))

theorem call_admits (h : self.call req = .ok call) : Admits self req call := by
  unfold ProxyService.call at h
  split at h
  · rename_i connect
    cases h
    exact .dispatched connect
  · split at h
    · rename_i endpoint found
      rcases route_some found with ⟨rfl, path⟩ | rfl | ⟨rfl, path⟩ | ⟨text, rfl, path⟩
      · exact apps_admits path h
      · exact versions_admits h
      · exact callback_admits path h
      · exact app_admits path h
    · cases h

end

end SparkPlug
