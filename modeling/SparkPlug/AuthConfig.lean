import SparkPlug.ClientCalls

/-!
The authentication methods of a configuration, and what of a request they leave to decide.
-/
namespace SparkPlug
open Text

structure AuthConfig where
  name : String
  options : Option HashMap := none

inductive PemType where
  | rsa
  | ec
  | ed
  deriving DecidableEq

/- The libraries and the environment of the server; none where they fail at its start. -/
structure AuthLibrary (Key Algorithm JwksKey : Type) where
  whoami : Except String String
  readToString : String → Option String
  fromPem : PemType → String → Option Key
  algorithm : String → Option Algorithm
  rs256 : Algorithm
  decode : Key → Algorithm → String → Except String String
  fromJwksUrl : String → Option (Jwks JwksKey)
  fromOidcUrl : String → Option (Jwks JwksKey)

def PemType.ofName (name : String) : Option PemType :=
  if name = "rsa" then some .rsa
  else if name = "ec" then some .ec
  else if name = "ed" then some .ed
  else none

/- The methods panic on options that they cannot use, and the server does not start. -/

def RemoteUserAuth.create (options : HashMap) : Option UserAuthMethod :=
  (options.lookup "header").map remoteUserAuth

section
variable {Key Algorithm JwksKey : Type} (lib : AuthLibrary Key Algorithm JwksKey)

def JWTAuth.pemContent (options : HashMap) : Option String :=
  match options.lookup "pem", options.lookup "pem_file" with
  | some _, some _ => none
  | some pem, none => some pem
  | none, some pemFile => lib.readToString pemFile
  | none, none => none

def JWTAuth.create (options : HashMap) : Option UserAuthMethod := do
  let pemContent ← JWTAuth.pemContent lib options
  let pemType ← PemType.ofName ((options.lookup "pem_type").getD "rsa")
  let key ← lib.fromPem pemType pemContent
  let algorithm ← (options.lookup "algorithm").elim (some lib.rs256) lib.algorithm
  some (jwtAuth (lib.decode key algorithm))

def JWKSAuth.jwks (options : HashMap) : Option (Jwks JwksKey) :=
  match options.lookup "jwks_url", options.lookup "oidc_url" with
  | some _, some _ => none
  | some jwksUrl, none => lib.fromJwksUrl jwksUrl
  | none, some oidcUrl => lib.fromOidcUrl oidcUrl
  | none, none => none

def JWKSAuth.create (options : HashMap) : Option UserAuthMethod :=
  (JWKSAuth.jwks lib options).map fun jwks => jwksAuth jwks (options.lookup "audience")

def AuthConfig.create (authConfig : AuthConfig) : Option UserAuthMethod :=
  let options := authConfig.options.getD ∅
  if authConfig.name = "remote_user" then RemoteUserAuth.create options
  else if authConfig.name = "jwt" then JWTAuth.create lib options
  else if authConfig.name = "jwks" then JWKSAuth.create lib options
  else none

def UserAuth.fromConfig (authMethods : Option (List AuthConfig)) : Option (List UserAuthMethod) :=
  match authMethods with
  | some authConfigs => authConfigs.mapM (AuthConfig.create lib)
  | none => some [currentUserAuth lib.whoami]

end

/-- The headers that a configuration lets decide on the user. -/
def Trusted (authConfigs : List AuthConfig) (name : String) : Prop :=
  ∃ authConfig ∈ authConfigs,
    (authConfig.name = "remote_user" ∧ ∃ header,
      (authConfig.options.getD ∅).lookup "header" = some header ∧ headerName header = name) ∨
    ((authConfig.name = "jwt" ∨ authConfig.name = "jwks") ∧ name = AUTHORIZATION)

/-- The trusted headers of two requests are the same. -/
def AgreeOn (trusted : String → Prop) (headers headers' : HeaderMap) : Prop :=
  ∀ name, trusted name → headers.get name = headers'.get name

/-- A method looks at trusted headers only. -/
def LooksAt (trusted : String → Prop) (authMethod : UserAuthMethod) : Prop :=
  ∀ headers headers', AgreeOn trusted headers headers' → authMethod headers = authMethod headers'

theorem bearer_looks {headers headers' : HeaderMap}
    (same : headers.get AUTHORIZATION = headers'.get AUTHORIZATION) :
    Auth.extractBearerToken headers = Auth.extractBearerToken headers' := by
  unfold Auth.extractBearerToken
  rw [same]

section
variable {Key Algorithm JwksKey : Type} {lib : AuthLibrary Key Algorithm JwksKey}

theorem remote_user_looks {trusted : String → Prop} {options : HashMap}
    {authMethod : UserAuthMethod} (h : RemoteUserAuth.create options = some authMethod)
    (reads : ∀ header, options.lookup "header" = some header → trusted (headerName header)) :
    LooksAt trusted authMethod := by
  obtain ⟨header, given, rfl⟩ := Option.map_eq_some_iff.mp h
  intro headers headers' agree
  unfold remoteUserAuth
  rw [agree _ (reads header given)]

theorem jwt_looks {trusted : String → Prop} {options : HashMap} {authMethod : UserAuthMethod}
    (h : JWTAuth.create lib options = some authMethod) (reads : trusted AUTHORIZATION) :
    LooksAt trusted authMethod := by
  obtain ⟨pemContent, _, h⟩ := Option.bind_eq_some_iff.mp h
  obtain ⟨pemType, _, h⟩ := Option.bind_eq_some_iff.mp h
  obtain ⟨key, _, h⟩ := Option.bind_eq_some_iff.mp h
  obtain ⟨algorithm, _, h⟩ := Option.bind_eq_some_iff.mp h
  cases h
  intro headers headers' agree
  unfold jwtAuth
  rw [bearer_looks (agree _ reads)]

theorem jwks_looks {trusted : String → Prop} {options : HashMap} {authMethod : UserAuthMethod}
    (h : JWKSAuth.create lib options = some authMethod) (reads : trusted AUTHORIZATION) :
    LooksAt trusted authMethod := by
  obtain ⟨jwks, _, rfl⟩ := Option.map_eq_some_iff.mp h
  intro headers headers' agree
  unfold jwksAuth
  rw [bearer_looks (agree _ reads)]

theorem created_looks {authConfigs : List AuthConfig} {authConfig : AuthConfig}
    (member : authConfig ∈ authConfigs) {authMethod : UserAuthMethod}
    (h : authConfig.create lib = some authMethod) : LooksAt (Trusted authConfigs) authMethod := by
  unfold AuthConfig.create at h
  split at h
  · rename_i name
    refine remote_user_looks h fun header given => ?_
    exact ⟨authConfig, member, Or.inl ⟨name, header, given, rfl⟩⟩
  · split at h
    · rename_i name
      exact jwt_looks h ⟨authConfig, member, Or.inr ⟨Or.inl name, rfl⟩⟩
    · split at h
      · rename_i name
        exact jwks_looks h ⟨authConfig, member, Or.inr ⟨Or.inr name, rfl⟩⟩
      · cases h

theorem configured_looks {trusted : String → Prop} {authConfigs : List AuthConfig}
    {authMethods : List UserAuthMethod}
    (each : ∀ authConfig ∈ authConfigs, ∀ authMethod, authConfig.create lib = some authMethod →
      LooksAt trusted authMethod)
    (h : authConfigs.mapM (AuthConfig.create lib) = some authMethods) :
    ∀ authMethod ∈ authMethods, LooksAt trusted authMethod := by
  induction authConfigs generalizing authMethods with
  | nil =>
    cases h
    simp
  | cons authConfig authConfigs ih =>
    rw [List.mapM_cons] at h
    obtain ⟨first, created, h⟩ := Option.bind_eq_some_iff.mp h
    obtain ⟨rest, others, h⟩ := Option.bind_eq_some_iff.mp h
    cases h
    intro authMethod member
    rcases List.mem_cons.mp member with rfl | later
    · exact each authConfig List.mem_cons_self authMethod created
    · have rest := fun other there => each other (List.mem_cons_of_mem _ there)
      exact ih rest others authMethod later

theorem username_looks {trusted : String → Prop} {authMethods : List UserAuthMethod}
    (all : ∀ authMethod ∈ authMethods, LooksAt trusted authMethod) {headers headers' : HeaderMap}
    (agree : AgreeOn trusted headers headers') :
    UserAuth.username headers authMethods = UserAuth.username headers' authMethods := by
  induction authMethods with
  | nil => rfl
  | cons authMethod authMethods ih =>
    have first := all authMethod List.mem_cons_self headers headers' agree
    have rest := ih fun other there => all other (List.mem_cons_of_mem _ there)
    unfold UserAuth.username
    rw [first, rest]

/- The calls of requests. -/

/-- Two requests for the REST API that differ in other headers only. -/
structure SameRequest (authConfigs : List AuthConfig) (req req' : HttpRequest) : Prop where
  method : req.method = req'.method
  path : req.path = req'.path
  query : req.query = req'.query
  body : req.body = req'.body
  contentType : req.headers.get CONTENT_TYPE = req'.headers.get CONTENT_TYPE
  authorization : req.headers.get AUTHORIZATION = req'.headers.get AUTHORIZATION
  trusted : AgreeOn (Trusted authConfigs) req.headers req'.headers

section
variable {authConfigs : List AuthConfig} {self : ProxyService} {req req' : HttpRequest}

theorem user_same (configured : UserAuth.fromConfig lib (some authConfigs) = some self.authMethods)
    (same : SameRequest authConfigs req req') : self.userAuth req = self.userAuth req' := by
  have each : ∀ authConfig ∈ authConfigs, ∀ authMethod,
      authConfig.create lib = some authMethod → LooksAt (Trusted authConfigs) authMethod := by
    intro authConfig member authMethod created
    exact created_looks member created
  have names := username_looks (configured_looks each configured) same.trusted
  unfold ProxyService.userAuth UserAuth.authorize
  rw [names]

theorem token_same (same : SameRequest authConfigs req req') :
    ProxyService.tokenAuth req = ProxyService.tokenAuth req' := by
  unfold ProxyService.tokenAuth TokenAuth.authorize
  rw [same.authorization]

theorem json_same {α : Type} (read : List UInt8 → Option α)
    (same : SameRequest authConfigs req req') : self.json read req = self.json read req' := by
  unfold ProxyService.json
  rw [same.contentType, same.body]

end

/-- With a configured chain of methods, requests that agree on their method, target, body,
content type and authorization and on the headers that the configuration names are the same
call, or refused for the same reason; no other header counts, and neither does the user of
the server. Without a configuration every user is the user of the server. -/
theorem configured_headers_decide (authConfigs : List AuthConfig) (self : ProxyService)
    (configured : UserAuth.fromConfig lib (some authConfigs) = some self.authMethods)
    {req req' : HttpRequest} (same : SameRequest authConfigs req req')
    (rest : startsWith req.path "/spark.connect.SparkConnectService" = false) :
    self.call req = self.call req' ∧
    ∀ headers authMethods user, UserAuth.fromConfig lib none = some authMethods →
      (UserAuth.authorize authMethods headers = .ok user ↔ lib.whoami = .ok user) := by
  constructor
  · have rest' : startsWith req'.path "/spark.connect.SparkConnectService" = false := by
      rw [← same.path]
      exact rest
    have endpoints : self.callEndpoint req = self.callEndpoint req' := by
      funext endpoint
      have user := user_same configured same
      have token := token_same same
      cases endpoint <;>
        simp only [ProxyService.callEndpoint, user, token, same.method, same.query,
          json_same _ same]
    rw [ProxyService.call, ProxyService.call, rest, rest', same.path, endpoints]
    rfl
  · intro headers authMethods user default
    cases default
    rw [authorize_ok, username_first]
    cases lib.whoami <;> simp [named, currentUserAuth, Except.toOption, Except.map]

end

/-- A server that reads no keys. -/
def keylessLibrary : AuthLibrary Unit Unit Unit where
  whoami := .ok "spark"
  readToString := fun _ => none
  fromPem := fun _ _ => none
  algorithm := fun _ => none
  rs256 := ()
  decode := fun _ _ _ => .error "invalid token"
  fromJwksUrl := fun _ => none
  fromOidcUrl := fun _ => none

def trustedHeader : AuthConfig :=
  { name := "remote_user", options := some (AList.insert "header" "REMOTE_USER" ∅) }

/-- A header that the configuration does not name makes nobody another user. -/
theorem other_header_ignored :
    trustingService.call
        (PythonClient.listApplications localUrl (("x-user", headerValue "bob") :: aliceHeaders)) =
      trustingService.call (PythonClient.listApplications localUrl aliceHeaders) := by
  have configured : UserAuth.fromConfig keylessLibrary (some [trustedHeader]) =
      some trustingService.authMethods := rfl
  have same : SameRequest [trustedHeader]
      (PythonClient.listApplications localUrl (("x-user", headerValue "bob") :: aliceHeaders))
      (PythonClient.listApplications localUrl aliceHeaders) := by
    refine ⟨rfl, rfl, rfl, rfl, rfl, rfl, ?_⟩
    rintro name ⟨authConfig, member, ⟨_, header, given, rfl⟩ | ⟨method, _⟩⟩
    · obtain rfl := List.mem_singleton.mp member
      cases given
      rfl
    · obtain rfl := List.mem_singleton.mp member
      simp [trustedHeader] at method
  exact (configured_headers_decide _ trustingService configured same (by decide)).1

end SparkPlug
