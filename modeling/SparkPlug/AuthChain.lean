import SparkPlug.Auth

/-!
The chain of authentication methods. The first method that names a user decides, and
an empty name counts as one.
-/
namespace SparkPlug
open Text

/-- What a method makes of the headers: a user, no credential of its kind, or an error. -/
abbrev UserAuthMethod := HeaderMap → Except String (Option String)

def currentUserAuth (whoami : Except String String) : UserAuthMethod := fun _ => whoami.map some

/-- The name of a header as HeaderMap looks it up. -/
def headerName (name : String) : String := String.ofList (name.toList.map Char.toLower)

def remoteUserAuth (header : String) : UserAuthMethod := fun headerMap =>
  .ok ((headerMap.get (headerName header)).bind toStr)

/-- `decode` verifies a token with the key and validation of the method and reads its
subject. -/
def jwtAuth (decode : String → Except String String) : UserAuthMethod := fun headerMap => do
  match ← Auth.extractBearerToken headerMap with
  | some token => return some (← decode token)
  | none => return none

structure JwtHeader where
  kid : Option String
  alg : String

/- The keys of the provider and the library that reads tokens. -/
structure Jwks (Key : Type) where
  keys : AList fun _ : String => Key
  decodeHeader : String → Except String JwtHeader
  decode : Key → String → Option String → String → Except String String

def jwksAuth {Key : Type} (jwks : Jwks Key) (audience : Option String) : UserAuthMethod :=
  fun headerMap => do
    match ← Auth.extractBearerToken headerMap with
    | some token =>
      let header ← jwks.decodeHeader token
      let kid ← (header.kid.elim (.error "jwt header should have a kid") .ok :
        Except String String)
      let key ← ((jwks.keys.lookup kid).elim (.error "jwt refer to a unknown key id") .ok :
        Except String Key)
      return some (← jwks.decode key header.alg audience token)
    | none => return none

namespace UserAuth

/-- The loop over the methods. -/
def username (headers : HeaderMap) : List UserAuthMethod → Option String
  | [] => none
  | authMethod :: authMethods =>
    match authMethod headers with
    | .ok (some user) => some user
    | .ok none => username headers authMethods
    | .error _ => username headers authMethods

/-- The user that a request is given as an extension. -/
def authorize (authMethods : List UserAuthMethod) (headers : HeaderMap) :
    Except AuthStatus String :=
  match username headers authMethods with
  | some username => .ok username
  | none => .error .unauthorized

end UserAuth

/-- A method names a user, by a name that is not empty. -/
def Names (headers : HeaderMap) (authMethod : UserAuthMethod) (user : String) : Prop :=
  authMethod headers = .ok (some user) ∧ user ≠ ""

/-- The first method to name a user names this one. -/
def FirstNamed (headers : HeaderMap) (authMethods : List UserAuthMethod) (user : String) : Prop :=
  ∃ before authMethod after, authMethods = before ++ authMethod :: after ∧
    Names headers authMethod user ∧ ∀ earlier ∈ before, ∀ other, ¬ Names headers earlier other

structure ChainLaw (headers : HeaderMap) (authMethods : List UserAuthMethod) : Prop where
  admits : (∃ user, UserAuth.authorize authMethods headers = .ok user) ↔
    ∃ authMethod ∈ authMethods, ∃ user, Names headers authMethod user
  first : ∀ user, UserAuth.authorize authMethods headers = .ok user ↔
    FirstNamed headers authMethods user
  refuses : (∀ authMethod ∈ authMethods, ∀ user, ¬ Names headers authMethod user) →
    UserAuth.authorize authMethods headers = .error .unauthorized

/-- An empty name comes only behind a method that has named a user. -/
def EmptyNamesLast (headers : HeaderMap) (authMethods : List UserAuthMethod) : Prop :=
  ∀ before authMethod after, authMethods = before ++ authMethod :: after →
    authMethod headers = .ok (some "") → ∃ earlier ∈ before, ∃ user, Names headers earlier user

/- The loop. -/

/-- The user of an answer, if there is one. -/
def named (headers : HeaderMap) (authMethod : UserAuthMethod) : Option String :=
  (authMethod headers).toOption.join

theorem named_some {headers : HeaderMap} {authMethod : UserAuthMethod} {user : String} :
    named headers authMethod = some user ↔ authMethod headers = .ok (some user) := by
  unfold named
  cases authMethod headers with
  | error message => simp [Except.toOption]
  | ok answer => cases answer <;> simp [Except.toOption]

theorem username_first (headers : HeaderMap) (authMethods : List UserAuthMethod) :
    UserAuth.username headers authMethods = authMethods.findSome? (named headers) := by
  induction authMethods with
  | nil => rfl
  | cons authMethod authMethods ih =>
    unfold UserAuth.username named
    rw [List.findSome?_cons, ih]
    cases authMethod headers with
    | error message => rfl
    | ok answer => cases answer <;> rfl

/-- The method at which the loop breaks, with everything before it passed. -/
theorem username_some {headers : HeaderMap} {authMethods : List UserAuthMethod} {user : String} :
    UserAuth.username headers authMethods = some user ↔
      ∃ before authMethod after, authMethods = before ++ authMethod :: after ∧
        authMethod headers = .ok (some user) ∧
          ∀ earlier ∈ before, named headers earlier = none := by
  rw [username_first, List.findSome?_eq_some_iff]
  simp only [named_some]

theorem authorize_ok {headers : HeaderMap} {authMethods : List UserAuthMethod} {user : String} :
    UserAuth.authorize authMethods headers = .ok user ↔
      UserAuth.username headers authMethods = some user := by
  unfold UserAuth.authorize
  cases UserAuth.username headers authMethods <;> simp

/-- Behind an empty name nothing is asked any more. -/
theorem empty_name_admitted {headers : HeaderMap} {authMethods : List UserAuthMethod}
    (last : ¬ EmptyNamesLast headers authMethods) :
    UserAuth.authorize authMethods headers = .ok "" := by
  unfold EmptyNamesLast at last
  push Not at last
  obtain ⟨before, authMethod, after, rfl, empty, unnamed⟩ := last
  rw [authorize_ok, username_first, List.findSome?_append, List.findSome?_cons]
  cases earlier : before.findSome? (named headers) with
  | none => simp [named_some.mpr empty]
  | some user =>
    obtain ⟨method, member, answer⟩ := List.exists_of_findSome?_eq_some earlier
    have unnamed := unnamed method member user
    by_cases same : user = ""
    · simp [same]
    · exact absurd ⟨named_some.mp answer, same⟩ unnamed

/-- A method with an answer before the first named user would have had a named user before it. -/
theorem earlier_silent {headers : HeaderMap} {before after : List UserAuthMethod}
    (last : EmptyNamesLast headers (before ++ after))
    (unnamed : ∀ earlier ∈ before, ∀ user, ¬ Names headers earlier user) :
    ∀ earlier ∈ before, named headers earlier = none := by
  intro earlier member
  cases answer : named headers earlier with
  | none => rfl
  | some user =>
    have given := named_some.mp answer
    have empty : user = "" := by
      by_contra filled
      exact unnamed earlier member user ⟨given, filled⟩
    obtain ⟨front, back, rfl⟩ := List.append_of_mem member
    obtain ⟨method, first, other, names⟩ := last front earlier (back ++ after) (by simp)
      (empty ▸ given)
    exact absurd names (unnamed method (by simp [first]) other)

theorem username_first_named {headers : HeaderMap} {authMethods : List UserAuthMethod}
    (last : EmptyNamesLast headers authMethods) (user : String) :
    UserAuth.username headers authMethods = some user ↔ FirstNamed headers authMethods user := by
  rw [username_some]
  constructor
  · rintro ⟨before, authMethod, after, rfl, answer, silent⟩
    have filled : user ≠ "" := by
      rintro rfl
      obtain ⟨earlier, member, other, names⟩ := last before authMethod after rfl answer
      have quiet := silent earlier member
      rw [named_some.mpr names.1] at quiet
      cases quiet
    refine ⟨before, authMethod, after, rfl, ⟨answer, filled⟩, ?_⟩
    intro earlier member other names
    have quiet := silent earlier member
    rw [named_some.mpr names.1] at quiet
    cases quiet
  · rintro ⟨before, authMethod, after, rfl, names, unnamed⟩
    exact ⟨before, authMethod, after, rfl, names.1, earlier_silent last unnamed⟩

theorem chain_law {headers : HeaderMap} {authMethods : List UserAuthMethod}
    (last : EmptyNamesLast headers authMethods) : ChainLaw headers authMethods := by
  have first := username_first_named last
  constructor
  · constructor
    · rintro ⟨user, admitted⟩
      have passed := (first user).mp (authorize_ok.mp admitted)
      obtain ⟨before, authMethod, after, rfl, names, _⟩ := passed
      exact ⟨authMethod, by simp, user, names⟩
    · rintro ⟨authMethod, member, user, names⟩
      cases found : UserAuth.username headers authMethods with
      | some other => exact ⟨other, authorize_ok.mpr found⟩
      | none =>
        rw [username_first, List.findSome?_eq_none_iff] at found
        have quiet := found authMethod member
        rw [named_some.mpr names.1] at quiet
        cases quiet
  · intro user
    rw [authorize_ok]
    exact first user
  · intro unnamed
    unfold UserAuth.authorize
    cases found : UserAuth.username headers authMethods with
    | none => rfl
    | some user =>
      obtain ⟨before, authMethod, after, rfl, names, _⟩ := (first user).mp found
      exact absurd names (unnamed authMethod (by simp) user)

theorem remote_user_empty (header : String) (headers : HeaderMap) :
    remoteUserAuth header headers = .ok (some "") ↔ headers.get (headerName header) = some [] := by
  unfold remoteUserAuth
  simp only [Except.ok.injEq]
  constructor
  · intro read
    obtain ⟨value, sent, text⟩ := Option.bind_eq_some_iff.mp read
    rw [sent, ← to_str_bytes text]
    rfl
  · intro sent
    rw [sent]
    rfl

/-- The chain lets a request through for the first user that is named exactly where no empty
name comes first. A trusted header gives an empty name exactly when its value is empty. -/
theorem auth_chain_law_iff (headers : HeaderMap) (authMethods : List UserAuthMethod) :
    (ChainLaw headers authMethods ↔ EmptyNamesLast headers authMethods) ∧
    ∀ header, remoteUserAuth header headers = .ok (some "") ↔
      headers.get (headerName header) = some [] := by
  constructor
  · constructor
    · intro law
      by_contra last
      obtain ⟨_, _, _, _, names, _⟩ := (law.first "").mp (empty_name_admitted last)
      exact names.2 rfl
    · exact chain_law
  · intro header
    exact remote_user_empty header headers

/-- An empty trusted header, beside the token of another user. -/
def emptyUserHeaders : HeaderMap :=
  [("remote_user", []), (AUTHORIZATION, headerValue "Bearer alice")]

def trustedThenJwt : List UserAuthMethod := [remoteUserAuth "REMOTE_USER", jwtAuth .ok]

/-- Whoever sends no user is the user with the empty name, and no later method is asked. -/
theorem empty_user_admitted :
    UserAuth.authorize [remoteUserAuth "REMOTE_USER"] emptyUserHeaders = .ok "" ∧
    UserAuth.authorize trustedThenJwt emptyUserHeaders = .ok "" ∧
    Names emptyUserHeaders (jwtAuth .ok) "alice" ∧
    ¬ ChainLaw emptyUserHeaders [remoteUserAuth "REMOTE_USER"] ∧
    ¬ ChainLaw emptyUserHeaders trustedThenJwt := by
  have alone : UserAuth.authorize [remoteUserAuth "REMOTE_USER"] emptyUserHeaders = .ok "" := by
    decide
  have shadowed : UserAuth.authorize trustedThenJwt emptyUserHeaders = .ok "" := by decide
  refine ⟨alone, shadowed, ⟨by decide, by decide⟩, fun law => ?_, fun law => ?_⟩
  · obtain ⟨_, _, _, _, names, _⟩ := (law.first "").mp alone
    exact names.2 rfl
  · obtain ⟨_, _, _, _, names, _⟩ := (law.first "").mp shadowed
    exact names.2 rfl

end SparkPlug
