import SparkPlug.Library.Text
import SparkPlug.Store

/-!
The handlers of the REST API and of the driver callbacks. A call is cut at its
await points: its phase says how far it has come, and one action takes it to
the next phase. `stored` is false where the store answers the statement of that
action with an error. A handler is dropped when its client disconnects.
-/
namespace SparkPlug
open Text

inductive CreateApp where
  /- The row is inserted and `launcher.launch` is pending. -/
  | launching (app : Model)
  /- The launch has failed and the FAILED update is pending. -/
  | launchFailed (app : Model)
  | answered (result : Except StatusCode Model)
  | dropped
  deriving DecidableEq

inductive DeleteApp where
  | read (appId : Int) (username : String) (address : Option String) (token : String)
  /- The row is FINISHED and the stop message to the address read is on its way. -/
  | marked (address token : String)
  | stopped (token : String) (result : Except StatusCode Unit)
  | answered (result : Except StatusCode Unit)
  | dropped
  deriving DecidableEq

inductive AppCallbackDelete where
  | updated (token : String)
  | answered (result : Except StatusCode Unit)
  | dropped
  deriving DecidableEq

/-- The calls in the order they arrived, and the ids of the live launch watchers. -/
structure Routes where
  creates : List CreateApp := []
  watchers : List Int := []
  deletes : List DeleteApp := []
  callbackDeletes : List AppCallbackDelete := []

inductive RoutesAction where
  | createInsert (username : String) (name : Option String) (token : String)
      (createdAt : DateTimeUtc) (stored : Bool)
  | createLaunched (n : Nat) (success : Bool)
  | createFailed (n : Nat) (stored : Bool)
  | createDropped (n : Nat)
  | watcherDone (id : Int) (stored : Bool)
  | appCallback (token address applicationId : String) (stored : Bool)
  /- The sender is the peer of the request; the handler does not look at it. -/
  | appCallbackDelete (token sender : String) (stored : Bool)
  | appCallbackDeleteInvalidate (n : Nat)
  | appCallbackDeleteDropped (n : Nat)
  | deleteRead (appId : Int) (username : String) (stored : Bool)
  | deleteUpdate (n : Nat) (stored : Bool)
  | deleteStop (n : Nat) (delivered : Bool)
  | deleteInvalidate (n : Nat)
  | deleteDropped (n : Nat)
  deriving DecidableEq

/-- What an action does: the new phases, the statement it executes and the token
whose upstream connection it invalidates. -/
structure RoutesOutcome where
  routes : Routes
  statement : Option Statement := none
  invalidate : Option String := none

/-- The answer of appCallback: NOT_FOUND when no row carries the token. -/
def appCallbackAnswer (db : Db) (token address applicationId : String) (stored : Bool) :
    Except StatusCode Unit :=
  if stored then
    if db.rowsAffected (.appCallback token address applicationId) = 0 then .error .notFound
    else .ok ()
  else .error .internalServerError

def getApp (config : ProxyConfig) (db : Db) (appId : Int) (username : String) (stored : Bool) :
    Except StatusCode ApplicationInfo :=
  if stored then
    match db.first fun r => r.username = username && r.id = appId with
    | some app => .ok (.ofModel config app)
    | none => .error .notFound
  else .error .internalServerError

structure ListApplicationsRequest where
  state : Option String := none
  createdAtAfter : Option DateTimeUtc := none
  createdAtBefore : Option DateTimeUtc := none

def State.tryFromValue (value : String) : Option State :=
  [State.launching, .running, .failed, .finished].find? fun state => state.toValue = value

/-- The state filters of a request; blank ones are skipped, unknown ones refused. -/
def parseStates : List String → Option (List State)
  | [] => some []
  | filter :: rest =>
    let state := trim filter
    if state.isEmpty then parseStates rest
    else (State.tryFromValue state).bind fun parsed => (parseStates rest).map (parsed :: ·)

/-- The WHERE clause of listApps. -/
def listFilter (username : String) (states : List State) (params : ListApplicationsRequest)
    (r : Model) : Bool :=
  r.username = username && (states.isEmpty || r.state ∈ states) &&
    params.createdAtAfter.all (fun bound => bound ≤ r.createdAt) &&
    params.createdAtBefore.all (fun bound => r.createdAt ≤ bound)

def listApps (config : ProxyConfig) (db : Db) (username : String)
    (params : ListApplicationsRequest) (stored : Bool) :
    Except StatusCode (List ApplicationInfo) :=
  match params.state.elim (some []) fun filters => parseStates (split ',' filters) with
  | none => .error .badRequest
  | some states =>
    if stored then .ok ((db.select (listFilter username states params)).map (.ofModel config))
    else .error .internalServerError

/-- deleteApp up to its first await: the row of this user and id. -/
def DeleteApp.afterRead (db : Db) (appId : Int) (username : String) (stored : Bool) : DeleteApp :=
  if stored then
    match db.first fun r => r.username = username && r.id = appId with
    | some app => .read appId username app.address app.token
    | none => .answered (.error .notFound)
  else .answered (.error .internalServerError)

/-- With no address there is nothing to stop. -/
def DeleteApp.afterUpdate (address : Option String) (token : String) : DeleteApp :=
  match address with
  | some address => .marked address token
  | none => .stopped token (.ok ())

def DeleteApp.stopResult (delivered : Bool) : Except StatusCode Unit :=
  if delivered then .ok () else .error .internalServerError

namespace Routes

def step (db : Db) (s : Routes) : RoutesAction → Option RoutesOutcome
  | .createInsert username name token createdAt stored =>
    if stored then
      let app := Statement.newRow username name token createdAt db.next
      some { routes := { s with creates := s.creates ++ [.launching app] }
             statement := some (.createInsert username name token createdAt) }
    else some { routes := { s with
      creates := s.creates ++ [.answered (.error .internalServerError)] } }
  | .createLaunched n success =>
    match s.creates[n]? with
    | some (.launching app) =>
      if success then some { routes := { s with
        creates := s.creates.set n (.answered (.ok app)), watchers := app.id :: s.watchers } }
      else some { routes := { s with creates := s.creates.set n (.launchFailed app) } }
    | _ => none
  | .createFailed n stored =>
    match s.creates[n]? with
    | some (.launchFailed app) =>
      -- a failing update is only logged, the answer is the same
      some { routes := { s with
               creates := s.creates.set n (.answered (.error .internalServerError)) }
             statement := if stored then some (.createFailed app.id) else none }
    | _ => none
  | .createDropped n =>
    match s.creates[n]? with
    | some (.launching _) | some (.launchFailed _) =>
      some { routes := { s with creates := s.creates.set n .dropped } }
    | _ => none
  | .watcherDone id stored =>
    if id ∈ s.watchers then
      some { routes := { s with watchers := s.watchers.erase id }
             statement := if stored then some (.watcherFailed id) else none }
    else none
  | .appCallback token address applicationId stored =>
    some { routes := s
           statement := if stored then some (.appCallback token address applicationId) else none }
  | .appCallbackDelete token _ stored =>
    if stored then
      let phase : AppCallbackDelete :=
        if db.rowsAffected (.appCallbackDelete token) = 0 then .answered (.error .notFound)
        else .updated token
      some { routes := { s with callbackDeletes := s.callbackDeletes ++ [phase] }
             statement := some (.appCallbackDelete token) }
    else some { routes := { s with
      callbackDeletes := s.callbackDeletes ++ [.answered (.error .internalServerError)] } }
  | .appCallbackDeleteInvalidate n =>
    match s.callbackDeletes[n]? with
    | some (.updated token) =>
      some { routes := { s with
               callbackDeletes := s.callbackDeletes.set n (.answered (.ok ())) }
             invalidate := some token }
    | _ => none
  | .appCallbackDeleteDropped n =>
    match s.callbackDeletes[n]? with
    | some (.updated _) =>
      some { routes := { s with callbackDeletes := s.callbackDeletes.set n .dropped } }
    | _ => none
  | .deleteRead appId username stored =>
    some { routes := { s with
      deletes := s.deletes ++ [.afterRead db appId username stored] } }
  | .deleteUpdate n stored =>
    match s.deletes[n]? with
    | some (.read appId username address token) =>
      if stored then
        some { routes := { s with deletes := s.deletes.set n (.afterUpdate address token) }
               statement := some (.deleteApp appId username) }
      else some { routes := { s with
        deletes := s.deletes.set n (.answered (.error .internalServerError)) } }
    | _ => none
  | .deleteStop n delivered =>
    match s.deletes[n]? with
    | some (.marked _ token) =>
      some { routes := { s with
        deletes := s.deletes.set n (.stopped token (DeleteApp.stopResult delivered)) } }
    | _ => none
  | .deleteInvalidate n =>
    match s.deletes[n]? with
    | some (.stopped token result) =>
      some { routes := { s with deletes := s.deletes.set n (.answered result) }
             invalidate := some token }
    | _ => none
  | .deleteDropped n =>
    match s.deletes[n]? with
    | some (.read ..) | some (.marked ..) | some (.stopped ..) =>
      some { routes := { s with deletes := s.deletes.set n .dropped } }
    | _ => none

end Routes

/-- What one action does to the calls, by action and outcome. -/
inductive RoutesStep (db : Db) (s : Routes) : RoutesAction → RoutesOutcome → Prop where
  | inserted (username : String) (name : Option String) (token : String)
      (createdAt : DateTimeUtc) :
      RoutesStep db s (.createInsert username name token createdAt true)
        { routes := { s with creates := s.creates ++
            [.launching (Statement.newRow username name token createdAt db.next)] }
          statement := some (.createInsert username name token createdAt) }
  | insertRefused (username : String) (name : Option String) (token : String)
      (createdAt : DateTimeUtc) :
      RoutesStep db s (.createInsert username name token createdAt false)
        { routes := { s with creates := s.creates ++
            [.answered (.error .internalServerError)] } }
  | launched (n : Nat) (app : Model) (at_n : s.creates[n]? = some (.launching app)) :
      RoutesStep db s (.createLaunched n true)
        { routes := { s with
            creates := s.creates.set n (.answered (.ok app)), watchers := app.id :: s.watchers } }
  | launchFailed (n : Nat) (app : Model) (at_n : s.creates[n]? = some (.launching app)) :
      RoutesStep db s (.createLaunched n false)
        { routes := { s with creates := s.creates.set n (.launchFailed app) } }
  | createFailed (n : Nat) (stored : Bool) (app : Model)
      (at_n : s.creates[n]? = some (.launchFailed app)) :
      RoutesStep db s (.createFailed n stored)
        { routes := { s with
            creates := s.creates.set n (.answered (.error .internalServerError)) }
          statement := if stored then some (.createFailed app.id) else none }
  | createDropped (n : Nat) :
      RoutesStep db s (.createDropped n)
        { routes := { s with creates := s.creates.set n .dropped } }
  | watcherDone (id : Int) (stored : Bool) (live : id ∈ s.watchers) :
      RoutesStep db s (.watcherDone id stored)
        { routes := { s with watchers := s.watchers.erase id }
          statement := if stored then some (.watcherFailed id) else none }
  | registered (token address applicationId : String) (stored : Bool) :
      RoutesStep db s (.appCallback token address applicationId stored)
        { routes := s
          statement := if stored then some (.appCallback token address applicationId) else none }
  | deregistered (token sender : String) (phase : AppCallbackDelete) :
      RoutesStep db s (.appCallbackDelete token sender true)
        { routes := { s with callbackDeletes := s.callbackDeletes ++ [phase] }
          statement := some (.appCallbackDelete token) }
  | deregisterRefused (token sender : String) :
      RoutesStep db s (.appCallbackDelete token sender false)
        { routes := { s with callbackDeletes := s.callbackDeletes ++
            [.answered (.error .internalServerError)] } }
  | callbackInvalidated (n : Nat) (token : String)
      (at_n : s.callbackDeletes[n]? = some (.updated token)) :
      RoutesStep db s (.appCallbackDeleteInvalidate n)
        { routes := { s with
            callbackDeletes := s.callbackDeletes.set n (.answered (.ok ())) }
          invalidate := some token }
  | callbackDropped (n : Nat) :
      RoutesStep db s (.appCallbackDeleteDropped n)
        { routes := { s with callbackDeletes := s.callbackDeletes.set n .dropped } }
  | read (appId : Int) (username : String) (stored : Bool) :
      RoutesStep db s (.deleteRead appId username stored)
        { routes := { s with deletes := s.deletes ++ [.afterRead db appId username stored] } }
  | marked (n : Nat) (appId : Int) (username : String) (address : Option String) (token : String)
      (at_n : s.deletes[n]? = some (.read appId username address token)) :
      RoutesStep db s (.deleteUpdate n true)
        { routes := { s with deletes := s.deletes.set n (.afterUpdate address token) }
          statement := some (.deleteApp appId username) }
  | updateRefused (n : Nat) :
      RoutesStep db s (.deleteUpdate n false)
        { routes := { s with
            deletes := s.deletes.set n (.answered (.error .internalServerError)) } }
  | stopped (n : Nat) (delivered : Bool) (address token : String)
      (at_n : s.deletes[n]? = some (.marked address token)) :
      RoutesStep db s (.deleteStop n delivered)
        { routes := { s with
            deletes := s.deletes.set n (.stopped token (DeleteApp.stopResult delivered)) } }
  | invalidated (n : Nat) (token : String) (result : Except StatusCode Unit)
      (at_n : s.deletes[n]? = some (.stopped token result)) :
      RoutesStep db s (.deleteInvalidate n)
        { routes := { s with deletes := s.deletes.set n (.answered result) }
          invalidate := some token }
  | dropped (n : Nat) :
      RoutesStep db s (.deleteDropped n)
        { routes := { s with deletes := s.deletes.set n .dropped } }

section
variable {db : Db} {s : Routes} {outcome : RoutesOutcome}

/-- Every enabled action of the handlers is one of the steps. -/
theorem routes_step {a : RoutesAction} (h : s.step db a = some outcome) :
    RoutesStep db s a outcome := by
  cases a with
  | createInsert username name token createdAt stored =>
    cases stored with
    | true =>
      cases h
      exact .inserted username name token createdAt
    | false =>
      cases h
      exact .insertRefused username name token createdAt
  | createLaunched n success =>
    simp only [Routes.step] at h
    split at h
    · rename_i app at_n
      cases success with
      | true =>
        cases h
        exact .launched n app at_n
      | false =>
        cases h
        exact .launchFailed n app at_n
    · simp at h
  | createFailed n stored =>
    simp only [Routes.step] at h
    split at h
    · rename_i app at_n
      cases h
      exact .createFailed n stored app at_n
    · simp at h
  | createDropped n =>
    simp only [Routes.step] at h
    split at h
    · cases h
      exact .createDropped n
    · cases h
      exact .createDropped n
    · simp at h
  | watcherDone id stored =>
    obtain ⟨live, eq⟩ := Option.ite_none_right_eq_some.mp h
    cases eq
    exact .watcherDone id stored live
  | appCallback token address applicationId stored =>
    cases h
    exact .registered token address applicationId stored
  | appCallbackDelete token sender stored =>
    cases stored with
    | true =>
      cases h
      exact .deregistered token sender _
    | false =>
      cases h
      exact .deregisterRefused token sender
  | appCallbackDeleteInvalidate n =>
    simp only [Routes.step] at h
    split at h
    · rename_i token at_n
      cases h
      exact .callbackInvalidated n token at_n
    · simp at h
  | appCallbackDeleteDropped n =>
    simp only [Routes.step] at h
    split at h
    · cases h
      exact .callbackDropped n
    · simp at h
  | deleteRead appId username stored =>
    cases h
    exact .read appId username stored
  | deleteUpdate n stored =>
    simp only [Routes.step] at h
    split at h
    · rename_i appId username address token at_n
      cases stored with
      | true =>
        cases h
        exact .marked n appId username address token at_n
      | false =>
        cases h
        exact .updateRefused n
    · simp at h
  | deleteStop n delivered =>
    simp only [Routes.step] at h
    split at h
    · rename_i address token at_n
      cases h
      exact .stopped n delivered address token at_n
    · simp at h
  | deleteInvalidate n =>
    simp only [Routes.step] at h
    split at h
    · rename_i token result at_n
      cases h
      exact .invalidated n token result at_n
    · simp at h
  | deleteDropped n =>
    simp only [Routes.step] at h
    split at h
    · cases h
      exact .dropped n
    · cases h
      exact .dropped n
    · cases h
      exact .dropped n
    · simp at h

theorem Routes.step_statement {a : RoutesAction}
    (h : s.step db a = some outcome) : outcome.statement = none ∨
      (∃ username name token createdAt, a = .createInsert username name token createdAt true ∧
        outcome.statement = some (.createInsert username name token createdAt)) ∨
      (∃ n app, a = .createFailed n true ∧ s.creates[n]? = some (.launchFailed app) ∧
        outcome.statement = some (.createFailed app.id)) ∨
      (∃ id, a = .watcherDone id true ∧ id ∈ s.watchers ∧
        outcome.statement = some (.watcherFailed id)) ∨
      (∃ token address applicationId, a = .appCallback token address applicationId true ∧
        outcome.statement = some (.appCallback token address applicationId)) ∨
      (∃ token sender, a = .appCallbackDelete token sender true ∧
        outcome.statement = some (.appCallbackDelete token)) ∨
      ∃ n appId username address token, a = .deleteUpdate n true ∧
        s.deletes[n]? = some (.read appId username address token) ∧
        outcome.statement = some (.deleteApp appId username) := by
  cases routes_step h with
  | inserted username name token createdAt =>
    exact Or.inr (Or.inl ⟨username, name, token, createdAt, rfl, rfl⟩)
  | createFailed n stored app at_n =>
    cases stored with
    | true => exact Or.inr (Or.inr (Or.inl ⟨n, app, rfl, at_n, rfl⟩))
    | false => exact Or.inl rfl
  | watcherDone id stored live =>
    cases stored with
    | true => exact Or.inr (Or.inr (Or.inr (Or.inl ⟨id, rfl, live, rfl⟩)))
    | false => exact Or.inl rfl
  | registered token address applicationId stored =>
    cases stored with
    | true =>
      exact Or.inr (Or.inr (Or.inr (Or.inr (Or.inl ⟨token, address, applicationId, rfl, rfl⟩))))
    | false => exact Or.inl rfl
  | deregistered token sender phase =>
    exact Or.inr (Or.inr (Or.inr (Or.inr (Or.inr (Or.inl ⟨token, sender, rfl, rfl⟩)))))
  | marked n appId username address token at_n =>
    exact Or.inr (Or.inr (Or.inr (Or.inr (Or.inr (Or.inr
      ⟨n, appId, username, address, token, rfl, at_n, rfl⟩)))))
  | _ => exact Or.inl rfl

end

end SparkPlug
