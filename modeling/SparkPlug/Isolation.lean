import SparkPlug.Sessions

/-!
Whose rows a step can touch and an answer can show. The users of the pending
calls are kept beside the world, where no handler can read them.
-/
namespace SparkPlug
open KeyedTable Runs Tasks

/-- The users that the create and the delete calls were authenticated as. -/
structure Callers where
  creates : List String := []
  deletes : List String := []
  deriving DecidableEq

def RoutesAction.creator : RoutesAction → Option String
  | .createInsert username .. => some username
  | _ => none

def RoutesAction.deleter : RoutesAction → Option String
  | .deleteRead _ username _ => some username
  | _ => none

def Callers.observe (_ : World) (a : Action) (callers : Callers) : Callers :=
  match a with
  | .routes a =>
    { creates := callers.creates ++ a.creator.toList
      deletes := callers.deletes ++ a.deleter.toList }
  | .restart => {}
  | _ => callers

def attributed : World × Callers → Action → Option (World × Callers) :=
  withHistory World.step Callers.observe

/-- The user that the operation of an action is authenticated as. -/
def Action.user (callers : Callers) : Action → Option String
  | .routes (.createInsert username ..) | .routes (.deleteRead _ username _) => some username
  | .routes (.createLaunched n _) | .routes (.createFailed n _) | .routes (.createDropped n) =>
    callers.creates[n]?
  | .routes (.deleteUpdate n _) | .routes (.deleteStop n _) | .routes (.deleteInvalidate n)
  | .routes (.deleteDropped n) => callers.deletes[n]?
  | _ => none

/-- The token that the operation of an action is authenticated by, or that its dispatcher is
for. -/
def Action.token (w : World) : Action → Option String
  | .routes (.appCallback token ..) | .routes (.appCallbackDelete token ..) => some token
  | .proxy (.lookup r) | .proxy (.storeLookup r _) | .proxy (.lookupOrInsert r)
  | .proxy (.enqueue r) | .proxy (.requestDropped r) =>
    (w.proxy.requests[r]?).bind (·.phase.token)
  | .proxy (.receive d) | .proxy (.resolve d _) | .proxy (.connect d _) | .proxy (.markFailed d _)
  | .proxy (.send d _) | .proxy (.finish d) => w.proxy.tokenOf d
  | _ => none

/-- The row is not in the store any more as it was. -/
def Touched (w' : World) (r : Model) : Prop := w'.db.find r.id ≠ some r

/-- What never changes after the insertion. -/
structure SameIdentity (r r' : Model) : Prop where
  username : r'.username = r.username
  name : r'.name = r.name
  token : r'.token = r.token
  createdAt : r'.createdAt = r.createdAt

structure StepIsolated (callers : Callers) (w w' : World) (a : Action) : Prop where
  user : ∀ username ∈ a.user callers, ∀ r ∈ w.db.rows, Touched w' r → r.username = username
  inserted : ∀ username ∈ a.user callers, ∀ r' ∈ w'.db.rows, w.db.find r'.id = none →
    r'.username = username
  token : ∀ token ∈ a.token w, ∀ r ∈ w.db.rows, Touched w' r → r.token = token
  one : ∀ token ∈ a.token w, ∀ r ∈ w.db.rows, ∀ s ∈ w.db.rows, Touched w' r → Touched w' s → r = s
  applicationId : ∀ r ∈ w.db.rows, ∀ r' ∈ w'.db.rows, r'.id = r.id →
    r'.applicationId ≠ r.applicationId → ∃ address applicationId,
      a = .routes (.appCallback r.token address applicationId true) ∧
        r'.applicationId = some applicationId

/-- What the handlers answer with belongs to the user they answer. -/
structure AnswersOwn (callers : Callers) (w : World) : Prop where
  created : ∀ (n : Nat) app, w.routes.creates[n]? = some (CreateApp.answered (.ok app)) →
    callers.creates[n]? = some app.username
  got : ∀ config appId username stored info,
    getApp config w.db appId username stored = .ok info →
      ∃ r ∈ w.db.rows, r.username = username ∧ info = .ofModel config r
  listed : ∀ config username params stored infos,
    listApps config w.db username params stored = .ok infos →
      ∀ info ∈ infos, ∃ r ∈ w.db.rows, r.username = username ∧ info = .ofModel config r
  stopped : ∀ (n : Nat) appId username address token,
    w.routes.deletes[n]? = some (DeleteApp.read appId username address token) →
      callers.deletes[n]? = some username ∧
        ∀ r ∈ w.db.rows, r.token = token → r.username = username

/- One statement and one row. -/

theorem Statement.row_identity {st : Statement} {r r' : Model} (h : st.row r = some r') :
    SameIdentity r r' := by
  cases st <;> simp only [row, Option.some.injEq] at h <;> split at h <;> simp_all [set] <;>
    subst r' <;> constructor <;> rfl

/-- Only a registration writes an application id. -/
theorem Statement.row_application_id {st : Statement} {r r' : Model} (h : st.row r = some r')
    (changed : r'.applicationId ≠ r.applicationId) : ∃ address applicationId,
      st = .appCallback r.token address applicationId ∧ r'.applicationId = some applicationId := by
  cases st <;> simp only [row, Option.some.injEq] at h <;> split at h <;>
    simp_all [set, filter] <;> subst r' <;> simp_all

section
variable {w w' : World} {a : Action}

/-- A touched row is one that the statement of the step selects. -/
theorem touched_selected (h : w.step a = some w') {r : Model} (member : r ∈ w.db.rows)
    (touched : Touched w' r) : ∃ st, w.statement a = some st ∧ st.filter r = true := by
  have found := step_find h (Table.find_mem member)
  cases issued : w.statement a with
  | none => simp_all [Touched]
  | some st =>
    refine ⟨st, rfl, ?_⟩
    by_contra other
    rw [Bool.not_eq_true] at other
    rw [issued, Option.elim_some, Statement.row_unfiltered other] at found
    exact touched found

/-- What a step makes of the row with an id. -/
theorem row_step (h : w.step a = some w') {r r' : Model} (stored : r ∈ w.db.rows)
    (member : r' ∈ w'.db.rows) (same : r'.id = r.id) :
    r' = r ∨ ∃ st, w.statement a = some st ∧ st.row r = some r' := by
  have found := step_find h (Table.find_mem stored)
  have after : w'.db.find r.id = some r' := by
    rw [← same]
    exact Table.find_mem member
  rw [after] at found
  cases issued : w.statement a with
  | none =>
    rw [issued] at found
    exact Or.inl (Option.some.inj found)
  | some st =>
    rw [issued] at found
    exact Or.inr ⟨st, rfl, found.symm⟩

theorem same_identity_refl (r : Model) : SameIdentity r r := ⟨rfl, rfl, rfl, rfl⟩

theorem SameIdentity.trans {r s t : Model} (first : SameIdentity r s) (second : SameIdentity s t) :
    SameIdentity r t := by
  constructor
  · exact second.username.trans first.username
  · exact second.name.trans first.name
  · exact second.token.trans first.token
  · exact second.createdAt.trans first.createdAt

theorem identity_step (h : w.step a = some w') {r r' : Model} (stored : r ∈ w.db.rows)
    (member : r' ∈ w'.db.rows) (same : r'.id = r.id) : SameIdentity r r' := by
  rcases row_step h stored member same with rfl | ⟨st, _, row⟩
  · exact same_identity_refl r'
  · exact Statement.row_identity row

/-- A row after a step whose id was in use stems from a row with that id. -/
theorem used_id_step (h : w.step a = some w') {r' : Model} (member : r' ∈ w'.db.rows)
    (used : r'.id < w.db.next) : ∃ r ∈ w.db.rows, r.id = r'.id := by
  rcases step_row_origin h member with ⟨r, stored, same, _⟩ | ⟨_, last, _⟩
  · exact ⟨r, stored, same⟩
  · omega

/-- Rows with one id at two moments of a run are the same application. -/
theorem identity_kept {as : List Action} (run : exec World.step w as = some w') {r r' : Model}
    (stored : r ∈ w.db.rows) (member : r' ∈ w'.db.rows) (same : r'.id = r.id) :
    SameIdentity r r' := by
  let inv : World → Prop := fun v =>
    r.id < v.db.next ∧ ∀ s ∈ v.db.rows, s.id = r.id → SameIdentity r s
  have pres : Preserves World.step (fun _ _ => True) inv := by
    intro u b v before _ h
    refine ⟨Int.lt_of_lt_of_le before.1 (step_next h), fun s there eq => ?_⟩
    obtain ⟨old, there', eq'⟩ := used_id_step h there (eq ▸ before.1)
    have first := before.2 old there' (eq'.trans eq)
    exact first.trans (identity_step h there' there eq'.symm)
  have start : inv w := by
    refine ⟨w.db.below r stored, fun s there eq => ?_⟩
    rw [Table.same_key there stored eq]
    exact same_identity_refl r
  exact (invariant_run pres start along_true run).2 r' member same

end

/- The users of the calls. -/

/-- The row that a create call has inserted, as the call holds it. -/
def CreateApp.app : CreateApp → Option Model
  | .launching app | .launchFailed app | .answered (.ok app) => some app
  | _ => none

/-- Each call works for the user it was authenticated as. -/
structure Attributed (callers : Callers) (w : World) : Prop where
  createCalls : callers.creates.length = w.routes.creates.length
  creates : ∀ (n : Nat) (call : CreateApp) app, w.routes.creates[n]? = some call →
    call.app = some app →
    callers.creates[n]? = some app.username ∧ app.id < w.db.next ∧
      ∀ r ∈ w.db.rows, r.id = app.id → r.username = app.username
  deleteCalls : callers.deletes.length = w.routes.deletes.length
  deletes : ∀ (n : Nat) appId username address token,
    w.routes.deletes[n]? = some (DeleteApp.read appId username address token) →
      callers.deletes[n]? = some username

section
variable {db : Db} {s : Routes} {a : RoutesAction} {outcome : RoutesOutcome}

/-- A create call holds the row it held before, or has just inserted it. -/
theorem create_app_step (h : s.step db a = some outcome) {n : Nat} {call : CreateApp} {app : Model}
    (there : outcome.routes.creates[n]? = some call) (holds : call.app = some app) :
    (∃ old, s.creates[n]? = some old ∧ old.app = some app) ∨
      (n = s.creates.length ∧ ∃ username name token createdAt,
        a = .createInsert username name token createdAt true ∧
          app = Statement.newRow username name token createdAt db.next) := by
  have changed : ∀ k new, outcome.routes.creates = s.creates.set k new →
      (∀ app, new.app = some app → ∃ old, s.creates[k]? = some old ∧ old.app = some app) →
      ∃ old, s.creates[n]? = some old ∧ old.app = some app := by
    intro k new set from_old
    rw [set] at there
    rcases at_changed there with ⟨rfl, rfl⟩ | ⟨_, kept⟩
    · exact from_old app holds
    · exact ⟨call, kept, holds⟩
  cases routes_step h with
  | inserted username name token createdAt =>
    rcases at_spawned there with ⟨last, rfl⟩ | old
    · cases holds
      exact Or.inr ⟨last, username, name, token, createdAt, rfl, rfl⟩
    · exact Or.inl ⟨call, old, holds⟩
  | insertRefused username name token createdAt =>
    rcases at_spawned there with ⟨last, rfl⟩ | old
    · simp [CreateApp.app] at holds
    · exact Or.inl ⟨call, old, holds⟩
  | launched k kept at_k =>
    exact Or.inl (changed k _ rfl fun app same => ⟨_, at_k, same⟩)
  | launchFailed k kept at_k =>
    exact Or.inl (changed k _ rfl fun app same => ⟨_, at_k, same⟩)
  | createFailed k stored kept at_k =>
    exact Or.inl (changed k _ rfl (by simp [CreateApp.app]))
  | createDropped k => exact Or.inl (changed k _ rfl (by simp [CreateApp.app]))
  | _ => exact Or.inl ⟨call, there, holds⟩

/-- A delete call reads for the user it has arrived for. -/
theorem delete_read_step (h : s.step db a = some outcome) {n : Nat} {appId : Int}
    {username token : String} {address : Option String}
    (there : outcome.routes.deletes[n]? = some (.read appId username address token)) :
    s.deletes[n]? = some (.read appId username address token) ∨
      (n = s.deletes.length ∧ ∃ stored, a = .deleteRead appId username stored) := by
  have changed : ∀ k new, outcome.routes.deletes = s.deletes.set k new →
      new ≠ .read appId username address token →
      s.deletes[n]? = some (.read appId username address token) := by
    intro k new set other
    rw [set] at there
    rcases at_changed there with ⟨_, same⟩ | ⟨_, kept⟩
    · exact absurd same.symm other
    · exact kept
  cases routes_step h with
  | read id user stored =>
    rcases at_spawned there with ⟨last, same⟩ | old
    · refine Or.inr ⟨last, stored, ?_⟩
      unfold DeleteApp.afterRead at same
      split at same
      · split at same
        · cases same
          rfl
        · simp at same
      · simp at same
    · exact Or.inl old
  | marked k id user found token' at_k =>
    refine Or.inl (changed k _ rfl ?_)
    cases found <;> simp [DeleteApp.afterUpdate]
  | updateRefused k => exact Or.inl (changed k _ rfl (by simp))
  | stopped k delivered found token' at_k => exact Or.inl (changed k _ rfl (by simp))
  | invalidated k token' result at_k => exact Or.inl (changed k _ rfl (by simp))
  | dropped k => exact Or.inl (changed k _ rfl (by simp))
  | _ => exact Or.inl there

theorem creates_length (h : s.step db a = some outcome) :
    outcome.routes.creates.length = s.creates.length + a.creator.toList.length := by
  cases routes_step h <;> simp [RoutesAction.creator]

theorem deletes_length (h : s.step db a = some outcome) :
    outcome.routes.deletes.length = s.deletes.length + a.deleter.toList.length := by
  cases routes_step h <;> simp [RoutesAction.deleter]

end

section
variable {w w' : World} {callers callers' : Callers} {a : Action}

/-- The rows of a call keep their user in every step. -/
theorem create_rows_step (h : w.step a = some w') {app : Model} (bound : app.id < w.db.next)
    (rows : ∀ r ∈ w.db.rows, r.id = app.id → r.username = app.username) :
    app.id < w'.db.next ∧ ∀ r ∈ w'.db.rows, r.id = app.id → r.username = app.username := by
  refine ⟨Int.lt_of_lt_of_le bound (step_next h), fun r' member same => ?_⟩
  obtain ⟨r, stored, eq⟩ := used_id_step h member (same ▸ bound)
  rw [(identity_step h stored member eq.symm).username]
  exact rows r stored (eq.trans same)

/-- The row that an insert has added is the only one with its id. -/
theorem inserted_rows {username token : String} {name : Option String} {createdAt : DateTimeUtc}
    (h : w.step (.routes (.createInsert username name token createdAt true)) = some w') :
    w.db.next < w'.db.next ∧ ∀ r ∈ w'.db.rows, w.db.next ≤ r.id → r.username = username := by
  cases h
  constructor
  · simp only [Db.execOption, Option.map_some, Option.getD_some, Db.exec, Table.insert]
    omega
  · intro r member later
    have member : r ∈ (w.db.exec (.createInsert username name token createdAt)).rows := member
    rcases mem_exec member with ⟨old, stored, kept⟩ | ⟨_, _, _, _, same, rfl⟩
    · have below := w.db.below old stored
      rw [Statement.row_id kept] at later
      omega
    · cases same
      rfl

/-- A step that leaves the calls alone leaves them attributed. -/
theorem attributed_kept (before : Attributed callers w) (run : w.step a = some w')
    (same : w'.routes = w.routes) : Attributed callers w' := by
  constructor
  · rw [same]
    exact before.createCalls
  · intro n call app there holds
    rw [same] at there
    obtain ⟨user, bound, rows⟩ := before.creates n call app there holds
    exact ⟨user, create_rows_step run bound rows⟩
  · rw [same]
    exact before.deleteCalls
  · rw [same]
    exact before.deletes

theorem attributed_step (before : Attributed callers w)
    (h : attributed (w, callers) a = some (w', callers')) : Attributed callers' w' := by
  obtain ⟨run, rfl⟩ := with_history_step.mp h
  cases a with
  | routes act =>
    obtain ⟨outcome, step, rfl⟩ := Option.map_eq_some_iff.mp run
    constructor
    · simp [Callers.observe, creates_length step, before.createCalls]
    · intro n call app there holds
      rcases create_app_step step there holds with ⟨old, at_n, kept⟩ | ⟨last, new⟩
      · obtain ⟨user, bound, rows⟩ := before.creates n old app at_n kept
        refine ⟨?_, create_rows_step run bound rows⟩
        exact List.getElem?_append_left (List.getElem?_eq_some_iff.mp user).1 ▸ user
      · obtain ⟨username, name, token, createdAt, rfl, rfl⟩ := new
        have added := inserted_rows run
        refine ⟨?_, added.1, fun r member same => added.2 r member (Int.le_of_eq same.symm)⟩
        simp [Callers.observe, RoutesAction.creator, last, before.createCalls, Statement.newRow]
    · simp [Callers.observe, deletes_length step, before.deleteCalls]
    · intro n appId username address token there
      rcases delete_read_step step there with old | ⟨last, stored, rfl⟩
      · have user := before.deletes n appId username address token old
        exact List.getElem?_append_left (List.getElem?_eq_some_iff.mp user).1 ▸ user
      · simp [Callers.observe, RoutesAction.deleter, last, before.deleteCalls]
  | restart =>
    cases run
    constructor <;> simp [Callers.observe]
  | check act =>
    have same : w'.routes = w.routes := by
      obtain ⟨outcome, _, rfl⟩ := Option.map_eq_some_iff.mp run
      rfl
    exact attributed_kept before run same
  | proxy act =>
    have same : w'.routes = w.routes := by
      obtain ⟨outcome, _, rfl⟩ := Option.map_eq_some_iff.mp run
      rfl
    exact attributed_kept before run same

theorem touched_user (before : Attributed callers w) (h : w.step a = some w') {username : String}
    (user : a.user callers = some username) {r : Model} (member : r ∈ w.db.rows)
    (touched : Touched w' r) : r.username = username := by
  obtain ⟨st, issued, selected⟩ := touched_selected h member touched
  cases issued_by issued with
  | createInsert username' name token createdAt => simp [Statement.filter] at selected
  | createFailed n app at_n =>
    obtain ⟨caller, _, rows⟩ := before.creates n _ app at_n rfl
    simp only [Statement.filter, decide_eq_true_eq] at selected
    rw [rows r member selected]
    exact Option.some.inj (caller.symm.trans user)
  | deleteApp n appId reader address token at_n =>
    have caller := before.deletes n _ _ _ _ at_n
    simp only [Statement.filter, Bool.and_eq_true, decide_eq_true_eq] at selected
    rw [selected.2]
    exact Option.some.inj (caller.symm.trans user)
  | _ => simp [Action.user] at user

theorem touched_token (h : w.step a = some w') {token : String} (auth : a.token w = some token)
    {r : Model} (member : r ∈ w.db.rows) (touched : Touched w' r) : r.token = token := by
  obtain ⟨st, issued, selected⟩ := touched_selected h member touched
  cases issued_by issued with
  | appCallback token' address applicationId =>
    simp only [Statement.filter, decide_eq_true_eq] at selected
    exact selected.trans (Option.some.inj auth)
  | appCallbackDelete token' sender =>
    simp only [Statement.filter, decide_eq_true_eq] at selected
    exact selected.trans (Option.some.inj auth)
  | markApplicationFailed d disp msg address lastError at_d phase =>
    simp only [Statement.filter, decide_eq_true_eq] at selected
    simp only [Action.token, Proxy.tokenOf, at_d, Option.map_some, Option.some.injEq] at auth
    exact selected.trans auth
  | _ => simp [Action.token] at auth

/-- Only an insert adds a row, and it is a row of the user who creates it. -/
theorem new_row_user (h : w.step a = some w') {username : String}
    (user : a.user callers = some username) {r' : Model} (member : r' ∈ w'.db.rows)
    (new : w.db.find r'.id = none) : r'.username = username := by
  rcases step_row_origin h member with ⟨r, stored, same, _⟩ | ⟨drawn, last, _⟩
  · exact absurd same (Table.find_none_iff.mp new r stored)
  · cases a with
    | routes act =>
      cases act with
      | createInsert creator name token createdAt stored =>
        cases stored with
        | true =>
          obtain rfl := Option.some.inj user
          exact (inserted_rows h).2 r' member (Int.le_of_eq last.symm)
        | false =>
          cases h
          exact absurd rfl (Table.find_none_iff.mp new r' member)
      | _ => simp [Action.newToken] at drawn
    | _ => simp [Action.newToken] at drawn

theorem step_isolated (named : Named w) (before : Attributed callers w)
    (h : w.step a = some w') : StepIsolated callers w w' a := by
  constructor
  · intro username user r member touched
    exact touched_user before h user member touched
  · intro username user r' member new
    exact new_row_user h user member new
  · intro token auth r member touched
    exact touched_token h auth member touched
  · intro token auth r member s member' touched touched'
    have left := touched_token h auth member touched
    have right := touched_token h auth member' touched'
    exact Table.same_key member member' (named.distinct r member s member' (left.trans right.symm))
  · intro r stored r' member same changed
    rcases row_step h stored member same with rfl | ⟨st, issued, row⟩
    · exact absurd rfl changed
    · obtain ⟨address, applicationId, rfl, written⟩ := Statement.row_application_id row changed
      exact ⟨address, applicationId, statement_registration issued, written⟩

theorem got_own {config : ProxyConfig} {db : Db} {appId : Int} {username : String} {stored : Bool}
    {info : ApplicationInfo} (h : getApp config db appId username stored = .ok info) :
    ∃ r ∈ db.rows, r.username = username ∧ info = .ofModel config r := by
  unfold getApp at h
  split at h
  · split at h
    · rename_i app found
      obtain ⟨member, owner⟩ := Table.first_some found
      simp only [Bool.and_eq_true, decide_eq_true_eq] at owner
      cases h
      exact ⟨app, member, owner.1, rfl⟩
    · simp at h
  · simp at h

theorem listed_own {config : ProxyConfig} {db : Db} {username : String}
    {params : ListApplicationsRequest} {stored : Bool} {infos : List ApplicationInfo}
    (h : listApps config db username params stored = .ok infos) :
    ∀ info ∈ infos, ∃ r ∈ db.rows, r.username = username ∧ info = .ofModel config r := by
  unfold listApps at h
  split at h
  · simp at h
  · split at h
    · cases h
      intro info listed
      obtain ⟨r, selected, rfl⟩ := List.mem_map.mp listed
      obtain ⟨member, matching⟩ := List.mem_filter.mp selected
      simp only [listFilter, Bool.and_eq_true, decide_eq_true_eq] at matching
      exact ⟨r, member, matching.1.1.1, rfl⟩
    · simp at h

theorem answers_own (named : Named w) (before : Attributed callers w) : AnswersOwn callers w := by
  constructor
  · intro n app answered
    exact (before.creates n _ app answered rfl).1
  · intro config appId username stored info h
    exact got_own h
  · intro config username params stored infos h
    exact listed_own h
  · intro n appId username address token there
    refine ⟨before.deletes n appId username address token there, fun r member same => ?_⟩
    exact ((named.reads appId username address token (List.mem_of_getElem? there)).2
      r member same).2

end

theorem isolated_run {as : List Action} {w : World} {callers : Callers}
    (fresh : Along attributed (fun s a => DrawsFresh s.1 a) (.start .new, {}) as)
    (run : exec attributed (.start .new, {}) as = some (w, callers)) :
    Named w ∧ Attributed callers w := by
  have pres : Preserves attributed (fun s a => DrawsFresh s.1 a)
      (fun s => Named s.1 ∧ Attributed s.2 s.1) := by
    intro s a s' before fresh h
    exact ⟨named_step before.1 fresh (with_history_step.mp h).1, attributed_step before.2 h⟩
  have start : Named (.start .new) ∧ Attributed {} (.start .new) := by
    constructor <;> constructor <;> simp [World.start, Db.new, Table.empty, TokensDistinct]
  exact invariant_run pres start fresh run

/-- In every run in which no token is drawn twice: no two rows share a token, every answer
belongs to the user it is given to, every step touches rows of its own user or its own
token only, and rows keep their identity. -/
theorem users_and_tokens_isolated {as : List Action} {w : World} {callers : Callers}
    (fresh : Along attributed (fun s a => DrawsFresh s.1 a) (.start .new, {}) as)
    (run : exec attributed (.start .new, {}) as = some (w, callers)) :
    TokensDistinct w.db ∧ AnswersOwn callers w ∧
    (∀ a w', w.step a = some w' → StepIsolated callers w w' a) ∧
    ∀ bs v, exec World.step w bs = some v → ∀ r ∈ w.db.rows, ∀ r' ∈ v.db.rows, r'.id = r.id →
      SameIdentity r r' := by
  obtain ⟨named, attr⟩ := isolated_run fresh run
  refine ⟨named.distinct, answers_own named attr, ?_, ?_⟩
  · intro a w' h
    exact step_isolated named attr h
  · intro bs v later r stored r' member same
    exact identity_kept later stored member same

/-- Two users, and a delete of each other's application that finds nothing. -/
def twoUsersRun : List Action :=
  [.routes (.createInsert "alice" none "token-a" 0 true),
   .routes (.createInsert "bob" none "token-b" 0 true),
   .routes (.createLaunched 0 true),
   .routes (.appCallback "token-a" "10.0.0.1:15002" "app-1" true),
   .routes (.deleteRead 1 "bob" true), .routes (.deleteRead 2 "bob" true)]

theorem two_users_isolated : ∃ w callers,
    exec attributed (.start .new, {}) twoUsersRun = some (w, callers) ∧
    callers = { creates := ["alice", "bob"], deletes := ["bob", "bob"] } ∧
    w.routes.deletes = [.answered (.error .notFound), .read 2 "bob" none "token-b"] ∧
    TokensDistinct w.db ∧
    ∀ w', w.step (.routes (.deleteUpdate 1 true)) = some w' → ∀ r ∈ w.db.rows, Touched w' r →
      r.username = "bob" := by
  have computed : (exec attributed (.start .new, {}) twoUsersRun).any (fun s =>
      s.2 = { creates := ["alice", "bob"], deletes := ["bob", "bob"] } &&
      s.1.routes.deletes = [.answered (.error .notFound), .read 2 "bob" none "token-b"]) =
        true := by decide
  obtain ⟨⟨w, callers⟩, run, facts⟩ := computed_run computed
  simp only [Bool.and_eq_true, decide_eq_true_eq] at facts
  have isolated := users_and_tokens_isolated (by decide) run
  refine ⟨w, callers, run, facts.1, facts.2, isolated.1, fun w' h r member touched => ?_⟩
  exact (isolated.2.2.1 _ w' h).user "bob" (by simp [Action.user, facts.1]) r member touched

end SparkPlug
