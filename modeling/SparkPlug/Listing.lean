import SparkPlug.Routes

/-!
What a listing shows. The state filter is a text of names with a comma between them; a
text without a name asks for every state.
-/
namespace SparkPlug
open KeyedTable Text

def segments (state : Option String) : List String := state.elim [] (split ',')

/-- A segment that is neither blank nor the stored name of a state. -/
def Unknown (segment : String) : Prop :=
  trim segment ≠ "" ∧ ∀ state : State, trim segment ≠ state.toValue

/-- One of the segments is the name of the state. -/
def Selects (filters : Option String) (state : State) : Prop :=
  ∃ segment ∈ segments filters, trim segment = state.toValue

/-- What a row has to meet to be listed. -/
structure Asked (username : String) (params : ListApplicationsRequest) (r : Model) : Prop where
  owner : r.username = username
  state : Selects params.state r.state ∨ ∀ segment ∈ segments params.state, trim segment = ""
  after : ∀ bound ∈ params.createdAtAfter, bound ≤ r.createdAt
  before : ∀ bound ∈ params.createdAtBefore, r.createdAt ≤ bound

structure ListLaw (config : ProxyConfig) (db : Db) (username : String)
    (params : ListApplicationsRequest) (stored : Bool) : Prop where
  refused : listApps config db username params stored = .error .badRequest ↔
    ∃ segment ∈ segments params.state, Unknown segment
  unread : (∃ segment ∈ segments params.state, Unknown segment) →
    ∀ db' stored', listApps config db' username params stored' = .error .badRequest
  failed : (∀ segment ∈ segments params.state, ¬ Unknown segment) → stored = false →
    listApps config db username params stored = .error .internalServerError
  listed : (∀ segment ∈ segments params.state, ¬ Unknown segment) → stored = true →
    ∃ rows : List Model,
      listApps config db username params stored = .ok (rows.map (.ofModel config)) ∧
      (rows.map (·.id)).Nodup ∧ (∀ r, r ∈ rows ↔ r ∈ db.rows ∧ Asked username params r) ∧
      ∀ r ∈ rows, getApp config db r.id username true = .ok (.ofModel config r)

/- The parser of the state filter. -/

theorem try_from_value_some {value : String} {state : State} :
    State.tryFromValue value = some state ↔ state.toValue = value := by
  constructor
  · intro found
    have hit := List.find?_some found
    exact of_decide_eq_true hit
  · rintro rfl
    cases state <;> rfl

theorem try_from_value_none {value : String} :
    State.tryFromValue value = none ↔ ∀ state : State, value ≠ state.toValue := by
  constructor
  · rintro absent state rfl
    rw [try_from_value_some.mpr rfl] at absent
    cases absent
  · intro unknown
    cases found : State.tryFromValue value with
    | none => rfl
    | some state => exact absurd (try_from_value_some.mp found).symm (unknown state)

theorem value_filled (state : State) : state.toValue ≠ "" := by
  cases state <;> decide

/-- The parser refuses exactly the unknown segments. -/
theorem parse_states_none {filters : List String} :
    parseStates filters = none ↔ ∃ segment ∈ filters, Unknown segment := by
  induction filters with
  | nil => simp [parseStates]
  | cons segment rest ih =>
    unfold parseStates
    by_cases blank : trim segment = ""
    · simp [blank, Unknown, ih]
    · cases known : State.tryFromValue (trim segment) with
      | none =>
        have unknown : Unknown segment := ⟨blank, try_from_value_none.mp known⟩
        simp [blank, known, unknown]
      | some state =>
        have named : ¬ Unknown segment := by
          intro unknown
          exact unknown.2 state (try_from_value_some.mp known).symm
        simp [blank, known, named, ih]

/-- What it collects are the states that are named. -/
theorem parse_states_some {filters : List String} {states : List State}
    (parsed : parseStates filters = some states) (state : State) :
    state ∈ states ↔ ∃ segment ∈ filters, trim segment = state.toValue := by
  induction filters generalizing states with
  | nil =>
    cases parsed
    simp
  | cons segment rest ih =>
    unfold parseStates at parsed
    by_cases blank : trim segment = ""
    · rw [if_pos (by simp [blank])] at parsed
      rw [ih parsed]
      have other := (value_filled state).symm
      simp [blank, other]
    · rw [if_neg (by simp [blank])] at parsed
      obtain ⟨first, known, later⟩ := Option.bind_eq_some_iff.mp parsed
      obtain ⟨others, collected, rfl⟩ := Option.map_eq_some_iff.mp later
      have here : state = first ↔ trim segment = state.toValue := by
        constructor
        · rintro rfl
          exact (try_from_value_some.mp known).symm
        · intro name
          rw [try_from_value_some.mpr name.symm] at known
          exact Option.some.inj known
      simp only [List.mem_cons, ih collected, here, exists_eq_or_imp]

/-- It collects nothing exactly from blank segments. -/
theorem parse_states_blank {filters : List String} {states : List State}
    (parsed : parseStates filters = some states) :
    states = [] ↔ ∀ segment ∈ filters, trim segment = "" := by
  induction filters generalizing states with
  | nil =>
    cases parsed
    simp
  | cons segment rest ih =>
    unfold parseStates at parsed
    by_cases blank : trim segment = ""
    · rw [if_pos (by simp [blank])] at parsed
      simp [ih parsed, blank]
    · rw [if_neg (by simp [blank])] at parsed
      obtain ⟨first, _, later⟩ := Option.bind_eq_some_iff.mp parsed
      obtain ⟨others, _, rfl⟩ := Option.map_eq_some_iff.mp later
      simp [blank]

theorem segments_parsed (filters : Option String) :
    filters.elim (some []) (fun filters => parseStates (split ',' filters)) =
      parseStates (segments filters) := by
  cases filters <;> rfl

/- The rows. -/

theorem list_filter_asked {username : String} {params : ListApplicationsRequest}
    {states : List State} (parsed : parseStates (segments params.state) = some states) (r : Model) :
    listFilter username states params r = true ↔ Asked username params r := by
  have named := parse_states_some parsed
  have chosen : (states = [] ∨ r.state ∈ states) ↔
      (Selects params.state r.state ∨ ∀ segment ∈ segments params.state, trim segment = "") := by
    rw [parse_states_blank parsed, named r.state, or_comm]
    rfl
  have after : params.createdAtAfter.all (fun bound => bound ≤ r.createdAt) = true ↔
      ∀ bound ∈ params.createdAtAfter, bound ≤ r.createdAt := by
    cases params.createdAtAfter <;> simp
  have before : params.createdAtBefore.all (fun bound => r.createdAt ≤ bound) = true ↔
      ∀ bound ∈ params.createdAtBefore, r.createdAt ≤ bound := by
    cases params.createdAtBefore <;> simp
  simp only [listFilter, Bool.and_eq_true, decide_eq_true_eq, Bool.or_eq_true, List.isEmpty_iff,
    chosen, after, before]
  constructor
  · rintro ⟨⟨⟨owner, state⟩, after⟩, before⟩
    exact ⟨owner, state, after, before⟩
  · intro asked
    exact ⟨⟨⟨asked.owner, asked.state⟩, asked.after⟩, asked.before⟩

/-- A user gets each of its rows by its id. -/
theorem get_app_stored {db : Db} {r : Model} (config : ProxyConfig) (stored : r ∈ db.rows) :
    getApp config db r.id r.username true = .ok (.ofModel config r) := by
  have found : (db.first fun row => row.username = r.username && row.id = r.id) = some r := by
    cases first : db.first fun row => row.username = r.username && row.id = r.id with
    | none =>
      have absent := List.find?_eq_none.mp first r stored
      simp at absent
    | some other =>
      obtain ⟨member, hit⟩ := Table.first_some first
      simp only [Bool.and_eq_true, decide_eq_true_eq] at hit
      rw [Table.same_key member stored hit.2]
  simp [getApp, found]

/-- A listing is refused exactly for an unknown segment; otherwise it shows every row that
is asked for, once and as the row is shown by itself. -/
theorem list_apps_law (config : ProxyConfig) (db : Db) (username : String)
    (params : ListApplicationsRequest) (stored : Bool) :
    ListLaw config db username params stored := by
  have unread : (∃ segment ∈ segments params.state, Unknown segment) → ∀ db' stored',
      listApps config db' username params stored' = .error .badRequest := by
    intro unknown db' stored'
    unfold listApps
    rw [segments_parsed, parse_states_none.mpr unknown]
  have read : (∀ segment ∈ segments params.state, ¬ Unknown segment) →
      ∃ states, parseStates (segments params.state) = some states := by
    intro known
    cases parsed : parseStates (segments params.state) with
    | some states => exact ⟨states, rfl⟩
    | none =>
      obtain ⟨segment, member, unknown⟩ := parse_states_none.mp parsed
      exact absurd unknown (known segment member)
  constructor
  · constructor
    · intro refused
      by_contra known
      obtain ⟨states, parsed⟩ := read fun segment member unknown => known ⟨segment, member, unknown⟩
      unfold listApps at refused
      rw [segments_parsed, parsed] at refused
      cases stored with
      | true => simp at refused
      | false => simp at refused
    · intro unknown
      exact unread unknown db stored
  · exact unread
  · rintro known rfl
    obtain ⟨states, parsed⟩ := read known
    unfold listApps
    rw [segments_parsed, parsed]
    rfl
  · rintro known rfl
    obtain ⟨states, parsed⟩ := read known
    have shown : ∀ r, r ∈ db.select (listFilter username states params) ↔
        r ∈ db.rows ∧ Asked username params r := by
      intro r
      rw [Table.select, List.mem_filter, list_filter_asked parsed]
    refine ⟨db.select (listFilter username states params), ?_, ?_, shown, ?_⟩
    · unfold listApps
      rw [segments_parsed, parsed]
      rfl
    · exact (List.filter_sublist.map _).nodup db.distinct
    · intro r member
      obtain ⟨row, asked⟩ := (shown r).mp member
      rw [← asked.owner]
      exact get_app_stored config row

end SparkPlug
