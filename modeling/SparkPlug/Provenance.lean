import SparkPlug.ClusterRouting

/-!
Where the contents of the store and the traffic of a cluster come from. Whatever a row
says goes back to the first action of some call that a server has taken.
-/
namespace SparkPlug
open KeyedTable Runs Shared

/-- Some server has taken the action. -/
def Taken (ms : List (Move Action)) (a : Action) : Prop := ∃ i, .act i a ∈ ms

/-- The calls that a row goes back to. -/
structure Grounded (ms : List (Move Action)) (r : Model) : Prop where
  created : Taken ms (.routes (.createInsert r.username r.name r.token r.createdAt true))
  address : ∀ address, r.address = some address → ∃ applicationId,
    Taken ms (.routes (.appCallback r.token address applicationId true))
  applicationId : ∀ applicationId, r.applicationId = some applicationId → ∃ address,
    Taken ms (.routes (.appCallback r.token address applicationId true))
  running : r.state = .running → ∃ address applicationId,
    Taken ms (.routes (.appCallback r.token address applicationId true))
  finished : r.state = .finished →
    (∃ stored, Taken ms (.routes (.deleteRead r.id r.username stored))) ∨
      ∃ sender, Taken ms (.routes (.appCallbackDelete r.token sender true))

/-- The requests of a server that its pending work goes back to. -/
structure ProcessGrounded (ms : List (Move Action)) (i : Nat) (process : Process) : Prop where
  deletes : ∀ (n : Nat) appId username address token,
    process.routes.deletes[n]? = some (.read appId username address token) →
      ∃ stored, .act i (.routes (.deleteRead appId username stored)) ∈ ms
  requests : ∀ (r : Nat) task, process.proxy.requests[r]? = some task →
    .act i (.proxy (.arrive task.req)) ∈ ms
  messages : ∀ (d : Nat) disp, process.proxy.dispatchers[d]? = some disp →
    ∀ msg ∈ disp.messages, .act i (.proxy (.arrive msg.req)) ∈ ms
  sent : ∀ f ∈ process.proxy.sent, .act i (.proxy (.arrive f.req)) ∈ ms

/- What is grounded stays grounded. -/

theorem taken_later {ms : List (Move Action)} {a : Action} (m : Move Action) (taken : Taken ms a) :
    Taken (ms ++ [m]) a := by
  obtain ⟨i, member⟩ := taken
  exact ⟨i, List.mem_append_left _ member⟩

theorem taken_now (ms : List (Move Action)) (i : Nat) (a : Action) : Taken (ms ++ [.act i a]) a :=
  ⟨i, List.mem_append_right _ List.mem_cons_self⟩

theorem grounded_later {ms : List (Move Action)} {r : Model} (m : Move Action)
    (before : Grounded ms r) : Grounded (ms ++ [m]) r := by
  constructor
  · exact taken_later m before.created
  · intro address has
    obtain ⟨applicationId, taken⟩ := before.address address has
    exact ⟨applicationId, taken_later m taken⟩
  · intro applicationId has
    obtain ⟨address, taken⟩ := before.applicationId applicationId has
    exact ⟨address, taken_later m taken⟩
  · intro running
    obtain ⟨address, applicationId, taken⟩ := before.running running
    exact ⟨address, applicationId, taken_later m taken⟩
  · intro finished
    rcases before.finished finished with ⟨stored, taken⟩ | ⟨sender, taken⟩
    · exact Or.inl ⟨stored, taken_later m taken⟩
    · exact Or.inr ⟨sender, taken_later m taken⟩

theorem process_grounded_later {ms : List (Move Action)} {i : Nat} {process : Process}
    (m : Move Action) (before : ProcessGrounded ms i process) :
    ProcessGrounded (ms ++ [m]) i process := by
  constructor
  · intro n appId username address token there
    obtain ⟨stored, member⟩ := before.deletes n appId username address token there
    exact ⟨stored, List.mem_append_left _ member⟩
  · intro r task there
    exact List.mem_append_left _ (before.requests r task there)
  · intro d disp there msg queued
    exact List.mem_append_left _ (before.messages d disp there msg queued)
  · intro f forwarded
    exact List.mem_append_left _ (before.sent f forwarded)

theorem process_grounded_fresh (ms : List (Move Action)) (i : Nat) :
    ProcessGrounded ms i {} := by
  constructor <;> simp

/- One step. -/

/-- What a statement leaves of a row: the row, or what its SET clause makes of it. -/
theorem Statement.row_set {st : Statement} {r r' : Model} (h : st.row r = some r') :
    r' = r ∨ (st.filter r = true ∧ r' = st.set r) := by
  cases selected : st.filter r with
  | false =>
    rw [Statement.row_unfiltered selected] at h
    exact Or.inl (Option.some.inj h).symm
  | true => cases st <;> simp_all [Statement.row]

section
variable {ms : List (Move Action)} {i : Nat} {g g' : Store} {process process' : Process}
  {a : Action}

/-- An update leaves a row grounded: a registration in itself, an end in the call that has
asked for it, and a failure takes away what it does not keep. -/
theorem updated_grounded (calls : ProcessGrounded ms i process) {st : Statement}
    (issued : Issued (World.view g process) a st) {r : Model} (before : Grounded ms r)
    (selected : st.filter r = true) : Grounded (ms ++ [.act i a]) (st.set r) := by
  have later := grounded_later (.act i a) before
  cases issued with
  | createInsert => simp [Statement.filter] at selected
  | createFailed n app at_n =>
    exact ⟨later.created, later.address, later.applicationId, by simp [Statement.set],
      by simp [Statement.set]⟩
  | watcherFailed id live =>
    exact ⟨later.created, later.address, later.applicationId, by simp [Statement.set],
      by simp [Statement.set]⟩
  | appCallback token address applicationId =>
    have mine : r.token = token := of_decide_eq_true selected
    subst mine
    have now := taken_now ms i (.routes (.appCallback r.token address applicationId true))
    constructor
    · exact later.created
    · intro other has
      obtain rfl := Option.some.inj has
      exact ⟨applicationId, now⟩
    · intro other has
      obtain rfl := Option.some.inj has
      exact ⟨address, now⟩
    · intro _
      exact ⟨address, applicationId, now⟩
    · simp [Statement.set]
  | appCallbackDelete token sender =>
    have mine : r.token = token := of_decide_eq_true selected
    subst mine
    have now := taken_now ms i (.routes (.appCallbackDelete r.token sender true))
    exact ⟨later.created, by simp [Statement.set], later.applicationId, by simp [Statement.set],
      fun _ => Or.inr ⟨sender, now⟩⟩
  | deleteApp n appId username address token at_n =>
    obtain ⟨stored, asked⟩ := calls.deletes n appId username address token at_n
    simp only [Statement.filter, Bool.and_eq_true, decide_eq_true_eq] at selected
    obtain ⟨rfl, rfl⟩ := selected
    exact ⟨later.created, by simp [Statement.set], later.applicationId, by simp [Statement.set],
      fun _ => Or.inl ⟨stored, taken_later _ ⟨i, asked⟩⟩⟩
  | checkFailed n app rest at_n =>
    exact ⟨later.created, by simp [Statement.set], later.applicationId, by simp [Statement.set],
      by simp [Statement.set]⟩
  | prune cutoff => exact later
  | markApplicationFailed d disp msg address lastError at_d phase =>
    exact ⟨later.created, by simp [Statement.set], later.applicationId, by simp [Statement.set],
      by simp [Statement.set]⟩

theorem rows_grounded_step (calls : ProcessGrounded ms i process)
    (before : ∀ r ∈ g.db.rows, Grounded ms r)
    (h : (World.view g process).step a = some (World.view g' process')) :
    ∀ r ∈ g'.db.rows, Grounded (ms ++ [.act i a]) r := by
  intro r' member
  rcases step_rows h member with ⟨_, old⟩ | ⟨st, issued, ⟨r, stored, kept⟩ | new⟩
  · exact grounded_later _ (before r' old)
  · rcases Statement.row_set kept with rfl | ⟨selected, rfl⟩
    · exact grounded_later _ (before r' stored)
    · exact updated_grounded calls (issued_by issued) (before r stored) selected
  · obtain ⟨username, name, token, createdAt, rfl, rfl⟩ := new
    obtain rfl := statement_insert issued
    exact ⟨taken_now ms i _, by simp [Statement.newRow], by simp [Statement.newRow],
      by simp [Statement.newRow], by simp [Statement.newRow]⟩

theorem proxy_grounded_step {db : Db} {act : ProxyAction} {outcome : ProxyOutcome}
    (before : ProcessGrounded ms i process) (h : process.proxy.step db act = some outcome) :
    ProcessGrounded (ms ++ [.act i (.proxy act)]) i { process with proxy := outcome.proxy } := by
  have later := process_grounded_later (.act i (.proxy act)) before
  constructor
  · exact later.deletes
  · intro r task there
    rcases step_request h there with old | ⟨_, rfl, _⟩ | ⟨task', old, same, _⟩
    · exact later.requests r task old
    · exact List.mem_append_right _ List.mem_cons_self
    · rw [same]
      exact later.requests r task' old
  · intro d disp' there msg queued
    rcases dispatcher_origin h there with old | ⟨_, _, _, _, _, _, _, rfl⟩ | ⟨disp, old, move⟩
    · exact later.messages d disp' old msg queued
    · simp [Dispatcher.messages, DispatcherPhase.message] at queued
    · rcases message_move move queued with was | ⟨r, req, token, rfl, holding, rfl⟩
      · exact later.messages d disp old msg was
      · exact later.requests r _ holding
  · intro f member
    rcases step_sent h with ⟨same, _⟩ | ⟨d, disp, msg, address, _, at_d, phase, _, sent, _⟩
    · exact later.sent f (same ▸ member)
    · have forwarded : f ∈ outcome.proxy.sent := member
      rw [sent] at forwarded
      rcases List.mem_append.mp forwarded with earlier | new
      · exact later.sent f earlier
      · obtain rfl := List.mem_singleton.mp new
        have handled : msg ∈ disp.messages := by
          simp [Dispatcher.messages, DispatcherPhase.message, phase]
        exact later.messages d disp at_d msg handled

theorem process_grounded_step (before : ProcessGrounded ms i process)
    (h : (World.view g process).step a = some (World.view g' process')) :
    ProcessGrounded (ms ++ [.act i a]) i process' := by
  have later := process_grounded_later (.act i a) before
  cases a with
  | routes act =>
    obtain ⟨outcome, run, same⟩ := Option.map_eq_some_iff.mp h
    have routes : outcome.routes = process'.routes := congrArg World.routes same
    have proxy : World.invalidate process.proxy outcome.invalidate = process'.proxy :=
      congrArg World.proxy same
    have deletes : ∀ (n : Nat) appId username address token,
        outcome.routes.deletes[n]? = some (.read appId username address token) →
          ∃ stored, .act i (.routes (.deleteRead appId username stored)) ∈
            ms ++ [.act i (.routes act)] := by
      intro n appId username address token there
      rcases delete_read_step run there with old | ⟨_, stored, rfl⟩
      · exact later.deletes n appId username address token old
      · exact ⟨stored, List.mem_append_right _ List.mem_cons_self⟩
    refine ⟨routes ▸ deletes, ?_, ?_, ?_⟩
    · cases removed : outcome.invalidate <;> rw [← proxy, removed] <;> exact later.requests
    · cases removed : outcome.invalidate <;> rw [← proxy, removed] <;> exact later.messages
    · cases removed : outcome.invalidate <;> rw [← proxy, removed] <;> exact later.sent
  | check act =>
    obtain ⟨outcome, _, same⟩ := Option.map_eq_some_iff.mp h
    have routes : process.routes = process'.routes := congrArg World.routes same
    have proxy : process.proxy = process'.proxy := congrArg World.proxy same
    exact ⟨routes ▸ later.deletes, proxy ▸ later.requests, proxy ▸ later.messages,
      proxy ▸ later.sent⟩
  | proxy act =>
    obtain ⟨outcome, run, same⟩ := Option.map_eq_some_iff.mp h
    have routes : process.routes = process'.routes := congrArg World.routes same
    have proxy : outcome.proxy = process'.proxy := congrArg World.proxy same
    have moved := proxy_grounded_step before run
    exact ⟨routes ▸ moved.deletes, proxy ▸ moved.requests, proxy ▸ moved.messages,
      proxy ▸ moved.sent⟩
  | restart =>
    have routes : {} = process'.routes := congrArg World.routes (Option.some.inj h)
    have proxy : {} = process'.proxy := congrArg World.proxy (Option.some.inj h)
    exact ⟨by simp [← routes], by simp [← proxy], by simp [← proxy], by simp [← proxy]⟩

end

/-- In every run of a cluster the rows and the pending work of every server go back to calls
that were taken before. -/
theorem grounded_run {ms : List (Move Action)} {s : Cluster}
    (run : exec Cluster.step (.start .new) ms = some s) :
    (∀ r ∈ s.shared.db.rows, Grounded ms r) ∧
      ∀ (i : Nat) process, s.locals[i]? = some process → ProcessGrounded ms i process := by
  let holds : List (Move Action) → Cluster → Prop := fun ms s =>
    (∀ r ∈ s.shared.db.rows, Grounded ms r) ∧
      ∀ (i : Nat) process, s.locals[i]? = some process → ProcessGrounded ms i process
  have first : holds [] (.start .new) := by
    constructor
    · intro r stored
      simp [Cluster.start, Db.new, Table.empty] at stored
    · intro i process there
      simp [Cluster.start] at there
  have one : ∀ ms s m t, exec Cluster.step (.start .new) ms = some s → holds ms s → True →
      Cluster.step s m = some t → holds (ms ++ [m]) t := by
    intro ms s m t _ before _ h
    constructor
    · rcases step_cases h with ⟨i, a, l, g', l', rfl, at_i, moved, rfl⟩ | ⟨rfl, rfl⟩
      · exact rows_grounded_step (before.2 i l at_i) before.1 (process_step.mp moved)
      · intro r stored
        exact grounded_later _ (before.1 r stored)
    · intro i process' there
      rcases process_cases h there with ⟨a, process, rfl, at_i, moved⟩ | ⟨at_i, _⟩ | ⟨_, rfl, _⟩
      · exact process_grounded_step (before.2 i process at_i) (process_step.mp moved)
      · exact process_grounded_later _ (before.2 i process' at_i)
      · exact process_grounded_fresh _ i
  have last : holds ms s := past_induction first one along_true run
  exact last

end SparkPlug
