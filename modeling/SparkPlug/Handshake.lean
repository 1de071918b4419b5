import SparkPlug.HttpRuns
import SparkPlug.LaunchHistory

/-!
The calls that a driver makes with what it was started with. In a run of a cluster, the token
of a launch stands for the row of its own application and for no other one.
-/
namespace SparkPlug
open KeyedTable Runs Shared Text

/- The row that a token stands for. -/

/-- The token was drawn, and the rows with it are those with the id. -/
structure StandsFor (app : Model) (store : Store) : Prop where
  issued : app.token ∈ store.issued
  used : app.id < store.db.next
  rows : ∀ r ∈ store.db.rows, r.token = app.token ↔ r.id = app.id

theorem stands_for_move {app : Model} {g g' : Store} (before : StandsFor app g)
    (moved : StoreMove g g') : StandsFor app g' := by
  constructor
  · exact moved.issued _ before.issued
  · exact Int.lt_of_lt_of_le before.used moved.next
  · intro r' member
    rcases moved.rows r' member with ⟨r, stored, same, kept⟩ | ⟨later, unused⟩
    · rw [kept.token, ← same]
      exact before.rows r stored
    · constructor
      · intro token
        rw [token] at unused
        exact absurd before.issued unused
      · intro id
        have used := before.used
        omega

theorem inserted_stands_for {g g' : Store} {process process' : Process}
    {username token : String} {name : Option String} {createdAt : DateTimeUtc}
    (fresh : DrawsFresh (World.view g process)
      (.routes (.createInsert username name token createdAt true)))
    (h : processStep g process (.routes (.createInsert username name token createdAt true)) =
      some (g', process')) :
    StandsFor (Statement.newRow username name token createdAt g.db.next) g' := by
  have unused := (fresh token rfl).2
  cases h
  constructor
  · simp [World.store, Action.newToken, Statement.newRow]
  · simp [World.store, World.view, Db.exec, Table.insert, Statement.newRow]
  · intro r' member
    have member : r' ∈ (g.db.exec (.createInsert username name token createdAt)).rows := member
    rcases mem_exec member with ⟨r, stored, kept⟩ | ⟨_, _, _, _, same, rfl⟩
    · have other : r'.token ≠ token := by
        rw [(Statement.row_owner kept).2]
        exact unused r stored
      have below : r'.id < g.db.next := by
        rw [Statement.row_id kept]
        exact g.db.below r stored
      simp only [Statement.newRow]
      constructor
      · intro drawn
        exact absurd drawn other
      · intro last
        omega
    · cases same
      simp [Statement.newRow]

/-- The applications of the createApp calls of a process. -/
def CallsOwnRows (g : Store) (process : Process) : Prop :=
  ∀ (n : Nat) (call : CreateApp) app, process.routes.creates[n]? = some call →
    call.app = some app → StandsFor app g

theorem calls_own_step {g g' : Store} {process process' : Process} {a : Action}
    (before : CallsOwnRows g process) (fresh : DrawsFresh (World.view g process) a)
    (h : processStep g process a = some (g', process')) : CallsOwnRows g' process' := by
  have moved := store_move fresh (process_step.mp h)
  intro n call app there holds
  rcases process_routes h with ⟨act, outcome, rfl, run, routes⟩ | ⟨_, routes⟩ | ⟨_, _, routes⟩
  · rw [routes] at there
    rcases create_app_step run there holds with ⟨old, at_n, was⟩ | ⟨_, new⟩
    · exact stands_for_move (before n old app at_n was) moved
    · obtain ⟨username, name, token, createdAt, rfl, rfl⟩ := new
      exact inserted_stands_for fresh h
  · simp [routes] at there
  · rw [routes] at there
    exact stands_for_move (before n call app there holds) moved

theorem processes_own_rows :
    Cooperates processStep {} (fun store process a => DrawsFresh (World.view store process) a)
      StoreMove (fun _ => True) (fun _ => CallsOwnRows) := by
  constructor
  · intros
    trivial
  · intro i g l a g' l' _ before fresh h
    exact calls_own_step before fresh h
  · intro i g l a g' l' _ _ fresh h
    exact store_move fresh (process_step.mp h)
  · intro i g l g' _ before moved n call app there holds
    exact stands_for_move (before n call app there holds) moved
  · intro i g _ n call app there
    simp at there

theorem launch_app {process : Process} {a : Action} {app : Model}
    (launched : launchOf process a = some app) :
    ∃ (n : Nat) (call : CreateApp), process.routes.creates[n]? = some call ∧
      call.app = some app := by
  unfold launchOf at launched
  split at launched
  · rename_i n success
    obtain ⟨call, there, pending⟩ := Option.bind_eq_some_iff.mp launched
    refine ⟨n, call, there, ?_⟩
    cases call with
    | launching kept => exact pending
    | _ => simp [CreateApp.pending] at pending
  · cases launched

theorem ended_launch {s : Cluster} {m : Move Action × Attempt} {record : LaunchRecord}
    (member : record ∈ Deployment.ended s m) :
    ∃ (i : Nat) (process : Process) (a : Action), s.locals[i]? = some process ∧
      launchOf process a = some record.app := by
  unfold Deployment.ended at member
  split at member
  · rename_i i a _
    obtain ⟨app, launched, rfl⟩ := Option.map_eq_some_iff.mp (Option.mem_toList.mp member)
    obtain ⟨process, there, launched⟩ := Option.bind_eq_some_iff.mp launched
    exact ⟨i, process, a, there, launched⟩
  · simp at member

/-- The tokens of the ended launches. -/
def RecordsOwnRows (d : Deployment) : Prop :=
  Holds (fun _ => True) (fun _ => CallsOwnRows) d.1 ∧
    ∀ record ∈ d.2, StandsFor record.app d.1.shared

theorem records_own_step {d d' : Deployment} {m : Move Action × Attempt}
    (before : RecordsOwnRows d) (fresh : DrawsUnused d m) (h : Deployment.step d m = some d') :
    RecordsOwnRows d' := by
  obtain ⟨moved, grown⟩ := with_history_step.mp h
  obtain ⟨calls, records⟩ := before
  refine ⟨cooperates_preserves processes_own_rows _ _ _ calls fresh moved, fun record member => ?_⟩
  have there : StandsFor record.app d.1.shared := by
    rw [grown] at member
    rcases List.mem_append.mp member with old | new
    · exact records record old
    · obtain ⟨i, process, a, at_i, launched⟩ := ended_launch new
      obtain ⟨n, call, at_n, holds⟩ := launch_app launched
      exact calls.2 i process at_i n call _ at_n holds
  rcases step_cases moved with ⟨i, a, l, g', l', act, at_i, stepped, same⟩ | ⟨_, same⟩
  · have drawn : DrawsFresh (World.view d.1.shared l) a := by
      have all := fresh
      unfold DrawsUnused at all
      rw [act] at all
      exact all l at_i
    rw [same]
    exact stands_for_move there (store_move drawn (process_step.mp stepped))
  · rw [same]
    exact there

theorem records_own_run {db : Db} {ms : List (Move Action × Attempt)} {d : Deployment}
    (fresh : Along Deployment.step DrawsUnused (.start db) ms)
    (run : exec Deployment.step (.start db) ms = some d) : RecordsOwnRows d := by
  refine invariant_run (fun _ _ _ => records_own_step) ?_ fresh run
  constructor
  · exact ⟨trivial, by simp [Deployment.start, Cluster.start]⟩
  · simp [Deployment.start]

/- What the plugin makes of the arguments. -/

namespace SparkPlugListener

/-- A driver with these arguments makes the call, with the token that it was given, to the
address that it was given. -/
def Makes (args : List String) (callbackAddr : BaseUrl) (call : String → HttpRequest)
    (req : HttpRequest) : Prop :=
  ∃ token, Sets args TOKEN_CONFIG token ∧
    Sets args CALLBACK_CONFIG (String.ofList callbackAddr.text) ∧ req = call token

/-- What it sends when its service has started. -/
def Registers (args : List String) (callbackAddr : BaseUrl) (connectUri appId : String) :
    HttpRequest → Prop :=
  Makes args callbackAddr fun token => callback callbackAddr token connectUri appId

/-- What it sends when its service has ended. -/
def Deregisters (args : List String) (callbackAddr : BaseUrl) : HttpRequest → Prop :=
  Makes args callbackAddr fun token => callbackDelete callbackAddr token

end SparkPlugListener

theorem sets_unique {args : List String} {key value other : String} (first : Sets args key value)
    (second : Sets args key other) : other = value := by
  obtain ⟨settings, read, only⟩ := first
  obtain ⟨_, again, last⟩ := second
  obtain rfl := Option.some.inj (read.symm.trans again)
  exact (only other).mp ((last other).mpr rfl)

theorem makes_iff {args : List String} {callbackAddr : BaseUrl} {token : String}
    (given : Sets args TOKEN_CONFIG token)
    (address : Sets args CALLBACK_CONFIG (String.ofList callbackAddr.text))
    (call : String → HttpRequest) (req : HttpRequest) :
    SparkPlugListener.Makes args callbackAddr call req ↔ req = call token := by
  constructor
  · rintro ⟨other, set, _, rfl⟩
    rw [sets_unique given set]
  · rintro rfl
    exact ⟨token, given, address, rfl⟩

/-- A driver of the launch is told the token of its application and where to call back. -/
theorem driver_told {record : LaunchRecord} {driver : DriverRecord}
    (started : driver ∈ record.drivers) (readable : record.Readable) :
    Sets driver.args TOKEN_CONFIG record.app.token ∧
      Sets driver.args CALLBACK_CONFIG record.attempt.launcher.callbackAddr := by
  rcases attempt_drivers record with ⟨_, args, one, sets⟩ | ⟨_, none⟩
  · rw [one] at started
    obtain rfl := List.mem_singleton.mp started
    constructor
    · exact sets readable ⟨TOKEN_CONFIG, record.app.token⟩ (by simp [internalConfigs])
    · exact sets readable ⟨CALLBACK_CONFIG, record.attempt.launcher.callbackAddr⟩
        (by simp [internalConfigs])
  · simp [none] at started

/- The calls at a server. -/

section
variable {self : ProxyService} {req : HttpRequest} {app : Model} {store : Store}

/-- A call whose handler begins with a statement, at a store that executes it. -/
theorem call_executes {call : ApiCall} {draw : Draw} {act : RoutesAction} {st : Statement}
    (admitted : self.call req = .ok call) (begins : call.begin draw = some (.routes act))
    (serving : Serving) (handled : ∃ outcome,
      serving.process.routes.step store.db act = some outcome ∧ outcome.statement = some st) :
    ∃ g l, self.serve store serving (.request req draw) = some (g, l) ∧
      g.db = store.db.exec st := by
  have acting : self.actionOf (.request req draw) = some (.routes act) := by
    simp [ProxyService.actionOf, admitted, Except.toOption, begins]
  obtain ⟨outcome, run, issued⟩ := handled
  have step : ∃ w, (World.view store serving.process).step (.routes act) = some w ∧
      w.db = store.db.exec st := by
    refine ⟨_, congrArg (Option.map _) run, ?_⟩
    simp [World.view, issued]
  obtain ⟨w, stepped, written⟩ := step
  have moved : processStep store serving.process (.routes act) = some (w.store, w.process) := by
    rw [processStep, stepped]
    rfl
  refine ⟨w.store, { process := w.process
                     bodies := serving.bodiesAfter (.routes act) ++
                       self.bodyOf (.request req draw) }, ?_, written⟩
  simp [ProxyService.serve, Arrival.allowed, acting, moved]

/-- A statement on the rows with the token changes the row of the application only. -/
theorem own_row_written {st : Statement} (owns : StandsFor app store)
    (selects : ∀ r, st.filter r = decide (r.token = app.token))
    (keeps : ∀ r, st.row r = some (if st.filter r then st.set r else r)) :
    ∀ r ∈ store.db.rows,
      (store.db.exec st).find r.id = some (if r.id = app.id then st.set r else r) := by
  intro r stored
  rw [find_exec (Table.find_mem stored), keeps, selects]
  by_cases mine : r.id = app.id
  · simp [mine, (owns.rows r stored).mpr mine]
  · have other : r.token ≠ app.token := fun token => mine ((owns.rows r stored).mp token)
    simp [mine, other]

theorem own_call_written {call : ApiCall} {draw : Draw} {act : RoutesAction} {st : Statement}
    (owns : StandsFor app store) (admitted : self.call req = .ok call)
    (begins : call.begin draw = some (.routes act)) (serving : Serving)
    (handled : ∃ outcome,
      serving.process.routes.step store.db act = some outcome ∧ outcome.statement = some st)
    (selects : ∀ r, st.filter r = decide (r.token = app.token))
    (keeps : ∀ r, st.row r = some (if st.filter r then st.set r else r)) :
    ∃ g l, self.serve store serving (.request req draw) = some (g, l) ∧
      ∀ r ∈ store.db.rows, g.db.find r.id = some (if r.id = app.id then st.set r else r) := by
  obtain ⟨g, l, served, written⟩ := call_executes admitted begins serving handled
  refine ⟨g, l, served, ?_⟩
  rw [written]
  exact own_row_written owns selects keeps

end

theorem affected_own_row {app : Model} {store : Store} {p : Model → Bool}
    (owns : StandsFor app store) (selects : ∀ r, p r = decide (r.token = app.token)) :
    store.db.affected p ≠ 0 ↔ ∃ r ∈ store.db.rows, r.id = app.id := by
  unfold Table.affected
  rw [← Nat.pos_iff_ne_zero, List.length_pos_iff_exists_mem]
  constructor
  · rintro ⟨r, member⟩
    obtain ⟨stored, chosen⟩ := List.mem_filter.mp member
    rw [selects] at chosen
    exact ⟨r, stored, (owns.rows r stored).mp (of_decide_eq_true chosen)⟩
  · rintro ⟨r, stored, mine⟩
    refine ⟨r, List.mem_filter.mpr ⟨stored, ?_⟩⟩
    rw [selects]
    exact decide_eq_true ((owns.rows r stored).mpr mine)

/-- In every run of a cluster in which no token is drawn twice, a driver that was started with
readable configs has one call for its started service and one for its ended service. At every
server the first, if its body is read, makes the row of its application RUNNING with what was
read, and the second makes it FINISHED; no other row changes, and the first is answered with
success exactly if the row is still there. -/
theorem driver_reports_its_application {db : Db} {ms : List (Move Action × Attempt)} {s : Cluster}
    {history : List LaunchRecord} (fresh : Along Deployment.step DrawsUnused (.start db) ms)
    (run : exec Deployment.step (.start db) ms = some (s, history))
    {record : LaunchRecord} (ended : record ∈ history) (readable : record.Readable)
    {driver : DriverRecord} (started : driver ∈ record.drivers)
    (filled : record.app.token ≠ "")
    (printable : ∀ b ∈ headerValue record.app.token, 32 ≤ b ∧ b ≤ 126)
    {callbackAddr : BaseUrl} (bare : callbackAddr.path = [])
    (told : record.attempt.launcher.callbackAddr = String.ofList callbackAddr.text)
    (connectUri appId : String) :
    (∀ req, SparkPlugListener.Registers driver.args callbackAddr connectUri appId req ↔
      req = SparkPlugListener.callback callbackAddr record.app.token connectUri appId) ∧
    (∀ req, SparkPlugListener.Deregisters driver.args callbackAddr req ↔
      req = SparkPlugListener.callbackDelete callbackAddr record.app.token) ∧
    (∀ address applicationId,
      appCallbackAnswer s.shared.db record.app.token address applicationId true = .ok () ↔
        ∃ r ∈ s.shared.db.rows, r.id = record.app.id) ∧
    ∀ (self : ProxyService) (serving : Serving) draw, draw.stored = true →
      (∀ params, self.jsonContentType (headerValue "application/json") = true →
        (headerValue (SparkPlugListener.callbackBody connectUri appId)).length ≤ BODY_LIMIT →
        self.readCallback (headerValue (SparkPlugListener.callbackBody connectUri appId)) =
          some params →
        ∃ g l, self.serve s.shared serving (.request (SparkPlugListener.callback callbackAddr
            record.app.token connectUri appId) draw) = some (g, l) ∧
          ∀ r ∈ s.shared.db.rows, g.db.find r.id = some (if r.id = record.app.id then
            { r with address := some params.address, state := .running,
                     applicationId := some params.applicationId } else r)) ∧
      ∃ g l, self.serve s.shared serving (.request (SparkPlugListener.callbackDelete callbackAddr
          record.app.token) draw) = some (g, l) ∧
        ∀ r ∈ s.shared.db.rows, g.db.find r.id = some (if r.id = record.app.id then
          { r with address := none, state := .finished } else r) := by
  have owns := (records_own_run fresh run).2 record ended
  obtain ⟨token, address⟩ := driver_told started readable
  rw [told] at address
  refine ⟨makes_iff token address _, makes_iff token address _, ?_, ?_⟩
  · intro address applicationId
    have found := affected_own_row (p := (Statement.appCallback record.app.token address
      applicationId).filter) owns fun _ => rfl
    rw [← found, appCallbackAnswer, if_pos rfl, Db.rowsAffected]
    split
    · rename_i missing
      simp [missing]
    · rename_i there
      simp [there]
  · intro self serving draw stored
    constructor
    · intro params typed short read
      have admitted := (callback_arrives bare filled printable typed connectUri appId params).mpr
        ⟨short, read⟩
      have begins : (ApiCall.appCallback record.app.token params).begin draw = some (.routes
          (.appCallback record.app.token params.address params.applicationId true)) := by
        simp [ApiCall.begin, stored]
      exact own_call_written owns admitted begins serving ⟨_, rfl, rfl⟩ (fun _ => rfl) fun _ => rfl
    · have admitted : self.call _ = .ok _ := callback_delete_arrives bare filled printable
      have begins : (ApiCall.appCallbackDelete record.app.token).begin draw =
          some (.routes (.appCallbackDelete record.app.token draw.sender true)) := by
        simp [ApiCall.begin, stored]
      exact own_call_written owns admitted begins serving ⟨_, rfl, rfl⟩ (fun _ => rfl) fun _ => rfl

/-- In `restartedRun`, the driver of alice reports to a server that has just joined. -/
theorem alice_driver_reports : ∃ s history g l,
    exec Deployment.step (.start .new) restartedRun = some (s, history) ∧
    (∃ driver ∈ Deployment.drivers history, ∀ req,
      SparkPlugListener.Registers driver.args localUrl "10.0.0.1:15002" "app-1" req ↔
        req = SparkPlugListener.callback localUrl "token-a" "10.0.0.1:15002" "app-1") ∧
    trustingService.serve s.shared {} (.request (SparkPlugListener.callback localUrl "token-a"
      "10.0.0.1:15002" "app-1") ⟨"", 0, "10.0.0.1:40000", true⟩) = some (g, l) ∧
    (g.db.find 1).map (·.state) = some .running := by
  have computed : (exec Deployment.step (.start .new) restartedRun).any (fun d =>
      d.2.any fun record => record.app.token = "token-a" ∧ record.app.id = 1 ∧ record.Readable ∧
        record.attempt.launcher.callbackAddr = String.ofList localUrl.text ∧
        record.drivers ≠ [] ∧ (d.1.shared.db.find 1).isSome) = true := by decide
  obtain ⟨⟨s, history⟩, run, facts⟩ := computed_run computed
  obtain ⟨record, ended, facts⟩ := List.any_eq_true.mp facts
  obtain ⟨token, id, readable, told, some_driver, there⟩ := of_decide_eq_true facts
  obtain ⟨driver, started⟩ := List.exists_mem_of_ne_nil _ some_driver
  have printed : (headerValue "token-a").all (fun b => 32 ≤ b && b ≤ 126) = true := by decide
  have printable : ∀ b ∈ headerValue record.app.token, 32 ≤ b ∧ b ≤ 126 := by
    rw [token]
    simpa using printed
  have reports := driver_reports_its_application (by decide) run ended readable started
    (by simp [token]) printable (rfl : localUrl.path = []) told "10.0.0.1:15002" "app-1"
  rw [token, id] at reports
  obtain ⟨sent, _, _, writes⟩ := reports
  obtain ⟨g, l, served, rows⟩ := (writes trustingService {} ⟨"", 0, "10.0.0.1:40000", true⟩ rfl).1
    ⟨"10.0.0.1:15002", "app-1"⟩ (by decide) (by decide) (by simp [trustingService])
  obtain ⟨r, found⟩ := Option.isSome_iff_exists.mp there
  have stored := Table.find_some found
  have running := rows r stored.1
  rw [if_pos stored.2, show r.id = 1 from stored.2] at running
  exact ⟨s, history, g, l, run,
    ⟨driver, List.mem_flatMap.mpr ⟨record, ended, started⟩, sent⟩, served, by simp [running]⟩

end SparkPlug
