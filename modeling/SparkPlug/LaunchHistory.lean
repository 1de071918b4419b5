import SparkPlug.Library.Tickets
import SparkPlug.Launch
import SparkPlug.Cluster

/-!
The launches that the servers of a cluster carry out, in the order in which they end. The
history sees each one with its application; no handler reads it.
-/
namespace SparkPlug
open KeyedTable Runs Shared Tasks Tickets CommandLine

/-- How a launch is carried out: the machine of its server and what its request asks for. -/
structure Attempt where
  machine : Machine
  order : IterationOrder
  launcher : VersionedLauncher
  versionName : Option String := none
  userConfig : HashMap := ∅
  pythonPackages : Option (List String) := none

namespace Attempt

/-- createApp launches with the id, name, user and token of the inserted row. -/
def request (attempt : Attempt) (app : Model) : LaunchRequest :=
  { versionName := attempt.versionName, sessionId := app.id, appName := app.name
    username := app.username, token := app.token, userConfig := attempt.userConfig
    pythonPackages := attempt.pythonPackages }

def launch (attempt : Attempt) (app : Model) : Scripts.Script Command LaunchError Unit :=
  SparkPlug.launch attempt.machine attempt.order attempt.launcher (attempt.request app)

def drivers (attempt : Attempt) (app : Model) : List (String × List String) :=
  SparkPlug.drivers attempt.machine (attempt.launch app).commands

end Attempt

/-- A launch that has ended. -/
structure LaunchRecord where
  app : Model
  attempt : Attempt

/-- A driver that was started, for which application, and the arguments that it got. -/
structure DriverRecord where
  app : Model
  args : List String

def LaunchRecord.drivers (record : LaunchRecord) : List DriverRecord :=
  (record.attempt.drivers record.app).map fun command => { app := record.app, args := command.2 }

/-- The application whose launch is pending in a createApp call. -/
def CreateApp.pending : CreateApp → Option Model
  | .launching app => some app
  | _ => none

/-- The application whose launch ends with an action. -/
def launchOf (process : Process) : Action → Option Model
  | .routes (.createLaunched n _) => process.routes.creates[n]?.bind CreateApp.pending
  | _ => none

abbrev Deployment := Cluster × List LaunchRecord

namespace Deployment

def ended (s : Cluster) (m : Move Action × Attempt) : List LaunchRecord :=
  match m.1 with
  | .act i a => ((s.locals[i]?.bind (launchOf · a)).map fun app => ⟨app, m.2⟩).toList
  | .join => []

/-- A move of the cluster, with the attempt of the launch that ends with it. -/
def step : Deployment → Move Action × Attempt → Option Deployment :=
  withHistory (fun s m => Cluster.step s m.1) fun s m history => history ++ ended s m

def start (db : Db) : Deployment := (.start db, [])

def drivers (history : List LaunchRecord) : List DriverRecord := history.flatMap (·.drivers)

end Deployment

/-- The token drawn by a move is in use nowhere in the cluster. -/
def DrawsUnused (s : Deployment) (m : Move Action × Attempt) : Prop :=
  Meets (fun store process a => DrawsFresh (World.view store process) a) s.1 m.1

instance (s : Deployment) (m : Move Action × Attempt) : Decidable (DrawsUnused s m) :=
  inferInstanceAs (Decidable
    (Meets (fun store process a => DrawsFresh (World.view store process) a) s.1 m.1))

/-- How a launch has ended, as its handler is told. -/
def launchAnswer : Move Action → Option Bool
  | .act _ (.routes (.createLaunched _ success)) => some success
  | _ => none

/-- The handler is told how the launch has ended. -/
def CarriedOut (s : Deployment) (m : Move Action × Attempt) : Prop :=
  ∀ record ∈ Deployment.ended s.1 m, ∀ success ∈ launchAnswer m.1,
    (success = true ↔ (record.attempt.launch record.app).result = .ok ())

instance (s : Deployment) (m : Move Action × Attempt) : Decidable (CarriedOut s m) :=
  inferInstanceAs (Decidable (∀ record ∈ Deployment.ended s.1 m, ∀ success ∈ launchAnswer m.1,
    (success = true ↔ (record.attempt.launch record.app).result = .ok ())))

/- Each application is launched once. -/

section
variable (mine : Model → Bool)

def CreateApp.share (call : CreateApp) : Nat := (call.pending.any mine).toNat

/-- The pending launches of a process for the applications in question. -/
def pendingLaunches (process : Process) : Nat := total (·.share mine) process.routes.creates

def drawnLaunches (store : Store) (_ : Process) : Action → Nat
  | .routes (.createInsert username name token createdAt true) =>
    (mine (Statement.newRow username name token createdAt store.db.next)).toNat
  | _ => 0

def endedLaunches (_ : Store) (process : Process) (a : Action) : Nat :=
  ((launchOf process a).any mine).toNat

theorem total_set_le {T : Type} (f : T → Nat) (tasks : List T) (n : Nat) {new : T}
    (none : f new = 0) : total f (tasks.set n new) ≤ total f tasks := by
  by_cases bound : n < tasks.length
  · have changed := total_changed f (List.getElem?_eq_getElem bound) new
    omega
  · rw [List.set_eq_of_length_le (by omega)]

theorem launches_balance {store : Store} {process : Process} {a : RoutesAction}
    {outcome : RoutesOutcome} (h : process.routes.step store.db a = some outcome) :
    total (·.share mine) outcome.routes.creates + endedLaunches mine store process (.routes a) ≤
      pendingLaunches mine process + drawnLaunches mine store process (.routes a) := by
  unfold pendingLaunches
  cases routes_step h with
  | inserted username name token createdAt =>
    simp [total_spawned, CreateApp.share, CreateApp.pending, endedLaunches, launchOf, drawnLaunches]
  | insertRefused username name token createdAt =>
    simp [total_spawned, CreateApp.share, CreateApp.pending, endedLaunches, launchOf, drawnLaunches]
  | launched n app at_n =>
    have changed := total_changed (·.share mine) at_n (.answered (.ok app))
    simp only [CreateApp.share, CreateApp.pending, Option.any_some, Option.any_none,
      Bool.toNat_false] at changed
    simp only [endedLaunches, launchOf, at_n, Option.bind_some, CreateApp.pending, Option.any_some,
      drawnLaunches]
    exact Nat.le_of_eq changed
  | launchFailed n app at_n =>
    have changed := total_changed (·.share mine) at_n (.launchFailed app)
    simp only [CreateApp.share, CreateApp.pending, Option.any_some, Option.any_none,
      Bool.toNat_false] at changed
    simp only [endedLaunches, launchOf, at_n, Option.bind_some, CreateApp.pending, Option.any_some,
      drawnLaunches]
    exact Nat.le_of_eq changed
  | createFailed n stored app at_n => exact total_set_le _ _ n rfl
  | createDropped n => exact total_set_le _ _ n rfl
  | _ => exact Nat.le_refl _

variable {used : Store → Prop}

/-- What makes the launches of some applications a ticket. -/
theorem launch_ticket
    (stays : ∀ w w' a, World.step w a = some w' → used w.store → used w'.store)
    (unused : ∀ w w' username name token createdAt,
      DrawsFresh w (.routes (.createInsert username name token createdAt true)) →
      World.step w (.routes (.createInsert username name token createdAt true)) = some w' →
      mine (Statement.newRow username name token createdAt w.db.next) = true →
      ¬ used w.store ∧ used w'.store) :
    Ticket processStep {} (fun store process a => DrawsFresh (World.view store process) a)
      (pendingLaunches mine) (drawnLaunches mine) (endedLaunches mine) used where
  balance g l a g' l' h := by
    rcases process_routes h with ⟨act, outcome, rfl, run, routes⟩ | ⟨rfl, routes⟩ |
      ⟨others, _, routes⟩
    · have balance := launches_balance mine run
      rwa [← routes] at balance
    · simp [pendingLaunches, routes, endedLaunches, launchOf, drawnLaunches, total]
    · have idle : launchOf l a = none := by
        unfold launchOf
        split
        · exact absurd rfl (others _)
        · rfl
      simp [pendingLaunches, routes, endedLaunches, idle]
  single g l a := by
    unfold drawnLaunches
    split
    · exact Bool.toNat_le _
    · exact Nat.zero_le 1
  unused g l a g' l' fresh h draws := by
    unfold drawnLaunches at draws
    split at draws
    · rename_i username name token createdAt
      have picked : mine (Statement.newRow username name token createdAt g.db.next) = true := by
        simpa using draws
      exact unused _ _ username name token createdAt fresh (process_step.mp h) picked
    · simp at draws
  stays g l a g' l' h := stays _ _ a (process_step.mp h)
  none := rfl

/-- No two launches that have ended are of these applications. -/
theorem launched_once (law : Ticket processStep {}
      (fun store process a => DrawsFresh (World.view store process) a)
      (pendingLaunches mine) (drawnLaunches mine) (endedLaunches mine) used)
    {db : Db} {ms : List (Move Action × Attempt)} {s : Cluster} {history : List LaunchRecord}
    (fresh : Along Deployment.step DrawsUnused (.start db) ms)
    (run : exec Deployment.step (.start db) ms = some (s, history)) :
    history.countP (fun record => mine record.app) ≤ 1 := by
  let inv : Deployment → Prop := fun d =>
    AtMostOnce (pendingLaunches mine) used d.1 (d.2.countP fun record => mine record.app)
  have pres : Preserves Deployment.step DrawsUnused inv := by
    intro d m d' before draws h
    obtain ⟨moved, grown⟩ := with_history_step.mp h
    have counted : (Deployment.ended d.1 m).countP (fun record => mine record.app) =
        spentBy (endedLaunches mine) d.1 m.1 := by
      unfold Deployment.ended spentBy
      cases m.1 with
      | join => rfl
      | act i a =>
        dsimp only
        generalize d.1.locals[i]? = there
        cases there with
        | none => rfl
        | some process =>
          simp only [Option.bind_some, endedLaunches]
          generalize launchOf process a = launched
          cases launched with
          | none => rfl
          | some app => cases picked : mine app <;> simp [picked]
    have after := at_most_once_step law before draws moved
    simp only [inv, grown, List.countP_append, counted]
    exact after
  have last : inv (s, history) := invariant_run pres (at_most_once_start _) fresh run
  exact Nat.le_trans (Nat.le_add_right _ _) last.1

end

/-- Of the ids of the store, an insert uses the next one. -/
theorem id_ticket (id : Int) :
    Ticket processStep {} (fun store process a => DrawsFresh (World.view store process) a)
      (pendingLaunches fun app => app.id = id) (drawnLaunches fun app => app.id = id)
      (endedLaunches fun app => app.id = id) (fun store => id < store.db.next) := by
  refine launch_ticket _ ?_ ?_
  · intro w w' a h used
    exact Int.lt_of_lt_of_le used (step_next h)
  · intro w w' username name token createdAt _ h same
    have last : w.db.next = id := of_decide_eq_true same
    have grown := (inserted_rows h).1
    refine ⟨fun used => ?_, last ▸ grown⟩
    have below : id < w.db.next := used
    omega

theorem token_ticket (token : String) :
    Ticket processStep {} (fun store process a => DrawsFresh (World.view store process) a)
      (pendingLaunches fun app => app.token = token) (drawnLaunches fun app => app.token = token)
      (endedLaunches fun app => app.token = token) (fun store => token ∈ store.issued) := by
  refine launch_ticket _ ?_ ?_
  · intro w w' a h used
    exact issued_kept h token used
  · intro w w' username name drawn createdAt fresh h same
    obtain rfl : drawn = token := of_decide_eq_true same
    refine ⟨(fresh drawn rfl).1, ?_⟩
    cases h
    simp [World.store, Action.newToken]

/- What a createApp call says of its launch. -/

/-- The application of a launch that has ended, and whether it has succeeded. -/
def CreateApp.ended : CreateApp → Option (Model × Bool)
  | .answered (.ok app) => some (app, true)
  | .launchFailed app => some (app, false)
  | _ => none

theorem ended_call_step {db : Db} {s : Routes} {a : RoutesAction} {outcome : RoutesOutcome}
    (h : s.step db a = some outcome) {n : Nat} {call : CreateApp} {app : Model} {success : Bool}
    (there : outcome.routes.creates[n]? = some call) (ended : call.ended = some (app, success)) :
    s.creates[n]? = some call ∨
      (a = .createLaunched n success ∧ s.creates[n]? = some (.launching app)) := by
  have changed : ∀ k new, outcome.routes.creates = s.creates.set k new → new.ended = none →
      s.creates[n]? = some call := by
    intro k new set silent
    rw [set] at there
    rcases at_changed there with ⟨_, rfl⟩ | ⟨_, kept⟩
    · simp [silent] at ended
    · exact kept
  cases routes_step h with
  | inserted username name token createdAt =>
    rcases at_spawned there with ⟨_, rfl⟩ | old
    · simp [CreateApp.ended] at ended
    · exact Or.inl old
  | insertRefused username name token createdAt =>
    rcases at_spawned there with ⟨_, rfl⟩ | old
    · simp [CreateApp.ended] at ended
    · exact Or.inl old
  | launched k kept at_k =>
    rcases at_changed there with ⟨rfl, rfl⟩ | ⟨_, old⟩
    · cases ended
      exact Or.inr ⟨rfl, at_k⟩
    · exact Or.inl old
  | launchFailed k kept at_k =>
    rcases at_changed there with ⟨rfl, rfl⟩ | ⟨_, old⟩
    · cases ended
      exact Or.inr ⟨rfl, at_k⟩
    · exact Or.inl old
  | createFailed k stored kept at_k => exact Or.inl (changed k _ rfl rfl)
  | createDropped k => exact Or.inl (changed k _ rfl rfl)
  | _ => exact Or.inl there

/-- Each ended launch that a call knows of is recorded, with the result that it had. -/
def Recorded (d : Deployment) : Prop :=
  ∀ (i : Nat) process (n : Nat) call app success, d.1.locals[i]? = some process →
    process.routes.creates[n]? = some call → call.ended = some (app, success) →
    ∃ record ∈ d.2, record.app = app ∧
      (success = true ↔ (record.attempt.launch app).result = .ok ())

theorem recorded_step {d d' : Deployment} {m : Move Action × Attempt} (before : Recorded d)
    (carried : CarriedOut d m) (h : Deployment.step d m = some d') : Recorded d' := by
  obtain ⟨moved, grown⟩ := with_history_step.mp h
  intro i process' n call app success there at_n ended
  have old : ∀ process : Process, d.1.locals[i]? = some process →
      process.routes.creates[n]? = some call → ∃ record ∈ d'.2, record.app = app ∧
        (success = true ↔ (record.attempt.launch app).result = .ok ()) := by
    intro process at_i same
    obtain ⟨record, member, facts⟩ := before i process n call app success at_i same ended
    rw [grown]
    exact ⟨record, List.mem_append_left _ member, facts⟩
  rcases process_cases moved there with ⟨a, process, act, at_i, stepped⟩ | ⟨kept, _⟩ | ⟨_, rfl, _⟩
  · rcases process_routes stepped with ⟨act', outcome, rfl, run, routes⟩ | ⟨_, routes⟩ |
      ⟨_, _, routes⟩
    · rw [routes] at at_n
      rcases ended_call_step run at_n ended with earlier | ⟨rfl, launching⟩
      · exact old process at_i earlier
      · have launched : launchOf process (.routes (.createLaunched n success)) = some app := by
          simp [launchOf, launching, CreateApp.pending]
        have now : Deployment.ended d.1 m = [⟨app, m.2⟩] := by
          simp [Deployment.ended, act, at_i, launched]
        have result : success = true ↔ (m.2.launch app).result = .ok () :=
          carried ⟨app, m.2⟩ (by simp [now]) success (by rw [act]; rfl)
        rw [grown, now]
        exact ⟨⟨app, m.2⟩, by simp, rfl, result⟩
    · simp [routes] at at_n
    · rw [routes] at at_n
      exact old process at_i at_n
  · exact old process' kept at_n
  · simp at at_n

theorem recorded_run {db : Db} {ms : List (Move Action × Attempt)} {d : Deployment}
    (carried : Along Deployment.step CarriedOut (.start db) ms)
    (run : exec Deployment.step (.start db) ms = some d) : Recorded d := by
  refine invariant_run (fun _ _ _ => recorded_step) ?_ carried run
  intro i process n call app success there
  simp [Deployment.start, Cluster.start] at there

/- The drivers of a history. -/

/-- The settings that spark-submit makes of its arguments. -/
def confSettings (args : List String) : Option (List (String × String)) :=
  (readOptions args).bind fun read => readSettings "--conf" '=' read.1

/-- spark-submit sets the key to this value and to no other. -/
def Sets (args : List String) (key value : String) : Prop :=
  ∃ settings, confSettings args = some settings ∧
    ∀ other, (key, other) ∈ settings ↔ other = value

/-- No key of the configs contains '=', and the path of the plugin is not an option. -/
def LaunchRecord.Readable (record : LaunchRecord) : Prop :=
  ∀ version, record.attempt.launcher.version record.attempt.versionName = .ok version →
    (∀ key ∈ configKeys version.toSparkVersion record.attempt.userConfig, '=' ∉ key.toList) ∧
      isOption record.attempt.launcher.pluginPath = false

instance (record : LaunchRecord) : Decidable record.Readable :=
  match found : record.attempt.launcher.version record.attempt.versionName with
  | .error _ => isTrue (by simp [LaunchRecord.Readable, found])
  | .ok version =>
    decidable_of_iff
      ((∀ key ∈ configKeys version.toSparkVersion record.attempt.userConfig, '=' ∉ key.toList) ∧
        isOption record.attempt.launcher.pluginPath = false)
      (by simp [LaunchRecord.Readable, found])

theorem reads_back_sets {launcher : SparkLauncher} {version : SparkVersion} {token : String}
    {configs : HashMap} {args : List String} (read : ReadsBack launcher version token configs args)
    {e : Entry} (given : e ∈ internalConfigs launcher token) : Sets args e.1 e.2 := by
  obtain ⟨options, settings, reading⟩ := read
  refine ⟨settings, ?_, fun other => ⟨fun set => ?_, ?_⟩⟩
  · simp [confSettings, reading.parsed, reading.set]
  · have same := List.inj_on_of_nodup_map reading.once set (reading.internal e given) rfl
    exact congrArg Prod.snd same
  · rintro rfl
    exact reading.internal e given

/-- What the server sets for itself is what spark-submit reads. -/
theorem submit_sets {o : IterationOrder} {self : VersionedLauncher} {version : NamedVersion}
    {request : LaunchRequest} {tarball : Option String} {program : String} {args : List String}
    (h : submitCommand o self version request tarball = .ok (program, args))
    (readable : ∀ key ∈ configKeys version.toSparkVersion request.userConfig, '=' ∉ key.toList)
    (plugin : isOption self.pluginPath = false) {e : Entry}
    (given : e ∈ internalConfigs self.toSparkLauncher request.token) : Sets args e.1 e.2 := by
  unfold submitCommand at h
  cases built : buildSubmitCommand o self.toSparkLauncher version.toSparkVersion request.sessionId
      request.appName request.username request.token request.userConfig tarball with
  | error error =>
    rw [built] at h
    simp [Except.mapError] at h
  | ok command =>
    rw [built] at h
    obtain rfl : command = (program, args) := Except.ok.inj h
    exact reads_back_sets (readable_reading built readable plugin) given

/-- What is known of the one driver of a launch. -/
theorem attempt_drivers (record : LaunchRecord) :
    ((record.attempt.launch record.app).result = .ok () ∧ ∃ args,
      record.drivers = [⟨record.app, args⟩] ∧ (record.Readable →
        ∀ e ∈ internalConfigs record.attempt.launcher.toSparkLauncher record.app.token,
          Sets args e.1 e.2)) ∨
    ((record.attempt.launch record.app).result ≠ .ok () ∧ record.drivers = []) := by
  unfold LaunchRecord.drivers Attempt.drivers
  rcases launch_drivers record.attempt.machine record.attempt.order record.attempt.launcher
      (record.attempt.request record.app) with
    ⟨ok, version, tarball, program, args, known, command, started⟩ | ⟨failed, none⟩
  · have listed : drivers record.attempt.machine (record.attempt.launch record.app).commands =
        [(program, args)] := started
    rw [listed]
    refine Or.inl ⟨ok, args, rfl, fun readable e given => ?_⟩
    obtain ⟨keys, plugin⟩ := readable version known
    exact submit_sets command keys plugin given
  · have listed : drivers record.attempt.machine (record.attempt.launch record.app).commands =
        [] := none
    rw [listed]
    exact Or.inr ⟨failed, rfl⟩

theorem drivers_cons (record : LaunchRecord) (history : List LaunchRecord) :
    Deployment.drivers (record :: history) = record.drivers ++ Deployment.drivers history := rfl

/-- What is read of the drivers is read of the launches, in order. -/
theorem drivers_sublist {K : Type} (key : Model → K) (history : List LaunchRecord) :
    ((Deployment.drivers history).map fun driver => key driver.app).Sublist
      (history.map fun record => key record.app) := by
  induction history with
  | nil => exact List.Sublist.refl []
  | cons record history ih =>
    rw [drivers_cons]
    rcases attempt_drivers record with ⟨_, args, started, _⟩ | ⟨_, none⟩
    · simpa [started] using ih
    · simpa [none] using ih.cons (key record.app)

theorem keys_nodup {K : Type} [DecidableEq K] {key : Model → K} {history : List LaunchRecord}
    (once : ∀ k, history.countP (fun record => key record.app = k) ≤ 1) :
    (history.map fun record => key record.app).Nodup := by
  refine List.nodup_iff_count_le_one.mpr fun k => ?_
  rw [List.count_eq_countP, List.countP_map]
  have counted := once k
  simpa [Function.comp_def, beq_eq_decide] using counted

/-- In every run of a cluster, over any number of servers, restarts and clients that
disconnect: the drivers that were started belong to different applications and, as each drawn
token is unused, have different tokens; spark-submit reads from the arguments of each the token
of its application and no other, if no key of its configs contains '='; an application that is
reported as created has one, and one whose launch is to be marked as failed has none. -/
theorem one_driver_per_application {db : Db} {ms : List (Move Action × Attempt)} {s : Cluster}
    {history : List LaunchRecord}
    (fresh : Along Deployment.step DrawsUnused (.start db) ms)
    (carried : Along Deployment.step CarriedOut (.start db) ms)
    (run : exec Deployment.step (.start db) ms = some (s, history)) :
    ((Deployment.drivers history).map (·.app.id)).Nodup ∧
    ((Deployment.drivers history).map (·.app.token)).Nodup ∧
    (∀ record ∈ history, record.Readable → ∀ driver ∈ record.drivers,
      Sets driver.args TOKEN_CONFIG driver.app.token) ∧
    ∀ (i n : Nat) process, s.locals[i]? = some process →
      (∀ app, process.routes.creates[n]? = some (.answered (.ok app)) →
        ∃ driver ∈ Deployment.drivers history, driver.app = app) ∧
      ∀ app, process.routes.creates[n]? = some (.launchFailed app) →
        ∀ driver ∈ Deployment.drivers history, driver.app.id ≠ app.id := by
  have ids : (history.map (·.app.id)).Nodup :=
    keys_nodup fun id => launched_once _ (id_ticket id) fresh run
  have tokens : (history.map (·.app.token)).Nodup :=
    keys_nodup fun token => launched_once _ (token_ticket token) fresh run
  have recorded := recorded_run carried run
  refine ⟨(drivers_sublist _ history).nodup ids, (drivers_sublist _ history).nodup tokens, ?_, ?_⟩
  · intro record _ readable driver started
    rcases attempt_drivers record with ⟨_, args, one, sets⟩ | ⟨_, none⟩
    · rw [one] at started
      obtain rfl := List.mem_singleton.mp started
      exact sets readable ⟨TOKEN_CONFIG, record.app.token⟩ (by simp [internalConfigs])
    · simp [none] at started
  · intro i n process there
    constructor
    · intro app created
      obtain ⟨record, member, rfl, ok⟩ := recorded i process n _ app true there created rfl
      rcases attempt_drivers record with ⟨_, args, one, _⟩ | ⟨failed, _⟩
      · have started : ⟨record.app, args⟩ ∈ record.drivers := by
          rw [one]
          exact List.mem_singleton_self _
        exact ⟨_, List.mem_flatMap.mpr ⟨record, member, started⟩, rfl⟩
      · exact absurd (ok.mp rfl) failed
    · intro app failed driver member same
      obtain ⟨record, kept, rfl, ok⟩ := recorded i process n _ app false there failed rfl
      obtain ⟨other, in_history, started⟩ := List.mem_flatMap.mp member
      rcases attempt_drivers other with ⟨done, args, one, _⟩ | ⟨_, none⟩
      · rw [one] at started
        obtain rfl := List.mem_singleton.mp started
        obtain rfl : other = record := List.inj_on_of_nodup_map ids in_history kept same
        exact absurd (ok.mpr done) (by simp)
      · simp [none] at started

def workingMachine : Machine :=
  { tempdir := .ok "/tmp/spark-plug-venv", status := fun _ _ => .ok true
    spawn := fun _ _ _ => .ok () }

def plainAttempt : Attempt :=
  { machine := workingMachine, order := insertionOrder
    launcher := { testLauncher with
      versions := [{ home := "/opt/spark", name := "default" }], versioned := by simp }
    userConfig := testUserConfig }

/-- Bob asks for a version that his server does not have. The other server launches for
alice, restarts, and launches for carol. -/
def restartedRun : List (Move Action × Attempt) :=
  [(.join, plainAttempt), (.join, plainAttempt),
   (.act 0 (.routes (.createInsert "alice" none "token-a" 0 true)), plainAttempt),
   (.act 1 (.routes (.createInsert "bob" none "token-b" 0 true)), plainAttempt),
   (.act 1 (.routes (.createLaunched 0 false)),
     { plainAttempt with versionName := some "4.0" }),
   (.act 0 (.routes (.createLaunched 0 true)), plainAttempt),
   (.act 0 .restart, plainAttempt),
   (.act 0 (.routes (.createInsert "carol" none "token-c" 0 true)), plainAttempt),
   (.act 0 (.routes (.createLaunched 0 true)), plainAttempt)]

theorem restarted_run_drivers : ∃ s history,
    exec Deployment.step (.start .new) restartedRun = some (s, history) ∧
    (Deployment.drivers history).map (·.app.token) = ["token-a", "token-c"] ∧
    ((Deployment.drivers history).map (·.app.id)).Nodup ∧
    ∀ record ∈ history, ∀ driver ∈ record.drivers,
      Sets driver.args TOKEN_CONFIG driver.app.token := by
  have computed : (exec Deployment.step (.start .new) restartedRun).any (fun d =>
      (Deployment.drivers d.2).map (·.app.token) = ["token-a", "token-c"] ∧
        ∀ record ∈ d.2, record.Readable) = true := by decide
  obtain ⟨⟨s, history⟩, run, facts⟩ := computed_run computed
  obtain ⟨tokens, readable⟩ := of_decide_eq_true facts
  have one := one_driver_per_application (by decide) (by decide) run
  exact ⟨s, history, run, tokens, one.1, fun record member =>
    one.2.2.1 record member (readable record member)⟩

end SparkPlug
