import SparkPlug.Library.Tasks
import SparkPlug.World

/-!
Who is going to move an application out of LAUNCHING. Ownership of the row passes
from the createApp handler to the launch watcher; a dropped handler and a restart
of the server lose it.
-/
namespace SparkPlug
open KeyedTable Runs

/-- The application that an executing createApp handler is in charge of. -/
def CreateApp.owns : CreateApp → Option Int
  | .launching app => some app.id
  | .launchFailed app => some app.id
  | _ => none

def Routes.Owns (s : Routes) (i : Int) : Prop :=
  (∃ task ∈ s.creates, task.owns = some i) ∨ i ∈ s.watchers

def LaunchingOwned (w : World) : Prop :=
  ∀ r ∈ w.db.rows, r.state = .launching → w.routes.Owns r.id

/-- Every statement of the action is answered by the store without an error. -/
def Action.stored : Action → Bool
  | .routes (.createInsert _ _ _ _ stored) | .routes (.createFailed _ stored)
  | .routes (.watcherDone _ stored) | .routes (.appCallback _ _ _ stored)
  | .routes (.appCallbackDelete _ _ stored) | .routes (.deleteRead _ _ stored)
  | .routes (.deleteUpdate _ stored) | .check (.checkRead stored)
  | .check (.checkUpdate _ stored) | .check (.prune _ stored) | .proxy (.storeLookup _ stored)
  | .proxy (.resolve _ stored) | .proxy (.markFailed _ stored) => stored
  | _ => true

/-- The two ways to lose the owner of a row that is still LAUNCHING. -/
def AbandonsLaunch (w : World) : Action → Prop
  | .routes (.createDropped n) =>
    ∃ task ∈ w.routes.creates[n]?, ∃ r ∈ w.db.rows, task.owns = some r.id ∧ r.state = .launching
  | .restart => ∃ r ∈ w.db.rows, r.state = .launching
  | _ => False

instance (w : World) (a : Action) : Decidable (AbandonsLaunch w a) :=
  match a with
  | .routes (.createDropped n) => inferInstanceAs (Decidable (∃ task ∈ w.routes.creates[n]?,
      ∃ r ∈ w.db.rows, task.owns = some r.id ∧ r.state = .launching))
  | .restart => inferInstanceAs (Decidable (∃ r ∈ w.db.rows, r.state = .launching))
  | .routes (.createInsert ..) | .routes (.createLaunched ..) | .routes (.createFailed ..)
  | .routes (.watcherDone ..) | .routes (.appCallback ..) | .routes (.appCallbackDelete ..)
  | .routes (.appCallbackDeleteInvalidate _) | .routes (.appCallbackDeleteDropped _)
  | .routes (.deleteRead ..) | .routes (.deleteUpdate ..) | .routes (.deleteStop ..)
  | .routes (.deleteInvalidate _) | .routes (.deleteDropped _) | .check _ | .proxy _ =>
    inferInstanceAs (Decidable False)

theorem owner_changed {creates : List CreateApp} {n : Nat} {new : CreateApp} {i : Int}
    (owner : ∃ task ∈ creates, task.owns = some i) :
    (∃ task ∈ creates.set n new, task.owns = some i) ∨
      ∃ task, creates[n]? = some task ∧ task.owns = some i := by
  obtain ⟨task, member, owns⟩ := owner
  have split : task ∈ creates.set n new ∨ creates[n]? = some task := Tasks.kept_or_changed member
  rcases split with kept | changed
  · exact Or.inl ⟨task, kept, owns⟩
  · exact Or.inr ⟨task, changed, owns⟩

/-- What an action does to the createApp calls and the launch watchers. -/
theorem launches_step {db : Db} {s : Routes} {a : RoutesAction} {outcome : RoutesOutcome}
    (stored : (Action.routes a).stored = true) (h : s.step db a = some outcome) :
    (outcome.routes.creates = s.creates ∧ outcome.routes.watchers = s.watchers) ∨
    (∃ task, outcome.routes.creates = s.creates ++ [task] ∧
      outcome.routes.watchers = s.watchers) ∨
    (∃ n app, s.creates[n]? = some (.launching app) ∧
      outcome.routes.creates = s.creates.set n (.answered (.ok app)) ∧
      outcome.routes.watchers = app.id :: s.watchers) ∨
    (∃ n app, s.creates[n]? = some (.launching app) ∧
      outcome.routes.creates = s.creates.set n (.launchFailed app) ∧
      outcome.routes.watchers = s.watchers) ∨
    (∃ n app new, s.creates[n]? = some (.launchFailed app) ∧
      outcome.routes.creates = s.creates.set n new ∧ outcome.routes.watchers = s.watchers ∧
      outcome.statement = some (.createFailed app.id)) ∨
    (∃ n, a = .createDropped n ∧ outcome.routes.creates = s.creates.set n .dropped ∧
      outcome.routes.watchers = s.watchers) ∨
    (∃ id, outcome.routes.creates = s.creates ∧ outcome.routes.watchers = s.watchers.erase id ∧
      outcome.statement = some (.watcherFailed id)) := by
  cases routes_step h with
  | inserted username name token createdAt => exact Or.inr (Or.inl ⟨_, rfl, rfl⟩)
  | insertRefused username name token createdAt => exact Or.inr (Or.inl ⟨_, rfl, rfl⟩)
  | launched n app at_n => exact Or.inr (Or.inr (Or.inl ⟨n, app, at_n, rfl, rfl⟩))
  | launchFailed n app at_n =>
    exact Or.inr (Or.inr (Or.inr (Or.inl ⟨n, app, at_n, rfl, rfl⟩)))
  | createFailed n stored' app at_n =>
    have ok : stored' = true := stored
    subst stored'
    exact Or.inr (Or.inr (Or.inr (Or.inr (Or.inl ⟨n, app, _, at_n, rfl, rfl, rfl⟩))))
  | createDropped n =>
    exact Or.inr (Or.inr (Or.inr (Or.inr (Or.inr (Or.inl ⟨n, rfl, rfl, rfl⟩)))))
  | watcherDone id stored' live =>
    have ok : stored' = true := stored
    subst stored'
    exact Or.inr (Or.inr (Or.inr (Or.inr (Or.inr (Or.inr ⟨id, rfl, rfl, rfl⟩)))))
  | _ => exact Or.inl ⟨rfl, rfl⟩

theorem owned_step {db : Db} {s : Routes} {a : RoutesAction} {outcome : RoutesOutcome} {i : Int}
    (stored : (Action.routes a).stored = true) (h : s.step db a = some outcome)
    (owned : s.Owns i) :
    outcome.routes.Owns i ∨ outcome.statement = some (.createFailed i) ∨
      outcome.statement = some (.watcherFailed i) ∨
      ∃ (n : Nat) (task : CreateApp), a = .createDropped n ∧ s.creates[n]? = some task ∧
        task.owns = some i := by
  unfold Routes.Owns at owned ⊢
  rcases launches_step stored h with ⟨creates, watchers⟩ | ⟨new, creates, watchers⟩ |
    ⟨n, app, there, creates, watchers⟩ | ⟨n, app, there, creates, watchers⟩ |
    ⟨n, app, new, there, creates, watchers, issued⟩ | ⟨n, rfl, creates, watchers⟩ |
    ⟨id, creates, watchers, issued⟩
  · rw [creates, watchers]
    exact Or.inl owned
  · rw [creates, watchers]
    rcases owned with ⟨task, member, owns⟩ | watched
    · exact Or.inl (Or.inl ⟨task, List.mem_append_left _ member, owns⟩)
    · exact Or.inl (Or.inr watched)
  · -- the launch succeeded: the watcher takes over
    rw [creates, watchers]
    rcases owned with owner | watched
    · rcases owner_changed owner with kept | ⟨task, at_n, owns⟩
      · exact Or.inl (Or.inl kept)
      · have : app.id = i := by simp_all [CreateApp.owns]
        exact Or.inl (Or.inr (by simp [this]))
    · exact Or.inl (Or.inr (List.mem_cons_of_mem _ watched))
  · rw [creates, watchers]
    rcases owned with owner | watched
    · rcases owner_changed owner with kept | ⟨task, at_n, owns⟩
      · exact Or.inl (Or.inl kept)
      · have bound := (List.getElem?_eq_some_iff.mp there).1
        obtain rfl : .launching app = task := Option.some.inj (there.symm.trans at_n)
        exact Or.inl (Or.inl ⟨.launchFailed app, List.mem_set bound _, owns⟩)
    · exact Or.inl (Or.inr watched)
  · rw [creates, watchers]
    rcases owned with owner | watched
    · rcases owner_changed owner with kept | ⟨task, at_n, owns⟩
      · exact Or.inl (Or.inl kept)
      · have : app.id = i := by simp_all [CreateApp.owns]
        exact Or.inr (Or.inl (by rw [issued, this]))
    · exact Or.inl (Or.inr watched)
  · rw [creates, watchers]
    rcases owned with owner | watched
    · rcases owner_changed owner with kept | ⟨task, at_n, owns⟩
      · exact Or.inl (Or.inl kept)
      · exact Or.inr (Or.inr (Or.inr ⟨n, task, rfl, at_n, owns⟩))
    · exact Or.inl (Or.inr watched)
  · rw [creates, watchers]
    rcases owned with owner | watched
    · exact Or.inl (Or.inl owner)
    · by_cases same : i = id
      · exact Or.inr (Or.inr (Or.inl (by rw [issued, same])))
      · exact Or.inl (Or.inr ((List.mem_erase_of_ne same).mpr watched))

/-- No statement moves a row back to LAUNCHING, and the two FAILED updates of a launch
take the row they are for out of it. -/
theorem row_launching {st : Statement} {r r' : Model} (h : st.row r = some r')
    (launching : r'.state = .launching) :
    r.state = .launching ∧ st ≠ .createFailed r.id ∧ st ≠ .watcherFailed r.id := by
  cases st <;> grind [Statement.row, Statement.filter, Statement.set]

theorem new_row_owned {db : Db} {s : Routes} {a : RoutesAction} {outcome : RoutesOutcome}
    {username token : String} {name : Option String} {createdAt : DateTimeUtc}
    (h : s.step db a = some outcome)
    (issued : outcome.statement = some (.createInsert username name token createdAt)) :
    outcome.routes.Owns db.next := by
  refine Or.inl ⟨.launching (Statement.newRow username name token createdAt db.next), ?_, rfl⟩
  have insert : a = .createInsert username name token createdAt true := by
    have issues := Routes.step_statement h
    simp_all
  subst a
  cases h
  simp

theorem routes_step_owned {w w' : World} {a : RoutesAction} (before : LaunchingOwned w)
    (stored : (Action.routes a).stored = true) (kept : ¬ AbandonsLaunch w (.routes a))
    (h : w.step (.routes a) = some w') : LaunchingOwned w' := by
  intro r' member launching
  have rows := step_rows h member
  obtain ⟨outcome, run, rfl⟩ := Option.map_eq_some_iff.mp h
  have same : w.statement (.routes a) = outcome.statement := by simp [World.statement, run]
  rw [same] at rows
  -- a row that was LAUNCHING before keeps an owner unless its owner wrote FAILED
  have carry : ∀ r ∈ w.db.rows, r.state = .launching →
      outcome.statement ≠ some (.createFailed r.id) →
      outcome.statement ≠ some (.watcherFailed r.id) → outcome.routes.Owns r.id := by
    intro r there was notFailed notWatcher
    rcases owned_step stored run (before r there was) with owned | failed | failed | dropped
    · exact owned
    · exact absurd failed notFailed
    · exact absurd failed notWatcher
    · obtain ⟨n, task, rfl, at_n, owns⟩ := dropped
      exact absurd ⟨task, at_n, r, there, owns, was⟩ kept
  rcases rows with ⟨none, old⟩ | ⟨st, eq, ⟨r, there, row⟩ | ⟨_, _, _, _, rfl, rfl⟩⟩
  · exact carry r' old launching (by simp [none]) (by simp [none])
  · obtain ⟨was, notFailed, notWatcher⟩ := row_launching row launching
    rw [Statement.row_id row]
    exact carry r there was (by simp [eq, notFailed]) (by simp [eq, notWatcher])
  · exact new_row_owned run eq

theorem other_step_owned {w w' : World} {a : Action} (before : LaunchingOwned w)
    (h : w.step a = some w') (same : w'.routes = w.routes)
    (noInsert : ∀ username name token createdAt,
      w.statement a ≠ some (.createInsert username name token createdAt)) :
    LaunchingOwned w' := by
  intro r' member launching
  rw [same]
  rcases step_rows h member with ⟨_, old⟩ | ⟨st, eq, ⟨r, there, row⟩ | ⟨_, _, _, _, rfl, rfl⟩⟩
  · exact before r' old launching
  · rw [Statement.row_id row]
    exact before r there (row_launching row launching).1
  · exact absurd eq (noInsert _ _ _ _)

theorem launching_owned_step {w w' : World} {a : Action} (before : LaunchingOwned w)
    (ok : a.stored = true ∧ ¬ AbandonsLaunch w a) (h : w.step a = some w') :
    LaunchingOwned w' := by
  cases a with
  | routes a => exact routes_step_owned before ok.1 ok.2 h
  | check a =>
    obtain ⟨outcome, run, rfl⟩ := Option.map_eq_some_iff.mp h
    refine other_step_owned before h rfl ?_
    intro username name token createdAt issued
    cases issued_by issued
  | proxy a =>
    obtain ⟨outcome, run, rfl⟩ := Option.map_eq_some_iff.mp h
    refine other_step_owned before h rfl ?_
    intro username name token createdAt issued
    cases issued_by issued
  | restart =>
    cases h
    intro r member launching
    exact absurd ⟨r, member, launching⟩ ok.2

/-- A watcher that completes takes its row out of LAUNCHING and leaves other states. -/
theorem watcher_completes {w : World} {i : Int} (live : i ∈ w.routes.watchers) :
    ∃ w', w.step (.routes (.watcherDone i true)) = some w' ∧ ∀ r, w.db.find i = some r →
      w'.db.find i = some (if r.state = .launching then { r with state := .failed } else r) := by
  have issued : w.statement (.routes (.watcherDone i true)) = some (.watcherFailed i) := by
    simp [World.statement, Routes.step, live]
  have enabled : (w.step (.routes (.watcherDone i true))).isSome = true := by
    simp [World.step, Routes.step, live]
  obtain ⟨w', h⟩ := Option.isSome_iff_exists.mp enabled
  refine ⟨w', h, fun r stored => ?_⟩
  rw [step_find h stored, issued]
  have key := (Table.find_some stored).2
  simp [Statement.row, Statement.filter, Statement.set, key]

/-- With a store that never fails, every LAUNCHING row has an owner in every run in
which no handler is dropped and no server restarted while it is in charge of one. -/
theorem launching_has_owner {w : World} {as : List Action}
    (stored : ∀ a ∈ as, a.stored = true)
    (kept : Along World.step (fun w a => ¬ AbandonsLaunch w a) (.start .new) as)
    (run : exec World.step (.start .new) as = some w) :
    LaunchingOwned w ∧ ∀ i ∈ w.routes.watchers,
      ∃ w', w.step (.routes (.watcherDone i true)) = some w' ∧ ∀ r, w.db.find i = some r →
        w'.db.find i = some (if r.state = .launching then { r with state := .failed } else r) := by
  have first : LaunchingOwned (World.start .new) := by
    intro r member
    simp [World.start, Db.new, Table.empty] at member
  have meets := along_and (along_of_mem stored) kept
  refine ⟨?_, fun i live => watcher_completes live⟩
  exact invariant_run (fun _ _ _ => launching_owned_step) first meets run

/-- One launch hands its row to a watcher; another client disconnects after its
driver has registered. -/
def ownedLaunches : List Action :=
  [.routes (.createInsert "alice" none "token-a" 0 true),
   .routes (.createLaunched 0 true),
   .routes (.createInsert "bob" none "token-b" 0 true),
   .routes (.appCallback "token-b" "10.0.0.2:15002" "app-2" true),
   .routes (.createDropped 1)]

theorem owned_launches_owner : ∃ w, exec World.step (.start .new) ownedLaunches = some w ∧
    (∃ r ∈ w.db.rows, r.state = .launching) ∧ LaunchingOwned w := by
  have computed : (exec World.step (.start .new) ownedLaunches).any (fun w =>
      w.db.rows.any fun r => r.state = .launching) = true := by decide
  obtain ⟨w, run, facts⟩ := computed_run computed
  obtain ⟨r, member, state⟩ := List.any_eq_true.mp facts
  have owned := (launching_has_owner (by decide) (by decide) run).1
  exact ⟨w, run, ⟨r, member, of_decide_eq_true state⟩, owned⟩

/-- The client disconnects while the launch is pending. -/
def droppedLaunch : List Action :=
  [.routes (.createInsert "alice" none "token-a" 0 true), .routes (.createDropped 0)]

theorem dropped_launch_stuck :
    ∃ w, exec World.step (.start .new) droppedLaunch = some w ∧
      (∀ a ∈ droppedLaunch, a.stored = true) ∧ ¬ LaunchingOwned w := by
  have computed : (exec World.step (.start .new) droppedLaunch).any (fun w =>
      w.db.rows.any (fun r => r.state = .launching) && w.routes.watchers = [] &&
      w.routes.creates = [.dropped]) = true := by decide
  obtain ⟨w, run, facts⟩ := computed_run computed
  simp only [Bool.and_eq_true, decide_eq_true_eq, List.any_eq_true] at facts
  obtain ⟨⟨⟨r, member, launching⟩, watchers⟩, creates⟩ := facts
  refine ⟨w, run, by decide, fun owned => ?_⟩
  have owner := owned r member launching
  simp [Routes.Owns, watchers, creates, CreateApp.owns] at owner

end SparkPlug
