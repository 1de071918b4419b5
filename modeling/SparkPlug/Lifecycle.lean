import SparkPlug.World

/-!
The life of an application in the store: which states are final, and what the
address column says about the state. Both laws are broken by writes that do not
look at the state of the row; the conditions below name these writes.
-/
namespace SparkPlug
open KeyedTable Runs

/-- A statement that meets a row in a final state and would bring it back, or turn
FINISHED into FAILED. -/
def Revives (st : Statement) (r : Model) : Prop :=
  match st with
  | .appCallback token .. => r.token = token ∧ (r.state = .finished ∨ r.state = .failed)
  | .markApplicationFailed token => r.token = token ∧ r.state = .finished
  | .checkFailed id => r.id = id ∧ r.state = .finished
  | .createFailed id => r.id = id ∧ r.state = .finished
  | _ => False

instance (st : Statement) (r : Model) : Decidable (Revives st r) :=
  match st with
  | .appCallback token .. =>
    inferInstanceAs (Decidable (r.token = token ∧ (r.state = .finished ∨ r.state = .failed)))
  | .markApplicationFailed token =>
    inferInstanceAs (Decidable (r.token = token ∧ r.state = .finished))
  | .checkFailed id | .createFailed id =>
    inferInstanceAs (Decidable (r.id = id ∧ r.state = .finished))
  | .createInsert .. | .watcherFailed _ | .appCallbackDelete _ | .deleteApp .. | .prune _ =>
    inferInstanceAs (Decidable False)

def SparesTerminal (w : World) (a : Action) : Prop :=
  ∀ st ∈ w.statement a, ∀ r ∈ w.db.rows, ¬ Revives st r

instance (w : World) (a : Action) : Decidable (SparesTerminal w a) :=
  inferInstanceAs (Decidable (∀ st ∈ w.statement a, ∀ r ∈ w.db.rows, ¬ Revives st r))

/-- Final states between two states of a run, `as` being the actions between them. -/
structure TerminalKept (w : World) (as : List Action) (w' : World) : Prop where
  finished : ∀ i r, w.db.find i = some r → r.state = .finished →
    (∃ r', w'.db.find i = some r' ∧ r'.state = .finished) ∨
      (w'.db.find i = none ∧ ∃ cutoff, .check (.prune cutoff true) ∈ as)
  failed : ∀ i r, w.db.find i = some r → r.state = .failed →
    ∀ r', w'.db.find i = some r' → r'.state ≠ .launching ∧ r'.state ≠ .running

theorem row_finished {st : Statement} {r r' : Model} (spared : ¬ Revives st r)
    (final : r.state = .finished) (h : st.row r = some r') : r'.state = .finished := by
  cases st <;> grind [Statement.row, Statement.filter, Statement.set, Revives]

theorem row_failed {st : Statement} {r r' : Model} (spared : ¬ Revives st r)
    (final : r.state = .failed) (h : st.row r = some r') :
    r'.state = .failed ∨ r'.state = .finished := by
  cases st <;> grind [Statement.row, Statement.filter, Statement.set, Revives]

/-- A statement breaks the finality of a row exactly when it revives it. -/
theorem row_final_iff (st : Statement) (r : Model) :
    ((r.state = .finished → ∀ r', st.row r = some r' → r'.state = .finished) ∧
      (r.state = .failed → ∀ r', st.row r = some r' →
        r'.state ≠ .launching ∧ r'.state ≠ .running)) ↔ ¬ Revives st r := by
  constructor
  · intro final revives
    cases st <;> grind [Statement.row, Statement.filter, Statement.set, Revives]
  · intro spared
    constructor
    · intro finished r' kept
      exact row_finished spared finished kept
    · intro failed r' kept
      have next := row_failed spared failed kept
      grind

/-- A row that is gone stays gone, since ids are not handed out again. -/
theorem gone_run {w w' : World} {as : List Action} {i : Int} (gone : w.db.find i = none)
    (used : i < w.db.next) (run : exec World.step w as = some w') : w'.db.find i = none := by
  have pres : Preserves World.step (fun _ _ => True)
      (fun w => w.db.find i = none ∧ i < w.db.next) := by
    intro s a s' inv _ h
    have more := step_next h
    refine ⟨?_, by omega⟩
    rw [step_db h]
    cases s.statement a with
    | none => exact inv.1
    | some st => exact find_exec_none inv.1 inv.2
  exact (invariant_run pres ⟨gone, used⟩ along_true run).1

/-- A row in a final state stays in one or is pruned. -/
theorem final_step {w w' : World} {a : Action} {i : Int} {r : Model}
    (stored : w.db.find i = some r) (spared : SparesTerminal w a) (h : w.step a = some w') :
    (∃ r', w'.db.find i = some r' ∧ (r.state = .finished → r'.state = .finished) ∧
      (r.state = .failed → r'.state = .failed ∨ r'.state = .finished)) ∨
    (w'.db.find i = none ∧ i < w'.db.next ∧ ∃ cutoff, a = .check (.prune cutoff true)) := by
  have found := step_find h stored
  cases issued : w.statement a with
  | none =>
    rw [issued] at found
    exact Or.inl ⟨r, found, id, Or.inl⟩
  | some st =>
    rw [issued] at found
    simp only [Option.elim_some] at found
    have kept := spared st issued r (Table.find_some stored).1
    cases next : st.row r with
    | some r' =>
      rw [next] at found
      refine Or.inl ⟨r', found, ?_, ?_⟩
      · intro finished
        exact row_finished kept finished next
      · intro failed
        exact row_failed kept failed next
    | none =>
      rw [next] at found
      obtain ⟨cutoff, rfl⟩ := Statement.row_none next
      have used := Table.find_lt stored
      have more := step_next h
      exact Or.inr ⟨found, by omega, cutoff, statement_prune issued⟩

theorem finished_run {w w' : World} {as : List Action} {i : Int} {r : Model}
    (stored : w.db.find i = some r) (final : r.state = .finished)
    (meets : Along World.step SparesTerminal w as) (run : exec World.step w as = some w') :
    (∃ r', w'.db.find i = some r' ∧ r'.state = .finished) ∨
      (w'.db.find i = none ∧ ∃ cutoff, .check (.prune cutoff true) ∈ as) := by
  induction as generalizing w r with
  | nil =>
    cases run
    exact Or.inl ⟨r, stored, final⟩
  | cons a as ih =>
    obtain ⟨w₁, first, rest⟩ := exec_cons.mp run
    rcases final_step stored meets.1 first with ⟨r₁, found, finished, _⟩ | ⟨gone, used, pruned⟩
    · have later := ih found (finished final) (meets.2 w₁ first) rest
      grind
    · obtain ⟨cutoff, rfl⟩ := pruned
      exact Or.inr ⟨gone_run gone used rest, cutoff, by simp⟩

theorem failed_run {w w' : World} {as : List Action} {i : Int} {r : Model}
    (stored : w.db.find i = some r) (final : r.state = .failed ∨ r.state = .finished)
    (meets : Along World.step SparesTerminal w as) (run : exec World.step w as = some w')
    {r' : Model} (stored' : w'.db.find i = some r') :
    r'.state = .failed ∨ r'.state = .finished := by
  induction as generalizing w r with
  | nil =>
    cases run
    rw [stored] at stored'
    cases stored'
    exact final
  | cons a as ih =>
    obtain ⟨w₁, first, rest⟩ := exec_cons.mp run
    rcases final_step stored meets.1 first with ⟨r₁, found, finished, failed⟩ | ⟨gone, used, _⟩
    · have final₁ : r₁.state = .failed ∨ r₁.state = .finished := by
        rcases final with was | was
        · exact failed was
        · exact Or.inr (finished was)
      exact ih found final₁ (meets.2 w₁ first) rest
    · have gone := gone_run gone used rest
      rw [gone] at stored'
      simp at stored'

/-- Final states are final in every run none of whose writes revives a row. -/
theorem terminal_states_final {w w' : World} {as : List Action}
    (meets : Along World.step SparesTerminal w as) (run : exec World.step w as = some w') :
    TerminalKept w as w' := by
  constructor
  · intro i r stored final
    exact finished_run stored final meets run
  · intro i r stored final r' stored'
    have later := failed_run stored (Or.inl final) meets run stored'
    grind

def deletedRun : List Action :=
  [.routes (.createInsert "alice" none "token-a" 0 true),
   .routes (.createLaunched 0 true),
   .routes (.deleteRead 1 "alice" true),
   .routes (.deleteUpdate 0 true),
   .routes (.deleteInvalidate 0)]

def lateCallback : List Action := [.routes (.appCallback "token-a" "10.0.0.1:15002" "app-1" true)]

/-- A second application comes and goes, and the deleted one is pruned. -/
def settledRun : List Action :=
  [.routes (.createInsert "bob" none "token-b" 60 true),
   .routes (.appCallback "token-b" "10.0.0.2:15002" "app-2" true),
   .check (.prune 30 true),
   .routes (.appCallbackDelete "token-b" "10.0.0.2:15002" true)]

theorem settled_run_final : ∃ w w', exec World.step (.start .new) deletedRun = some w ∧
    exec World.step w settledRun = some w' ∧ TerminalKept w settledRun w' := by
  have computed : (exec World.step (.start .new) deletedRun).any (fun w =>
      decide (Along World.step SparesTerminal w settledRun) &&
      (exec World.step w settledRun).isSome) = true := by decide
  obtain ⟨w, run, facts⟩ := computed_run computed
  simp only [Bool.and_eq_true, decide_eq_true_eq, Option.isSome_iff_exists] at facts
  obtain ⟨meets, w', run'⟩ := facts
  exact ⟨w, w', run, run', terminal_states_final meets run'⟩

/-- The driver of a deleted application registers and the row is RUNNING again. -/
theorem late_callback_revives :
    ∃ w w', exec World.step (.start .new) deletedRun = some w ∧
      w.routes.deletes = [.answered (.ok ())] ∧
      exec World.step w lateCallback = some w' ∧ ¬ TerminalKept w lateCallback w' := by
  have computed : (exec World.step (.start .new) deletedRun).any (fun w =>
      w.routes.deletes = [.answered (.ok ())] &&
      (w.db.find 1).any (·.state = .finished) &&
      (exec World.step w lateCallback).any fun w' =>
        (w'.db.find 1).any (·.state = .running)) = true := by decide
  obtain ⟨w, run, facts⟩ := computed_run computed
  simp only [Bool.and_eq_true, decide_eq_true_eq, Option.any_eq_true] at facts
  obtain ⟨⟨answered, r, stored, finished⟩, w', run', r', stored', running⟩ := facts
  refine ⟨w, w', run, answered, run', fun kept => ?_⟩
  rcases kept.finished 1 r stored finished with ⟨s, found, state⟩ | ⟨absent, _⟩
  · simp_all
  · simp_all

/- The address column. -/

def AddressIffRunning (db : Db) : Prop :=
  ∀ r ∈ db.rows, r.address.isSome = true ↔ r.state = .running

/-- The update of a failed launch, which leaves the address, meets no running row. -/
def SparesRunning (w : World) (a : Action) : Prop :=
  ∀ st ∈ w.statement a, ∀ r ∈ w.db.rows, st = .createFailed r.id → r.state ≠ .running

instance (w : World) (a : Action) : Decidable (SparesRunning w a) :=
  inferInstanceAs (Decidable
    (∀ st ∈ w.statement a, ∀ r ∈ w.db.rows, st = .createFailed r.id → r.state ≠ .running))

theorem row_address_iff {st : Statement} {r r' : Model}
    (before : r.address.isSome = true ↔ r.state = .running) (h : st.row r = some r') :
    (r'.address.isSome = true ↔ r'.state = .running) ↔
      (st = .createFailed r.id → r.state ≠ .running) := by
  cases st <;> grind [Statement.row, Statement.filter, Statement.set]

theorem address_step {w w' : World} {a : Action} (before : AddressIffRunning w.db)
    (spared : SparesRunning w a) (h : w.step a = some w') : AddressIffRunning w'.db := by
  intro r' member
  rcases step_rows h member with ⟨_, old⟩ | ⟨st, issued, ⟨r, stored, kept⟩ | ⟨_, _, _, _, _, rfl⟩⟩
  · exact before r' old
  · exact (row_address_iff (before r stored) kept).mpr (spared st issued r stored)
  · simp [Statement.newRow]

theorem address_run {w : World} {as : List Action}
    (meets : Along World.step SparesRunning (.start .new) as)
    (run : exec World.step (.start .new) as = some w) : AddressIffRunning w.db := by
  have first : AddressIffRunning (World.start .new).db := by
    intro r member
    simp [World.start, Db.new, Table.empty] at member
  exact invariant_run (fun _ _ _ => address_step) first meets run

/-- A running row always has an address to resolve to. -/
theorem resolve_never_missing {db : Db} (inv : AddressIffRunning db) (token : String)
    (closed stored : Bool) :
    resolveRound db token closed stored ≠ .error .missingApplicationAddress := by
  intro missing
  obtain ⟨app, member, _, running, absent⟩ := resolve_round_missing missing
  have there := (inv app member).mpr running
  simp [absent] at there

/-- In every state reached without a failed-launch update of a running row, the
address says whether an application runs. -/
theorem address_iff_running {w : World} {as : List Action}
    (meets : Along World.step SparesRunning (.start .new) as)
    (run : exec World.step (.start .new) as = some w) :
    AddressIffRunning w.db ∧
      (∀ config, ∀ r ∈ w.db.rows,
        (ApplicationInfo.ofModel config r).active = true ↔ r.state = .running) ∧
      ∀ token closed stored,
        resolveRound w.db token closed stored ≠ .error .missingApplicationAddress := by
  have inv := address_run meets run
  exact ⟨inv, fun _ r member => inv r member, resolve_never_missing inv⟩

/-- Alice's driver registers and her application is deleted, the launch of bob's fails before
there is a driver, and carol's driver is running. -/
def mixedRun : List Action :=
  [.routes (.createInsert "alice" none "token-a" 0 true),
   .routes (.createInsert "bob" none "token-b" 0 true),
   .routes (.createLaunched 0 true),
   .routes (.appCallback "token-a" "10.0.0.1:15002" "app-1" true),
   .routes (.createLaunched 1 false),
   .routes (.createInsert "carol" none "token-c" 0 true),
   .routes (.createFailed 1 true),
   .routes (.appCallback "token-c" "10.0.0.3:15002" "app-3" true),
   .routes (.deleteRead 1 "alice" true),
   .routes (.deleteUpdate 0 true)]

theorem mixed_run_addresses : ∃ w, exec World.step (.start .new) mixedRun = some w ∧
    w.db.rows.map (·.state) = [.finished, .failed, .running] ∧ AddressIffRunning w.db := by
  have computed : (exec World.step (.start .new) mixedRun).any (fun w =>
      w.db.rows.map (·.state) = [.finished, .failed, .running]) = true := by decide
  obtain ⟨w, run, states⟩ := computed_run computed
  exact ⟨w, run, of_decide_eq_true states, (address_iff_running (by decide) run).1⟩

/-- The driver registers while the launch is still pending, and then the launch fails. -/
def failedLaunch : List Action :=
  [.routes (.createInsert "alice" none "token-a" 0 true),
   .routes (.appCallback "token-a" "10.0.0.1:15002" "app-1" true),
   .routes (.createLaunched 0 false),
   .routes (.createFailed 0 true)]

theorem failed_launch_keeps_address :
    ∃ w, exec World.step (.start .new) failedLaunch = some w ∧ ¬ AddressIffRunning w.db := by
  have computed : (exec World.step (.start .new) failedLaunch).any (fun w =>
      w.db.rows.any fun r => r.address.isSome && r.state = .failed) = true := by decide
  obtain ⟨w, run, facts⟩ := computed_run computed
  obtain ⟨r, member, state⟩ := List.any_eq_true.mp facts
  simp only [Bool.and_eq_true, decide_eq_true_eq] at state
  refine ⟨w, run, fun inv => ?_⟩
  have running := (inv r member).mp state.1
  simp [running] at state

end SparkPlug
