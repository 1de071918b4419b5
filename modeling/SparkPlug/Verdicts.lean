import SparkPlug.ProxySteps
import SparkPlug.World

/-!
Whether a failure verdict hits the registration it was reached on. A prober reads
an address from the store, probes it, and later writes FAILED by id or by token;
a registration may come between.
-/
namespace SparkPlug
open KeyedTable Runs

inductive Prober where
  | check (n : Nat)
  | dispatcher (d : Nat)
  deriving DecidableEq

structure Verdict where
  prober : Prober
  statement : Statement
  /- The address that was read and probed. -/
  probed : Option String

namespace World

/-- The FAILED update that an action executes after its probes have failed. -/
def verdict (w : World) : Action → Option Verdict
  | .check (.checkUpdate n true) =>
    match w.checks[n]? with
    | some (.failing app _) => some ⟨.check n, .checkFailed app.id, app.address⟩
    | _ => none
  | .proxy (.markFailed d true) =>
    match w.proxy.dispatchers[d]? with
    | some disp =>
      match disp.phase with
      | .failing _ address _ =>
        some ⟨.dispatcher d, .markApplicationFailed disp.token, some address⟩
      | _ => none
    | none => none
  | _ => none

/-- The prober that reads addresses from the store in this action. -/
def reads (w : World) : Action → Option Prober
  | .check (.checkRead _) => some (.check w.checks.length)
  | .proxy (.resolve d _) => some (.dispatcher d)
  | _ => none

end World

/-- A verdict leaves a row as it is, or the row holds the address that was probed. -/
def SparesNewer (w : World) (a : Action) : Prop :=
  ∀ v ∈ w.verdict a, ∀ r ∈ w.db.rows, v.statement.filter r = true →
    (r.state = .failed ∧ r.address = none) ∨ r.address = v.probed

instance (w : World) (a : Action) : Decidable (SparesNewer w a) :=
  inferInstanceAs (Decidable (∀ v ∈ w.verdict a, ∀ r ∈ w.db.rows, v.statement.filter r = true →
    (r.state = .failed ∧ r.address = none) ∨ r.address = v.probed))

/- For each prober and row id the address that the last write to the row has
registered, if there was a write since the prober read it and it was a registration. -/
abbrev Since := Prober → Int → Option String

def Statement.registers : Statement → Option String
  | .appCallback _ address _ => some address
  | _ => none

namespace Since

def write (db : Db) (st : Option Statement) (since : Since) : Since := fun prober i =>
  match st with
  | some st => if (db.find i).any st.filter then st.registers else since prober i
  | none => since prober i

def observe (w : World) (a : Action) (since : Since) : Since := fun prober i =>
  if w.reads a = some prober then none else since.write w.db (w.statement a) prober i

end Since

abbrev probedStep : World × Since → Action → Option (World × Since) :=
  withHistory World.step Since.observe

/-- The last write to a row that a verdict hits, since the address was read, has not
registered another address than the one probed. -/
def NotOvertaken (s : World × Since) (a : Action) : Prop :=
  ∀ v ∈ s.1.verdict a, ∀ r ∈ s.1.db.rows, v.statement.filter r = true →
    ∀ address ∈ s.2 v.prober r.id, v.probed = some address

instance (s : World × Since) (a : Action) : Decidable (NotOvertaken s a) :=
  inferInstanceAs (Decidable (∀ v ∈ s.1.verdict a, ∀ r ∈ s.1.db.rows,
    v.statement.filter r = true → ∀ address ∈ s.2 v.prober r.id, v.probed = some address))

/-- Registrations, checks and the proxy. -/
def Action.probing : Action → Bool
  | .routes (.appCallback ..) => true
  | .check (.checkRead _) | .check (.checkProbe ..) | .check (.checkUpdate ..) => true
  | .proxy _ => true
  | _ => false

/- A row as it follows from the address read and the writes since. -/
def Follows (since read : Option String) (r : Model) : Prop :=
  match since with
  | some address => r.address = some address
  | none => (r.state = .failed ∧ r.address = none) ∨ r.address = read

def Check.pending : Check → List Model
  | .next apps => apps
  | .failing app rest => app :: rest
  | .ended _ => []

structure Watched (s : World × Since) : Prop where
  distinct : TokensDistinct s.1.db
  checks : ∀ n check, s.1.checks[n]? = some check → ∀ app ∈ check.pending, ∀ r ∈ s.1.db.rows,
    r.id = app.id → Follows (s.2 (.check n) r.id) app.address r
  dispatchers : ∀ d disp, s.1.proxy.dispatchers[d]? = some disp →
    ∀ address, disp.phase.address = some address → ∀ r ∈ s.1.db.rows, r.token = disp.token →
      Follows (s.2 (.dispatcher d) r.id) (some address) r

theorem follows_write {st : Statement} {r r' : Model} {since read : Option String}
    (kind : st.registers ≠ none ∨ (∃ token, st = .markApplicationFailed token) ∨
      ∃ id, st = .checkFailed id)
    (before : Follows since read r) (h : st.row r = some r') :
    Follows (if st.filter r then st.registers else since) read r' := by
  by_cases hit : st.filter r = true
  · rcases kind with registers | ⟨token, rfl⟩ | ⟨id, rfl⟩
    · cases st with
      | appCallback token address applicationId =>
        simp only [Statement.row, hit, ↓reduceIte, Option.some.injEq] at h
        subst r'
        simp [hit, Statement.registers, Follows, Statement.set]
      | _ => simp [Statement.registers] at registers
    · simp only [Statement.row, hit, ↓reduceIte, Option.some.injEq] at h
      subst r'
      simp [hit, Statement.registers, Follows, Statement.set]
    · simp only [Statement.row, hit, ↓reduceIte, Option.some.injEq] at h
      subst r'
      simp [hit, Statement.registers, Follows, Statement.set]
  · have same : r' = r := by
      rcases kind with registers | ⟨token, rfl⟩ | ⟨id, rfl⟩
      · cases st <;> simp_all [Statement.row, Statement.registers]
      · simp_all [Statement.row]
      · simp_all [Statement.row]
    simp only [hit, Bool.false_eq_true, ↓reduceIte, same]
    exact before

/-- The statements of registrations, checks and the proxy. -/
theorem probing_statement {w : World} {a : Action} {st : Statement} (kind : a.probing = true)
    (h : w.statement a = some st) : st.registers ≠ none ∨
      (∃ token, st = .markApplicationFailed token) ∨ ∃ id, st = .checkFailed id := by
  cases issued_by h with
  | appCallback token address applicationId => exact Or.inl (by simp [Statement.registers])
  | checkFailed n app rest at_n => exact Or.inr (Or.inr ⟨app.id, rfl⟩)
  | markApplicationFailed d disp msg address lastError at_d phase =>
    exact Or.inr (Or.inl ⟨disp.token, rfl⟩)
  | _ => simp [Action.probing] at kind

/-- A row after a step stems from one before it, and follows the address read as that did. -/
theorem follows_step {w w' : World} {since : Since} {a : Action} (kind : a.probing = true)
    (h : w.step a = some w') {r' : Model} (member : r' ∈ w'.db.rows) :
    ∃ r ∈ w.db.rows, r.id = r'.id ∧ r.token = r'.token ∧
      ∀ prober read, Follows (since prober r.id) read r →
        Follows (since.write w.db (w.statement a) prober r.id) read r' := by
  rcases step_rows h member with ⟨none, old⟩ | ⟨st, issued, ⟨r, stored, kept⟩ | new⟩
  · refine ⟨r', old, rfl, rfl, fun prober read before => ?_⟩
    simpa [Since.write, none] using before
  · refine ⟨r, stored, (Statement.row_id kept).symm, (Statement.row_owner kept).2.symm, ?_⟩
    intro prober read before
    have after := follows_write (probing_statement kind issued) before kept
    simpa [Since.write, issued, Table.find_mem stored] using after
  · obtain ⟨_, _, _, _, rfl, rfl⟩ := new
    obtain rfl := statement_insert issued
    simp [Action.probing] at kind

/-- A check keeps the applications it has still to handle, or has just read them. -/
theorem check_pending_step {db : Db} {checks : List Check} {a : CheckAction}
    {outcome : CheckOutcome} (h : Check.step db checks a = some outcome) {n : Nat} {check : Check}
    (there : outcome.checks[n]? = some check) :
    (∃ old, checks[n]? = some old ∧ ∀ app ∈ check.pending, app ∈ old.pending) ∨
      (n = checks.length ∧ (∃ stored, a = .checkRead stored) ∧ outcome.statement = none ∧
        ∀ app ∈ check.pending, app ∈ db.rows) := by
  cases a with
  | checkRead stored =>
    cases h
    rcases Tasks.at_spawned there with ⟨rfl, rfl⟩ | old
    · refine Or.inr ⟨rfl, ⟨stored, rfl⟩, rfl, ?_⟩
      intro app member
      cases stored with
      | true => exact (List.mem_filter.mp member).1
      | false => simp [Check.pending] at member
    · exact Or.inl ⟨check, old, fun app member => member⟩
  | checkProbe m outcome' =>
    simp only [Check.step] at h
    split at h
    · cases h
      rcases Tasks.at_changed there with ⟨rfl, rfl⟩ | ⟨_, old⟩
      · rename_i at_m
        exact Or.inl ⟨_, at_m, fun app member => by simp [Check.pending] at member⟩
      · exact Or.inl ⟨check, old, fun app member => member⟩
    · rename_i app rest at_m
      split at h <;> obtain rfl := Option.some.inj h <;>
        rcases Tasks.at_changed there with ⟨rfl, rfl⟩ | ⟨_, old⟩
      · exact Or.inl ⟨_, at_m, fun app member => member⟩
      · exact Or.inl ⟨check, old, fun app member => member⟩
      · exact Or.inl ⟨_, at_m, fun app member => List.mem_cons_of_mem _ member⟩
      · exact Or.inl ⟨check, old, fun app member => member⟩
    · simp at h
  | checkUpdate m stored =>
    simp only [Check.step] at h
    split at h
    · rename_i app rest at_m
      split at h <;> obtain rfl := Option.some.inj h <;>
        rcases Tasks.at_changed there with ⟨rfl, rfl⟩ | ⟨_, old⟩
      · refine Or.inl ⟨_, at_m, fun app' member => ?_⟩
        split at member
        · simp [Check.pending] at member
        · exact List.mem_cons_of_mem _ member
      · exact Or.inl ⟨check, old, fun app member => member⟩
      · exact Or.inl ⟨_, at_m, fun app member => by simp [Check.pending] at member⟩
      · exact Or.inl ⟨check, old, fun app member => member⟩
    · simp at h
  | prune cutoff stored =>
    cases h
    exact Or.inl ⟨check, there, fun app member => member⟩

/-- A dispatcher keeps the address it is connecting to, or has just read it. -/
theorem dispatcher_address_step {db : Db} {p : Proxy} {a : ProxyAction} {outcome : ProxyOutcome}
    (h : p.step db a = some outcome) {d : Nat} {disp' : Dispatcher} {address : String}
    (there : outcome.proxy.dispatchers[d]? = some disp')
    (connecting : disp'.phase.address = some address) :
    (∃ disp, p.dispatchers[d]? = some disp ∧ disp.token = disp'.token ∧
      disp.phase.address = some address ∧ ∀ stored, a ≠ .resolve d stored) ∨
      ∃ stored, a = .resolve d stored ∧ ∃ r ∈ db.rows, r.token = disp'.token ∧
        r.state = .running ∧ r.address = some address := by
  have old : p.dispatchers[d]? = some disp' → ∃ disp, p.dispatchers[d]? = some disp ∧
      disp.token = disp'.token ∧ disp.phase.address = some address ∧
      ∀ stored, a ≠ .resolve d stored := by
    intro before
    refine ⟨disp', before, rfl, connecting, ?_⟩
    intro stored reading
    subst a
    obtain ⟨disp, msg, at_d, phase⟩ := resolve_enabled h
    obtain rfl := Option.some.inj (before.symm.trans at_d)
    simp [phase, DispatcherPhase.address] at connecting
  rcases dispatcher_origin h there with before | ⟨_, _, _, token, _, _, _, rfl⟩ |
    ⟨disp, at_d, move⟩
  · exact Or.inl (old before)
  · simp [DispatcherPhase.address] at connecting
  · cases move with
    | enqueued r req token holding => exact Or.inl ⟨disp, at_d, rfl, connecting, by simp⟩
    | resolved msg read stored phase round =>
      simp only [DispatcherPhase.address, Option.some.injEq] at connecting
      subst read
      obtain ⟨app, member, token, running, held⟩ := resolve_round_resolved round
      exact Or.inr ⟨stored, rfl, app, member, token, running, held⟩
    | exhausted msg read outcome' error phase mismatch =>
      simp only [DispatcherPhase.address, Option.some.injEq] at connecting
      subst read
      exact Or.inl ⟨disp, at_d, rfl, by simp [phase, DispatcherPhase.address], by simp⟩
    | received msg rest phase queue token =>
      by_cases idle : disp.upstream.isNone = true
      · simp [idle, DispatcherPhase.address] at connecting
      · simp [idle, DispatcherPhase.address] at connecting
    | _ => simp [DispatcherPhase.address] at connecting

theorem probing_fresh {w : World} {a : Action} (kind : a.probing = true) : DrawsFresh w a := by
  intro token drawn
  cases a with
  | routes a => cases a <;> simp_all [Action.newToken, Action.probing]
  | _ => simp [Action.newToken] at drawn

theorem watched_checks {w w' : World} {since : Since} {a : Action} (before : Watched (w, since))
    (kind : a.probing = true) (h : w.step a = some w') :
    ∀ n check, w'.checks[n]? = some check → ∀ app ∈ check.pending, ∀ r' ∈ w'.db.rows,
      r'.id = app.id → Follows (since.observe w a (.check n) r'.id) app.address r' := by
  intro n check there app pending r' member same
  have origin : (∃ old, w.checks[n]? = some old ∧ app ∈ old.pending) ∨
      (n = w.checks.length ∧ (∃ stored, a = .check (.checkRead stored)) ∧
        w.statement a = none ∧ app ∈ w.db.rows) := by
    cases a with
    | check act =>
      obtain ⟨outcome, run, rfl⟩ := Option.map_eq_some_iff.mp h
      have issued : w.statement (.check act) = outcome.statement := by simp [World.statement, run]
      rcases check_pending_step run there with ⟨old, at_n, kept⟩ | ⟨rfl, ⟨stored, rfl⟩, none, read⟩
      · exact Or.inl ⟨old, at_n, kept app pending⟩
      · exact Or.inr ⟨rfl, ⟨stored, rfl⟩, issued.trans none, read app pending⟩
    | routes act =>
      obtain ⟨outcome, run, rfl⟩ := Option.map_eq_some_iff.mp h
      exact Or.inl ⟨check, there, pending⟩
    | proxy act =>
      obtain ⟨outcome, run, rfl⟩ := Option.map_eq_some_iff.mp h
      exact Or.inl ⟨check, there, pending⟩
    | restart => simp [Action.probing] at kind
  rcases origin with ⟨old, at_n, was⟩ | ⟨rfl, ⟨stored, rfl⟩, none, read⟩
  · obtain ⟨r, stored, rid, _, follows⟩ := @follows_step w w' since a kind h r' member
    have bound := (List.getElem?_eq_some_iff.mp at_n).1
    have notRead : w.reads a ≠ some (.check n) := by
      cases a with
      | check act =>
        cases act with
        | checkRead => simp only [World.reads, ne_eq, Option.some.injEq, Prober.check.injEq]; omega
        | _ => simp [World.reads]
      | proxy act => cases act <;> simp [World.reads]
      | _ => simp [World.reads]
    have after := follows _ _ (before.checks n old at_n app was r stored (rid.trans same))
    simpa [Since.observe, notRead, rid] using after
  · have unchanged : w'.db = w.db := by rw [step_db h, none]; rfl
    rw [unchanged] at member
    obtain rfl := Table.same_key member read same
    have reset : since.observe w (.check (.checkRead stored)) (.check w.checks.length) r'.id =
        Option.none := by simp [Since.observe, World.reads]
    rw [reset]
    exact Or.inr rfl

theorem watched_dispatchers {w w' : World} {since : Since} {a : Action}
    (before : Watched (w, since)) (kind : a.probing = true) (h : w.step a = some w') :
    ∀ d disp, w'.proxy.dispatchers[d]? = some disp → ∀ address,
      disp.phase.address = some address → ∀ r' ∈ w'.db.rows, r'.token = disp.token →
        Follows (since.observe w a (.dispatcher d) r'.id) (some address) r' := by
  intro d disp there address connecting r' member same
  have origin : (∃ old, w.proxy.dispatchers[d]? = some old ∧ old.token = disp.token ∧
      old.phase.address = some address ∧ ∀ stored, a ≠ .proxy (.resolve d stored)) ∨
      ∃ stored, a = .proxy (.resolve d stored) ∧ ∃ r ∈ w.db.rows, r.token = disp.token ∧
        r.state = .running ∧ r.address = some address := by
    cases a with
    | proxy act =>
      obtain ⟨outcome, run, rfl⟩ := Option.map_eq_some_iff.mp h
      rcases dispatcher_address_step run there connecting with
        ⟨old, at_d, token, was, other⟩ | ⟨stored, rfl, read⟩
      · exact Or.inl ⟨old, at_d, token, was, fun stored => by simpa using other stored⟩
      · exact Or.inr ⟨stored, rfl, read⟩
    | routes act =>
      obtain ⟨outcome, run, rfl⟩ := Option.map_eq_some_iff.mp h
      have kept : (World.invalidate w.proxy outcome.invalidate).dispatchers =
          w.proxy.dispatchers := by
        cases outcome.invalidate <;> rfl
      simp only [kept] at there
      exact Or.inl ⟨disp, there, rfl, connecting, by simp⟩
    | check act =>
      obtain ⟨outcome, run, rfl⟩ := Option.map_eq_some_iff.mp h
      exact Or.inl ⟨disp, there, rfl, connecting, by simp⟩
    | restart => simp [Action.probing] at kind
  rcases origin with ⟨old, at_d, token, was, other⟩ | ⟨stored, rfl, r, read, token, _, held⟩
  · obtain ⟨r, stored, rid, rtok, follows⟩ := @follows_step w w' since a kind h r' member
    have notRead : w.reads a ≠ some (.dispatcher d) := by
      cases a with
      | proxy act =>
        cases act with
        | resolve m stored =>
          have ne := other stored
          simpa [World.reads] using ne
        | _ => simp [World.reads]
      | check act => cases act <;> simp [World.reads]
      | _ => simp [World.reads]
    have owner : r.token = old.token := rtok.trans (same.trans token.symm)
    have after := follows _ _ (before.dispatchers d old at_d address was r stored owner)
    simpa [Since.observe, notRead, rid] using after
  · have quiet : w.statement (.proxy (.resolve d stored)) = none := by
      cases issued : w.statement (.proxy (.resolve d stored)) with
      | none => rfl
      | some st => cases issued_by issued
    have unchanged : w'.db = w.db := by rw [step_db h, quiet]; rfl
    rw [unchanged] at member
    have one := before.distinct r' member r read (same.trans token.symm)
    obtain rfl := Table.same_key member read one
    have reset : since.observe w (.proxy (.resolve d stored)) (.dispatcher d) r'.id =
        none := by simp [Since.observe, World.reads]
    rw [reset]
    exact Or.inr held

theorem watched_step {s s' : World × Since} {a : Action} (before : Watched s)
    (kind : a.probing = true) (h : probedStep s a = some s') : Watched s' := by
  obtain ⟨w, since⟩ := s
  obtain ⟨w', since'⟩ := s'
  obtain ⟨step, rfl⟩ := with_history_step.mp h
  constructor
  · exact tokens_distinct_step before.distinct (probing_fresh kind) step
  · exact watched_checks before kind step
  · exact watched_dispatchers before kind step

theorem verdict_follows {s : World × Since} {a : Action} (watched : Watched s) {v : Verdict}
    (reached : s.1.verdict a = some v) {r : Model} (stored : r ∈ s.1.db.rows)
    (hit : v.statement.filter r = true) : Follows (s.2 v.prober r.id) v.probed r := by
  unfold World.verdict at reached
  split at reached
  · split at reached
    · rename_i n _ app rest at_n
      cases reached
      exact watched.checks n _ at_n app (by simp [Check.pending]) r stored (of_decide_eq_true hit)
    · simp at reached
  · split at reached
    · rename_i d _ disp at_d
      split at reached
      · rename_i msg address error phase
        cases reached
        have connecting : disp.phase.address = some address := by
          simp [phase, DispatcherPhase.address]
        exact watched.dispatchers d disp at_d address connecting r stored (of_decide_eq_true hit)
      · simp at reached
    · simp at reached
  · simp at reached

theorem follows_iff {since read : Option String} {r : Model} (follows : Follows since read r) :
    ((r.state = .failed ∧ r.address = none) ∨ r.address = read) ↔
      ∀ address ∈ since, read = some address := by
  cases since with
  | none =>
    constructor
    · intro _ address registered
      simp at registered
    · intro _
      exact follows
  | some address =>
    have held : r.address = some address := follows
    constructor
    · intro spared address' registered
      cases registered
      rcases spared with ⟨_, cleared⟩ | same
      · simp [held] at cleared
      · exact same.symm.trans held
    · intro kept
      exact Or.inr (held.trans (kept address rfl).symm)

/-- In every run of registrations, checks and the proxy over a store whose tokens are
distinct: all verdicts spare newer registrations exactly when none is overtaken by one. -/
theorem verdicts_spare_newer {db : Db} {as : List Action} (distinct : TokensDistinct db)
    (kind : ∀ a ∈ as, a.probing = true) :
    Along probedStep (fun s a => SparesNewer s.1 a) (.start db, fun _ _ => none) as ↔
      Along probedStep NotOvertaken (.start db, fun _ _ => none) as := by
  have start : Watched (.start db, fun _ _ => none) := by
    refine ⟨distinct, ?_, ?_⟩
    · intro n check there
      simp [World.start] at there
    · intro d disp there
      simp [World.start] at there
  have agree : ∀ (s : World × Since) (a : Action), Watched s →
      (SparesNewer s.1 a ↔ NotOvertaken s a) := by
    intro s a watched
    constructor
    · intro spares v reached r stored hit
      exact (follows_iff (verdict_follows watched reached stored hit)).mp
        (spares v reached r stored hit)
    · intro kept v reached r stored hit
      exact (follows_iff (verdict_follows watched reached stored hit)).mpr
        (kept v reached r stored hit)
  exact along_iff (fun _ _ _ => watched_step) agree start (along_of_mem kind)

/-- One application at 10.0.0.1, as it is stored while it runs. -/
def runningDb : Db :=
  (Db.new.exec (.createInsert "alice" none "token-a" 0)).exec
    (.appCallback "token-a" "10.0.0.1:15002" "app-1")

/-- A check finds the application unreachable and fails it; then it registers again. -/
def failedCheck : List Action :=
  [.check (.checkRead true), .check (.checkProbe 0 fun _ => false), .check (.checkUpdate 0 true),
   .routes (.appCallback "token-a" "10.0.0.2:15002" "app-1" true)]

theorem failed_check_spares :
    Along probedStep (fun s a => SparesNewer s.1 a) (.start runningDb, fun _ _ => none)
      failedCheck ∧ (exec World.step (.start runningDb) failedCheck).any (fun w =>
        w.db.rows.any fun r => r.state = .running && r.address = some "10.0.0.2:15002") = true := by
  refine ⟨(verdicts_spare_newer ?_ ?_).mpr ?_, ?_⟩
  · unfold TokensDistinct
    decide
  · decide
  · decide
  · decide

/-- The registration comes while the check retries the old address. -/
def overtakenCheck : List Action :=
  [.check (.checkRead true), .check (.checkProbe 0 fun _ => false),
   .routes (.appCallback "token-a" "10.0.0.2:15002" "app-1" true), .check (.checkUpdate 0 true)]

theorem overtaken_check_fails : ¬ Along probedStep (fun s a => SparesNewer s.1 a)
      (.start runningDb, fun _ _ => none) overtakenCheck ∧
    (exec World.step (.start runningDb) overtakenCheck).any (fun w =>
      w.db.rows.any fun r => r.state = .failed && r.address = none) = true := by
  constructor
  · decide
  · decide

end SparkPlug
