import SparkPlug.World

/-!
A whole health check, with everything else going on at the same time. The check works
on the list it has read once, and it ends where it finds that a row of it is gone.
-/
namespace SparkPlug
open KeyedTable Runs

/-- What is seen of one check: the applications it has read, its probes with the outcome of
each attempt, and the ids of the rows that it and everybody else have written since. -/
structure Audit where
  snapshot : List Model := []
  probes : List (Model × (Nat → Bool)) := []
  writes : List Int := []
  others : List Int := []

/-- The action is one of the check with this number. -/
def Action.ofCheck (w : World) (n : Nat) : Action → Bool
  | .check (.checkRead _) => w.checks.length = n
  | .check (.checkProbe m _) => m = n
  | .check (.checkUpdate m _) => m = n
  | _ => false

/-- The store answers a statement of a check with an error. -/
def Action.storeFails : Action → Bool
  | .check (.checkRead stored) => !stored
  | .check (.checkUpdate _ stored) => !stored
  | _ => false

/-- The ids of the rows that an action changes or deletes. -/
def World.touched (w : World) (a : Action) : List Int :=
  match w.statement a with
  | some st => (w.db.select st.filter).map (·.id)
  | none => []

namespace Audit

def probed (w : World) (n : Nat) (outcome : Nat → Bool) : List (Model × (Nat → Bool)) :=
  match w.checks[n]? with
  | some (.next (app :: _)) => [(app, outcome)]
  | _ => []

def observe (n : Nat) (w : World) (a : Action) (h : Audit) : Audit :=
  if a.ofCheck w n then
    match a with
    | .check (.checkRead _) => { snapshot := runningApps w.db }
    | .check (.checkProbe _ outcome) => { h with probes := h.probes ++ probed w n outcome }
    | _ => { h with writes := h.writes ++ w.touched a }
  else { h with others := h.others ++ w.touched a }

end Audit

abbrev auditedStep (n : Nat) : World × Audit → Action → Option (World × Audit) :=
  withHistory World.step (Audit.observe n)

/-- Found without an address, or unreachable on all attempts. -/
def Unhealthy (probe : Model × (Nat → Bool)) : Prop :=
  probe.1.address = none ∨ ∀ k ≤ HEALTH_CHECK_RETRIES, probe.2 k = false

/-- What a check has to have done when it ends. -/
structure CheckLaw (s : World × Audit) : Prop where
  failed : ∀ probe ∈ s.2.probes, Unhealthy probe → probe.1.id ∉ s.2.others →
    ∃ r, s.1.db.find probe.1.id = some r ∧ r.state = .failed ∧ r.address = none
  spared : ∀ i, (∀ app ∈ s.2.snapshot, app.id ≠ i) ∨
    (∃ probe ∈ s.2.probes, probe.1.id = i ∧ ¬ Unhealthy probe) → i ∉ s.2.writes
  checked : ∀ app ∈ s.2.snapshot, ∃ probe ∈ s.2.probes, probe.1 = app

/-- The application that an action of the check fails while others wait behind it. -/
def World.failsBefore (w : World) (n : Nat) : Action → Option Model
  | .check (.checkUpdate m true) =>
    match w.checks[m]? with
    | some (.failing app (_ :: _)) => if m = n then some app else none
    | _ => none
  | _ => none

/-- The row of an application that is failed is there, unless it is the last of the list. -/
def RowPresent (n : Nat) (s : World × Audit) (a : Action) : Prop :=
  ∀ app ∈ s.1.failsBefore n a, s.1.db.find app.id ≠ none

instance (n : Nat) (s : World × Audit) (a : Action) : Decidable (RowPresent n s a) :=
  inferInstanceAs (Decidable (∀ app ∈ s.1.failsBefore n a, s.1.db.find app.id ≠ none))

theorem row_present_update {n : Nat} {s : World × Audit} {app : Model} {rest : List Model}
    (at_n : s.1.checks[n]? = some (.failing app rest)) :
    RowPresent n s (.check (.checkUpdate n true)) ↔ (rest ≠ [] → s.1.db.find app.id ≠ none) := by
  cases rest <;> simp [RowPresent, World.failsBefore, at_n]

theorem row_missing {n : Nat} {s : World × Audit} {a : Action} (missing : ¬ RowPresent n s a) :
    a = .check (.checkUpdate n true) ∧ ∃ app rest, s.1.checks[n]? = some (.failing app rest) ∧
      rest ≠ [] ∧ s.1.db.find app.id = none := by
  unfold RowPresent at missing
  push Not at missing
  obtain ⟨app, fails, gone⟩ := missing
  unfold World.failsBefore at fails
  split at fails
  · split at fails
    · rename_i m app' next rest at_m
      split at fails
      · rename_i same
        cases fails
        rw [← same]
        exact ⟨rfl, app, next :: rest, at_m, List.cons_ne_nil _ _, gone⟩
      · cases fails
    · cases fails
  · cases fails

/- What one step can do to the check. -/

inductive OwnStep (w : World) (n : Nat) (w' : World) : Action → Prop where
  | read (fresh : w.checks.length = n) (db : w'.db = w.db)
      (after : w'.checks[n]? = some (.next (runningApps w.db))) :
      OwnStep w n w' (.check (.checkRead true))
  | finish (outcome : Nat → Bool) (at_n : w.checks[n]? = some (.next [])) (db : w'.db = w.db)
      (after : w'.checks[n]? = some (.ended (.ok ()))) :
      OwnStep w n w' (.check (.checkProbe n outcome))
  | probe (outcome : Nat → Bool) (app : Model) (rest : List Model)
      (at_n : w.checks[n]? = some (.next (app :: rest))) (db : w'.db = w.db)
      (after : w'.checks[n]? =
        some (if Check.shouldFail app outcome then .failing app rest else .next rest)) :
      OwnStep w n w' (.check (.checkProbe n outcome))
  | update (app : Model) (rest : List Model)
      (at_n : w.checks[n]? = some (.failing app rest))
      (db : w'.db = w.db.exec (.checkFailed app.id))
      (after : w'.checks[n]? = some (if w.db.rowsAffected (.checkFailed app.id) = 0
        then .ended (.error ()) else .next rest)) :
      OwnStep w n w' (.check (.checkUpdate n true))

theorem spawned_other {checks : List Check} {n : Nat} (check : Check)
    (other : checks.length ≠ n) : (checks ++ [check])[n]? = checks[n]? := by
  by_cases inside : n < checks.length
  · exact List.getElem?_append_left inside
  · rw [List.getElem?_eq_none (by simp; omega), List.getElem?_eq_none (by omega)]

theorem other_step_check {w w' : World} {n : Nat} {a : Action} (h : w.step a = some w')
    (other : a.ofCheck w n = false) : w'.checks[n]? = w.checks[n]? := by
  cases a with
  | routes act =>
    obtain ⟨outcome, _, rfl⟩ := Option.map_eq_some_iff.mp h
    rfl
  | proxy act =>
    obtain ⟨outcome, _, rfl⟩ := Option.map_eq_some_iff.mp h
    rfl
  | restart =>
    cases h
    rfl
  | check act =>
    obtain ⟨outcome, run, rfl⟩ := Option.map_eq_some_iff.mp h
    cases act with
    | checkRead stored =>
      cases run
      exact spawned_other _ (by simpa [Action.ofCheck] using other)
    | checkProbe m probe =>
      have unequal : m ≠ n := by simpa [Action.ofCheck] using other
      simp only [Check.step] at run
      split at run
      · cases run
        exact List.getElem?_set_ne unequal
      · split at run
        · cases run
          exact List.getElem?_set_ne unequal
        · cases run
          exact List.getElem?_set_ne unequal
      · cases run
    | checkUpdate m stored =>
      have unequal : m ≠ n := by simpa [Action.ofCheck] using other
      simp only [Check.step] at run
      split at run
      · split at run
        · cases run
          exact List.getElem?_set_ne unequal
        · cases run
          exact List.getElem?_set_ne unequal
      · cases run
    | prune cutoff stored =>
      cases run
      rfl

theorem changed_self {checks : List Check} {n : Nat} {old : Check} (new : Check)
    (at_n : checks[n]? = some old) : (checks.set n new)[n]? = some new := by
  have bound := (List.getElem?_eq_some_iff.mp at_n).1
  rw [List.getElem?_set_self bound]

theorem own_step {w w' : World} {n : Nat} {a : Action} (h : w.step a = some w')
    (own : a.ofCheck w n = true) (up : a.storeFails = false) : OwnStep w n w' a := by
  cases a with
  | routes act => cases own
  | proxy act => cases own
  | restart => cases own
  | check act =>
    obtain ⟨outcome, run, rfl⟩ := Option.map_eq_some_iff.mp h
    cases act with
    | checkRead stored =>
      have fresh : w.checks.length = n := by simpa [Action.ofCheck] using own
      cases stored with
      | false => cases up
      | true =>
        cases run
        refine .read fresh rfl ?_
        simp [← fresh]
    | checkProbe m probe =>
      have same : m = n := by simpa [Action.ofCheck] using own
      subst same
      simp only [Check.step] at run
      split at run
      · rename_i at_m
        cases run
        exact .finish probe at_m rfl (changed_self _ at_m)
      · rename_i app rest at_m
        split at run
        · rename_i fails
          cases run
          refine .probe probe app rest at_m rfl ?_
          rw [if_pos fails]
          exact changed_self _ at_m
        · rename_i passes
          cases run
          refine .probe probe app rest at_m rfl ?_
          rw [if_neg passes]
          exact changed_self _ at_m
      · cases run
    | checkUpdate m stored =>
      have same : m = n := by simpa [Action.ofCheck] using own
      subst same
      cases stored with
      | false => cases up
      | true =>
        simp only [Check.step] at run
        split at run
        · rename_i app rest at_m
          cases run
          exact .update app rest at_m rfl (changed_self _ at_m)
        · cases run
    | prune cutoff stored => cases own

/- The rows that a step touches. -/

theorem mem_touched {w : World} {a : Action} {i : Int} :
    i ∈ w.touched a ↔
      ∃ st, w.statement a = some st ∧ ∃ r ∈ w.db.rows, st.filter r = true ∧ r.id = i := by
  unfold World.touched
  cases w.statement a with
  | none => simp
  | some st => simp [Table.select, and_assoc]

/-- A row that a step does not touch stays as it is. -/
theorem untouched_kept {w w' : World} {a : Action} (h : w.step a = some w') {i : Int} {r : Model}
    (stored : w.db.find i = some r) (untouched : i ∉ w.touched a) : w'.db.find i = some r := by
  rw [step_find h stored]
  cases issued : w.statement a with
  | none => rfl
  | some st =>
    have member := Table.find_some stored
    have unhit : st.filter r = false := by
      by_contra hit
      exact untouched (mem_touched.mpr ⟨st, issued, r, member.1, by simpa using hit, member.2⟩)
    rw [Option.elim_some, Statement.row_unfiltered unhit]

/- What holds of a check and of what is seen of it, as long as no row was missing. -/

def Check.unprobed : Check → List Model
  | .next apps => apps
  | .failing _ rest => rest
  | .ended _ => []

structure Audited (n : Nat) (s : World × Audit) : Prop where
  distinct : (s.2.snapshot.map (·.id)).Nodup
  complete : ∀ check, s.1.checks[n]? = some check →
    s.2.snapshot = s.2.probes.map (·.1) ++ check.unprobed
  unwritten : ∀ app ∈ s.2.snapshot, app.id ∉ s.2.writes → app.id ∉ s.2.others →
    s.1.db.find app.id = some app
  written : ∀ i ∈ s.2.writes, i ∉ s.2.others →
    ∃ r, s.1.db.find i = some r ∧ r.state = .failed ∧ r.address = none
  settled : ∀ probe ∈ s.2.probes, Check.shouldFail probe.1 probe.2 = true →
    probe.1.id ∉ s.2.others →
      probe.1.id ∈ s.2.writes ∨ ∃ rest, s.1.checks[n]? = some (.failing probe.1 rest)
  justified : ∀ i ∈ s.2.writes,
    ∃ probe ∈ s.2.probes, probe.1.id = i ∧ Check.shouldFail probe.1 probe.2 = true
  pending : ∀ app rest, s.1.checks[n]? = some (.failing app rest) →
    ∃ outcome, (app, outcome) ∈ s.2.probes ∧ Check.shouldFail app outcome = true

/-- The check has ended before it has probed everything it has read. -/
def CutShort (n : Nat) (s : World × Audit) : Prop :=
  (∃ result, s.1.checks[n]? = some (.ended result)) ∧
    ∃ app ∈ s.2.snapshot, ∀ probe ∈ s.2.probes, probe.1 ≠ app

section
variable {w w' : World} {n : Nat} {a : Action} {h : Audit}

theorem observe_other (other : a.ofCheck w n = false) :
    Audit.observe n w a h = { h with others := h.others ++ w.touched a } := by
  simp [Audit.observe, other]

theorem observe_read (fresh : w.checks.length = n) :
    Audit.observe n w (.check (.checkRead true)) h = { snapshot := runningApps w.db } := by
  simp [Audit.observe, Action.ofCheck, fresh]

theorem observe_finish (outcome : Nat → Bool) (at_n : w.checks[n]? = some (.next [])) :
    Audit.observe n w (.check (.checkProbe n outcome)) h = h := by
  simp [Audit.observe, Action.ofCheck, Audit.probed, at_n]

theorem observe_probe (outcome : Nat → Bool) {app : Model} {rest : List Model}
    (at_n : w.checks[n]? = some (.next (app :: rest))) :
    Audit.observe n w (.check (.checkProbe n outcome)) h =
      { h with probes := h.probes ++ [(app, outcome)] } := by
  simp [Audit.observe, Action.ofCheck, Audit.probed, at_n]

theorem observe_update : Audit.observe n w (.check (.checkUpdate n true)) h =
    { h with writes := h.writes ++ w.touched (.check (.checkUpdate n true)) } := by
  simp [Audit.observe, Action.ofCheck]

/-- The update of a check touches the row of its application alone. -/
theorem touched_update {app : Model} {rest : List Model}
    (at_n : w.checks[n]? = some (.failing app rest)) {i : Int} :
    i ∈ w.touched (.check (.checkUpdate n true)) ↔ i = app.id ∧ w.db.find app.id ≠ none := by
  have issued : w.statement (.check (.checkUpdate n true)) = some (.checkFailed app.id) := by
    simp [World.statement, Check.step, at_n]
  rw [mem_touched]
  constructor
  · rintro ⟨st, given, r, stored, hit, same⟩
    cases issued.symm.trans given
    have own : r.id = app.id := of_decide_eq_true hit
    refine ⟨same.symm.trans own, ?_⟩
    rw [← own, Table.find_mem stored]
    exact Option.some_ne_none r
  · rintro ⟨rfl, there⟩
    obtain ⟨r, found⟩ := Option.ne_none_iff_exists'.mp there
    obtain ⟨stored, own⟩ := Table.find_some found
    exact ⟨_, issued, r, stored, decide_eq_true own, own⟩

theorem audited_other (audited : Audited n (w, h)) (step : w.step a = some w')
    (other : a.ofCheck w n = false) : Audited n (w', Audit.observe n w a h) := by
  have same := other_step_check step other
  rw [observe_other other]
  constructor
  · exact audited.distinct
  · rw [same]
    exact audited.complete
  · intro app listed unwritten calm
    simp only [List.mem_append, not_or] at calm
    exact untouched_kept step (audited.unwritten app listed unwritten calm.1) calm.2
  · intro i written calm
    simp only [List.mem_append, not_or] at calm
    obtain ⟨r, stored, failed⟩ := audited.written i written calm.1
    exact ⟨r, untouched_kept step stored calm.2, failed⟩
  · intro probe listed fails calm
    simp only [List.mem_append, not_or] at calm
    rw [same]
    exact audited.settled probe listed fails calm.1
  · exact audited.justified
  · intro app rest failing
    rw [same] at failing
    exact audited.pending app rest failing

theorem audited_read (db : w'.db = w.db) (after : w'.checks[n]? = some (.next (runningApps w.db))) :
    Audited n (w', { snapshot := runningApps w.db }) := by
  constructor
  · exact (List.filter_sublist.map _).nodup w.db.distinct
  · intro check there
    cases after.symm.trans there
    rfl
  · intro app listed _ _
    rw [db]
    exact Table.find_mem (List.mem_filter.mp listed).1
  · intro i written
    simp at written
  · intro probe listed
    simp at listed
  · intro i written
    simp at written
  · intro app rest failing
    simp [after] at failing

theorem audited_finish (audited : Audited n (w, h)) (at_n : w.checks[n]? = some (.next []))
    (db : w'.db = w.db) (after : w'.checks[n]? = some (.ended (.ok ()))) : Audited n (w', h) := by
  constructor
  · exact audited.distinct
  · intro check there
    cases after.symm.trans there
    exact audited.complete (.next []) at_n
  · intro app listed unwritten calm
    rw [db]
    exact audited.unwritten app listed unwritten calm
  · intro i written calm
    rw [db]
    exact audited.written i written calm
  · intro probe listed fails calm
    rcases audited.settled probe listed fails calm with written | ⟨rest, failing⟩
    · exact Or.inl written
    · simp [at_n] at failing
  · exact audited.justified
  · intro app rest failing
    simp [after] at failing

theorem audited_probe (audited : Audited n (w, h))
    {outcome : Nat → Bool} {app : Model} {rest : List Model}
    (at_n : w.checks[n]? = some (.next (app :: rest))) (db : w'.db = w.db)
    (after : w'.checks[n]? =
      some (if Check.shouldFail app outcome then .failing app rest else .next rest)) :
    Audited n (w', { h with probes := h.probes ++ [(app, outcome)] }) := by
  have listed : h.snapshot = h.probes.map (·.1) ++ app :: rest := audited.complete _ at_n
  constructor
  · exact audited.distinct
  · intro check there
    have unprobed : check.unprobed = rest := by
      rw [after] at there
      split at there
      · cases there
        rfl
      · cases there
        rfl
    simp [listed, unprobed]
  · intro other member unwritten calm
    rw [db]
    exact audited.unwritten other member unwritten calm
  · intro i written calm
    rw [db]
    exact audited.written i written calm
  · intro probe member fails calm
    rcases List.mem_append.mp member with old | new
    · rcases audited.settled probe old fails calm with written | ⟨rest, failing⟩
      · exact Or.inl written
      · simp [at_n] at failing
    · cases List.mem_singleton.mp new
      exact Or.inr ⟨rest, by rw [after, if_pos fails]⟩
  · intro i written
    obtain ⟨probe, member, own⟩ := audited.justified i written
    exact ⟨probe, List.mem_append_left _ member, own⟩
  · intro other left failing
    rw [after] at failing
    by_cases fails : Check.shouldFail app outcome = true
    · rw [if_pos fails] at failing
      cases failing
      exact ⟨outcome, by simp, fails⟩
    · rw [if_neg fails] at failing
      cases failing

/-- The row that an update of the check writes is failed, and the others are left alone. -/
theorem find_update_check {app : Model} {r : Model} {i : Int}
    (db : w'.db = w.db.exec (.checkFailed app.id))
    (stored : w.db.find i = some r) :
    w'.db.find i =
      some (if i = app.id then { r with address := none, state := .failed } else r) := by
  have own := (Table.find_some stored).2
  rw [db, find_exec stored]
  by_cases same : i = app.id
  · simp [Statement.row, Statement.filter, Statement.set, own, same]
  · simp [Statement.row, Statement.filter, own, same]

/-- What is left to probe after an update, which is all of it as long as the row was there. -/
theorem unprobed_update {app : Model} {rest : List Model} {check : Check}
    (present : rest ≠ [] → w.db.find app.id ≠ none)
    (after : check = if w.db.rowsAffected (.checkFailed app.id) = 0
      then .ended (.error ()) else .next rest) :
    check.unprobed = rest := by
  by_cases missing : w.db.rowsAffected (.checkFailed app.id) = 0
  · rw [if_pos missing] at after
    subst check
    by_contra filled
    obtain ⟨r, found⟩ := Option.ne_none_iff_exists'.mp (present fun nil => filled nil.symm)
    obtain ⟨stored, own⟩ := Table.find_some found
    have hit : 0 < w.db.rowsAffected (.checkFailed app.id) :=
      Table.affected_pos.mpr ⟨r, stored, decide_eq_true own⟩
    omega
  · rw [if_neg missing] at after
    subst check
    rfl

theorem audited_update (audited : Audited n (w, h)) {app : Model} {rest : List Model}
    (at_n : w.checks[n]? = some (.failing app rest)) (present : rest ≠ [] → w.db.find app.id ≠ none)
    (db : w'.db = w.db.exec (.checkFailed app.id))
    (after : w'.checks[n]? = some (if w.db.rowsAffected (.checkFailed app.id) = 0
      then .ended (.error ()) else .next rest)) :
    Audited n (w',
      { h with writes := h.writes ++ w.touched (.check (.checkUpdate n true)) }) := by
  obtain ⟨outcome, probed, fails⟩ := audited.pending app rest at_n
  have listed : h.snapshot = h.probes.map (·.1) ++ rest := audited.complete _ at_n
  have member : app ∈ h.snapshot := by
    rw [listed]
    exact List.mem_append_left _ (List.mem_map.mpr ⟨_, probed, rfl⟩)
  have idle : ∀ other left, w'.checks[n]? ≠ some (.failing other left) := by
    intro other left failing
    rw [after] at failing
    split at failing
    · cases failing
    · cases failing
  constructor
  · exact audited.distinct
  · intro check there
    rw [after] at there
    have unprobed := unprobed_update present (Option.some.inj there).symm
    rw [unprobed]
    exact listed
  · intro other listed unwritten calm
    simp only [List.mem_append, not_or] at unwritten
    have stored := audited.unwritten other listed unwritten.1 calm
    rw [find_update_check db stored]
    by_cases same : other.id = app.id
    · refine absurd (touched_update at_n |>.mpr ⟨same, ?_⟩) unwritten.2
      rw [← same, stored]
      exact Option.some_ne_none other
    · rw [if_neg same]
  · intro i written calm
    have stored : ∃ r, w.db.find i = some r ∧
        (i = app.id ∨ r.state = .failed ∧ r.address = none) := by
      rcases List.mem_append.mp written with old | new
      · obtain ⟨r, found, failed⟩ := audited.written i old calm
        exact ⟨r, found, Or.inr failed⟩
      · obtain ⟨rfl, there⟩ := (touched_update at_n).mp new
        obtain ⟨r, found⟩ := Option.ne_none_iff_exists'.mp there
        exact ⟨r, found, Or.inl rfl⟩
    obtain ⟨r, found, failed⟩ := stored
    refine ⟨_, find_update_check db found, ?_⟩
    by_cases same : i = app.id
    · rw [if_pos same]
      exact ⟨rfl, rfl⟩
    · rw [if_neg same]
      exact failed.resolve_left same
  · intro probe probes unhealthy calm
    rcases audited.settled probe probes unhealthy calm with written | ⟨rest', failing⟩
    · exact Or.inl (List.mem_append_left _ written)
    · have same := at_n.symm.trans failing
      simp only [Option.some.injEq, Check.failing.injEq] at same
      rw [← same.1] at calm ⊢
      by_cases written : app.id ∈ h.writes
      · exact Or.inl (List.mem_append_left _ written)
      · have stored := audited.unwritten app member written calm
        refine Or.inl (List.mem_append_right _ ((touched_update at_n).mpr ⟨rfl, ?_⟩))
        rw [stored]
        exact Option.some_ne_none app
  · intro i written
    rcases List.mem_append.mp written with old | new
    · exact audited.justified i old
    · obtain ⟨rfl, _⟩ := (touched_update at_n).mp new
      exact ⟨(app, outcome), probed, rfl, fails⟩
  · intro other left failing
    exact absurd failing (idle other left)

end

/- The whole run of a check. -/

theorem audited_step {n : Nat} {s s' : World × Audit} {a : Action} (audited : Audited n s)
    (meets : a.storeFails = false ∧ RowPresent n s a) (step : auditedStep n s a = some s') :
    Audited n s' := by
  obtain ⟨w, h⟩ := s
  obtain ⟨w', h'⟩ := s'
  obtain ⟨next, rfl⟩ := with_history_step.mp step
  cases own : a.ofCheck w n with
  | false => exact audited_other audited next own
  | true =>
    cases own_step next own meets.1 with
    | read fresh db after =>
      rw [observe_read fresh]
      exact audited_read db after
    | finish outcome at_n db after =>
      rw [observe_finish outcome at_n]
      exact audited_finish audited at_n db after
    | probe outcome app rest at_n db after =>
      rw [observe_probe outcome at_n]
      exact audited_probe audited at_n db after
    | update app rest at_n db after =>
      rw [observe_update]
      exact audited_update audited at_n ((row_present_update at_n).mp meets.2) db after

/-- A missing row ends the check, with the rest of its list not probed. -/
theorem missing_row_cuts {n : Nat} {s s' : World × Audit} {a : Action} (audited : Audited n s)
    (up : a.storeFails = false) (missing : ¬ RowPresent n s a)
    (step : auditedStep n s a = some s') : CutShort n s' := by
  obtain ⟨w, h⟩ := s
  obtain ⟨w', h'⟩ := s'
  obtain ⟨next, rfl⟩ := with_history_step.mp step
  obtain ⟨rfl, app, rest, at_n, filled, gone⟩ := row_missing missing
  have own : Action.ofCheck w n (.check (.checkUpdate n true)) = true := by simp [Action.ofCheck]
  cases own_step next own up with
  | update app' rest' at_n' db after =>
    cases at_n.symm.trans at_n'
    have none : w.db.rowsAffected (.checkFailed app.id) = 0 := by
      by_contra hit
      obtain ⟨r, stored, same⟩ := Table.affected_pos.mp (Nat.pos_of_ne_zero hit)
      have own : r.id = app.id := of_decide_eq_true same
      rw [← own, Table.find_mem stored] at gone
      cases gone
    rw [observe_update]
    refine ⟨⟨_, by rw [after, if_pos none]⟩, ?_⟩
    have listed : h.snapshot = h.probes.map (·.1) ++ rest := audited.complete _ at_n
    obtain ⟨other, rest, rfl⟩ := List.exists_cons_of_ne_nil filled
    refine ⟨other, by simp [listed], fun probe member same => ?_⟩
    have distinct := audited.distinct
    simp only [listed, List.map_append, List.map_map, List.nodup_append] at distinct
    exact distinct.2.2 probe.1.id (List.mem_map.mpr ⟨probe, member, rfl⟩) other.id (by simp)
      (by rw [same])

theorem cut_short_stays {n : Nat} {s s' : World × Audit} {a : Action} (cut : CutShort n s)
    (up : a.storeFails = false) (step : auditedStep n s a = some s') : CutShort n s' := by
  obtain ⟨w, h⟩ := s
  obtain ⟨w', h'⟩ := s'
  obtain ⟨next, rfl⟩ := with_history_step.mp step
  obtain ⟨⟨result, ended⟩, unprobed⟩ := cut
  cases own : a.ofCheck w n with
  | false =>
    have same := other_step_check next own
    rw [observe_other own]
    exact ⟨⟨result, same.trans ended⟩, unprobed⟩
  | true =>
    cases own_step next own up with
    | read fresh =>
      have bound := (List.getElem?_eq_some_iff.mp ended).1
      exact absurd fresh (Nat.ne_of_gt bound)
    | finish outcome at_n => cases ended.symm.trans at_n
    | probe outcome app rest at_n => cases ended.symm.trans at_n
    | update app rest at_n => cases ended.symm.trans at_n

theorem ended_law {n : Nat} {s : World × Audit} {result : Except Unit Unit}
    (audited : Audited n s) (ended : s.1.checks[n]? = some (.ended result)) : CheckLaw s := by
  have listed : s.2.snapshot = s.2.probes.map (·.1) := by
    rw [audited.complete _ ended]
    exact List.append_nil _
  constructor
  · intro probe member unhealthy calm
    have fails := (Check.fails_iff probe.1 probe.2).mpr unhealthy
    rcases audited.settled probe member fails calm with written | ⟨rest, failing⟩
    · exact audited.written probe.1.id written calm
    · cases ended.symm.trans failing
  · intro i innocent written
    obtain ⟨probe, member, rfl, fails⟩ := audited.justified i written
    rcases innocent with unread | ⟨other, probed, same, healthy⟩
    · refine unread probe.1 ?_ rfl
      rw [listed]
      exact List.mem_map.mpr ⟨probe, member, rfl⟩
    · have distinct := audited.distinct
      rw [listed, List.map_map] at distinct
      have one := List.inj_on_of_nodup_map distinct probed member same
      rw [one] at healthy
      exact healthy ((Check.fails_iff probe.1 probe.2).mp fails)
  · intro app member
    rw [listed] at member
    exact List.mem_map.mp member

/-- With a store that answers, a check that has ended has done all it should exactly when no
row was missing at its update with applications still to check. -/
theorem check_complete_iff {w : World} {n : Nat} {as : List Action} {t : World × Audit}
    {result : Except Unit Unit} (fresh : w.checks.length = n) (up : ∀ a ∈ as, a.storeFails = false)
    (run : exec (auditedStep n) (w, {}) as = some t)
    (ended : t.1.checks[n]? = some (.ended result)) :
    CheckLaw t ↔ Along (auditedStep n) (RowPresent n) (w, {}) as := by
  have start : Audited n (w, {}) := by
    subst fresh
    constructor <;> simp
  have sides : Along (auditedStep n) (fun _ a => a.storeFails = false) (w, {}) as :=
    along_of_mem up
  have apart : ∀ s, Audited n s → ¬ CutShort n s := by
    rintro s audited ⟨⟨result, ended⟩, app, listed, unprobed⟩
    obtain ⟨probe, member, same⟩ := (ended_law audited ended).checked app listed
    exact unprobed probe member same
  have whole : Along (auditedStep n) (RowPresent n) (w, {}) as ↔ ¬ CutShort n t :=
    along_iff_not_lost (fun _ _ _ => audited_step) (fun _ _ _ => missing_row_cuts)
      (fun _ _ _ => cut_short_stays) apart start sides run
  constructor
  · intro law
    refine whole.mpr ?_
    rintro ⟨_, app, listed, unprobed⟩
    obtain ⟨probe, member, same⟩ := law.checked app listed
    exact unprobed probe member same
  · intro present
    have meets := along_and sides present
    exact ended_law (invariant_run (fun _ _ _ => audited_step) start meets run) ended

/-- Two running applications at addresses of their own. -/
def twoRunningDb : Db :=
  (((Db.new.exec (.createInsert "alice" none "token-a" 0)).exec
    (.createInsert "bob" none "token-b" 1)).exec
      (.appCallback "token-a" "10.0.0.1:15002" "app-1")).exec
        (.appCallback "token-b" "10.0.0.2:15002" "app-2")

/-- The first application is unreachable and the second one answers. -/
def wholeCheck : List Action :=
  [.check (.checkRead true), .check (.checkProbe 0 fun _ => false), .check (.checkUpdate 0 true),
   .check (.checkProbe 0 fun _ => true), .check (.checkProbe 0 fun _ => true)]

theorem whole_check_complete : ∃ t, exec (auditedStep 0) (.start twoRunningDb, {}) wholeCheck =
    some t ∧ t.1.checks[0]? = some (.ended (.ok ())) ∧ CheckLaw t := by
  obtain ⟨t, run, ended⟩ : ∃ t : World × Audit,
      exec (auditedStep 0) (.start twoRunningDb, {}) wholeCheck = some t ∧
        decide (t.1.checks[0]? = some (Check.ended (.ok ()))) = true :=
    computed_run (by decide)
  have ended := of_decide_eq_true ended
  have fresh : (World.start twoRunningDb).checks.length = 0 := rfl
  have up : ∀ a ∈ wholeCheck, a.storeFails = false := by decide
  refine ⟨t, run, ended, (check_complete_iff fresh up run ended).mpr ?_⟩
  decide

/-- The first application ends and is pruned while the check probes it. -/
def prunedCheck : List Action :=
  [.check (.checkRead true), .routes (.appCallbackDelete "token-a" "10.0.0.1:15002" true),
   .check (.prune 0 true), .check (.checkProbe 0 fun _ => false), .check (.checkUpdate 0 true)]

/-- The check ends with the second application not probed. -/
theorem pruned_row_cuts_check : ∃ t,
    exec (auditedStep 0) (.start twoRunningDb, {}) prunedCheck = some t ∧
      t.1.checks[0]? = some (.ended (.error ())) ∧ ¬ CheckLaw t := by
  obtain ⟨t, run, ended⟩ : ∃ t : World × Audit,
      exec (auditedStep 0) (.start twoRunningDb, {}) prunedCheck = some t ∧
        (decide (t.1.checks[0]? = some (Check.ended (.error ()))) &&
          t.2.snapshot.any fun app => t.2.probes.all fun probe => probe.1 ≠ app) = true :=
    computed_run (by decide)
  simp only [Bool.and_eq_true, decide_eq_true_eq, List.any_eq_true, List.all_eq_true] at ended
  obtain ⟨ended, app, listed, unprobed⟩ := ended
  refine ⟨t, run, ended, fun law => ?_⟩
  obtain ⟨probe, member, same⟩ := law.checked app listed
  exact unprobed probe member same

end SparkPlug
