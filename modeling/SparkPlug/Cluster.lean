import SparkPlug.CreationTimes
import SparkPlug.Library.Shared
import SparkPlug.Isolation
import SparkPlug.Listing

/-!
Several server processes on one session store, each with its own calls, checks and
dispatchers. A move lets one process take an action of `World` in the store as the
others have left it; servers are added and restarted at any time.
-/
namespace SparkPlug
open KeyedTable Runs Shared

/-- What the processes share: the table and the tokens drawn so far by any of them. -/
structure Store where
  db : Db
  issued : List String := []

structure Process where
  routes : Routes := {}
  checks : List Check := []
  proxy : Proxy := {}

namespace World

/-- The world as one process sees it. -/
def view (store : Store) (process : Process) : World :=
  { db := store.db, routes := process.routes, checks := process.checks, proxy := process.proxy
    issued := store.issued }

def store (w : World) : Store := { db := w.db, issued := w.issued }

def process (w : World) : Process := { routes := w.routes, checks := w.checks, proxy := w.proxy }

end World

def processStep (store : Store) (process : Process) (a : Action) : Option (Store × Process) :=
  ((World.view store process).step a).map fun w => (w.store, w.process)

abbrev Cluster := Composite Store Process

namespace Cluster

/-- No server has joined yet. -/
def start (db : Db) : Cluster := { shared := { db }, locals := [] }

def step : Cluster → Move Action → Option Cluster := Shared.step processStep {}

end Cluster

theorem process_step {store store' : Store} {process process' : Process} {a : Action} :
    processStep store process a = some (store', process') ↔
      (World.view store process).step a = some (World.view store' process') := by
  unfold processStep
  rw [Option.map_eq_some_iff]
  constructor
  · rintro ⟨w, moved, same⟩
    cases same
    exact moved
  · intro moved
    exact ⟨_, moved, rfl⟩

/-- What the step of a process does to its calls. -/
theorem process_routes {g g' : Store} {l l' : Process} {a : Action}
    (h : processStep g l a = some (g', l')) :
    (∃ act outcome, a = .routes act ∧ l.routes.step g.db act = some outcome ∧
      l'.routes = outcome.routes) ∨
    (a = .restart ∧ l'.routes = {}) ∨
    ((∀ act, a ≠ .routes act) ∧ a ≠ .restart ∧ l'.routes = l.routes) := by
  have step := process_step.mp h
  cases a with
  | routes act =>
    obtain ⟨outcome, run, same⟩ := Option.map_eq_some_iff.mp step
    have routes : outcome.routes = l'.routes := congrArg World.routes same
    exact Or.inl ⟨act, outcome, rfl, run, routes.symm⟩
  | check act =>
    obtain ⟨outcome, _, same⟩ := Option.map_eq_some_iff.mp step
    have routes : l.routes = l'.routes := congrArg World.routes same
    exact Or.inr (Or.inr ⟨by simp, by simp, routes.symm⟩)
  | proxy act =>
    obtain ⟨outcome, _, same⟩ := Option.map_eq_some_iff.mp step
    have routes : l.routes = l'.routes := congrArg World.routes same
    exact Or.inr (Or.inr ⟨by simp, by simp, routes.symm⟩)
  | restart =>
    have routes : {} = l'.routes := congrArg World.routes (Option.some.inj step)
    exact Or.inr (Or.inl ⟨rfl, routes.symm⟩)

/-- A cluster of one server runs as that server does. -/
theorem alone_run {store store' : Store} {process process' : Process} {as : List Action} :
    exec Cluster.step { shared := store, locals := [process] } (as.map (.act 0)) =
        some { shared := store', locals := [process'] } ↔
      exec World.step (.view store process) as = some (.view store' process') := by
  induction as generalizing store process with
  | nil =>
    simp only [List.map_nil, exec, Option.some.injEq, Composite.mk.injEq, List.cons.injEq, and_true]
    constructor
    · rintro ⟨rfl, rfl⟩
      rfl
    · intro same
      simp only [World.view, World.mk.injEq] at same
      cases store
      cases store'
      cases process
      cases process'
      simp_all
  | cons a as ih =>
    rw [List.map_cons, exec_cons, exec_cons]
    constructor
    · rintro ⟨s, first, rest⟩
      rcases step_cases first with ⟨i, b, l, g', l', same, at_i, moved, rfl⟩ | ⟨same, _⟩
      · cases same
        cases at_i
        exact ⟨_, process_step.mp moved, ih.mp rest⟩
      · simp at same
    · rintro ⟨w, first, rest⟩
      refine ⟨{ shared := w.store, locals := [w.process] }, ?_, ih.mpr rest⟩
      have moved : processStep store process a = some (w.store, w.process) :=
        process_step.mpr first
      simp [Cluster.step, Shared.step, moved]

/- What a step of any process does to the store, as the other processes see it. -/

/-- Rows keep their owners, ids and tokens grow, and a new row has an unused id and an
unused token. -/
structure StoreMove (g g' : Store) : Prop where
  issued : ∀ token ∈ g.issued, token ∈ g'.issued
  next : g.db.next ≤ g'.db.next
  rows : ∀ r' ∈ g'.db.rows,
    (∃ r ∈ g.db.rows, r.id = r'.id ∧ SameIdentity r r') ∨
      (g.db.next ≤ r'.id ∧ r'.token ∉ g.issued)

/-- The drawn token is in use nowhere in the cluster. -/
def ClusterFresh (g : Store) (l : Process × Callers) (a : Action) : Prop :=
  DrawsFresh (World.view g l.1) a

instance (g : Store) (l : Process × Callers) (a : Action) : Decidable (ClusterFresh g l a) :=
  inferInstanceAs (Decidable (DrawsFresh (World.view g l.1) a))

theorem store_move {g g' : Store} {process process' : Process} {a : Action}
    (fresh : DrawsFresh (World.view g process) a)
    (h : (World.view g process).step a = some (World.view g' process')) : StoreMove g g' := by
  constructor
  · exact issued_kept h
  · exact step_next h
  · intro r' member
    rcases step_row_origin h member with ⟨r, stored, same, _⟩ | ⟨drawn, last, _⟩
    · exact Or.inl ⟨r, stored, same, identity_step h stored member same.symm⟩
    · exact Or.inr ⟨Int.le_of_eq last.symm, (fresh _ drawn).1⟩

/-- The process with the callers of its calls, which its handlers cannot read. -/
def attributedProcess (store : Store) (l : Process × Callers) (a : Action) :
    Option (Store × (Process × Callers)) :=
  (attributed (World.view store l.1, l.2) a).map fun next =>
    (next.1.store, (next.1.process, next.2))

namespace Cluster

def attributedStep :
    Composite Store (Process × Callers) → Move Action →
      Option (Composite Store (Process × Callers)) :=
  Shared.step attributedProcess ({}, {})

/-- No server has joined, and the store is new. -/
def attributedStart : Composite Store (Process × Callers) :=
  { shared := { db := .new }, locals := [] }

end Cluster

theorem attributed_process {g g' : Store} {l l' : Process × Callers} {a : Action}
    (h : attributedProcess g l a = some (g', l')) :
    attributed (World.view g l.1, l.2) a = some (World.view g' l'.1, l'.2) := by
  obtain ⟨⟨w, callers⟩, moved, same⟩ := Option.map_eq_some_iff.mp h
  cases same
  exact moved

/-- Rows are named by their tokens. -/
structure StoreNamed (g : Store) : Prop where
  issued : ∀ r ∈ g.db.rows, r.token ∈ g.issued
  distinct : TokensDistinct g.db

/-- The pending calls of a process are those of its own callers. -/
structure ProcessNamed (g : Store) (l : Process × Callers) : Prop where
  named : Named (World.view g l.1)
  attributed : Attributed l.2 (World.view g l.1)

theorem process_named_stable {g g' : Store} {l : Process × Callers} (before : ProcessNamed g l)
    (after : StoreNamed g') (moved : StoreMove g g') : ProcessNamed g' l := by
  constructor
  · constructor
    · exact after.issued
    · exact after.distinct
    · intro i username address token there
      obtain ⟨drawn, rows⟩ := before.named.reads i username address token there
      refine ⟨moved.issued token drawn, fun r' member same => ?_⟩
      rcases moved.rows r' member with ⟨r, stored, rid, kept⟩ | ⟨_, unused⟩
      · have owner := rows r stored (kept.token.symm.trans same)
        exact ⟨rid.symm.trans owner.1, kept.username.trans owner.2⟩
      · rw [same] at unused
        exact absurd drawn unused
  · constructor
    · exact before.attributed.createCalls
    · intro n call app there holds
      obtain ⟨caller, bound, rows⟩ := before.attributed.creates n call app there holds
      refine ⟨caller, Int.lt_of_lt_of_le bound moved.next, fun r' member same => ?_⟩
      rcases moved.rows r' member with ⟨r, stored, rid, kept⟩ | ⟨later, _⟩
      · exact kept.username.trans (rows r stored (rid.trans same))
      · have bound : app.id < g.db.next := bound
        omega
    · exact before.attributed.deleteCalls
    · exact before.attributed.deletes

theorem processes_cooperate :
    Cooperates attributedProcess ({}, {}) ClusterFresh (fun g g' => StoreMove g g' ∧ StoreNamed g')
      StoreNamed (fun _ => ProcessNamed) := by
  have one : ∀ (g : Store) l a g' l', ProcessNamed g l → ClusterFresh g l a →
      attributedProcess g l a = some (g', l') → ProcessNamed g' l' ∧ StoreMove g g' := by
    intro g l a g' l' before fresh h
    have moved := attributed_process h
    have step := (with_history_step.mp moved).1
    exact ⟨⟨named_step before.named fresh step, attributed_step before.attributed moved⟩,
      store_move fresh step⟩
  have store : ∀ (g : Store) l, ProcessNamed g l → StoreNamed g := by
    intro g l named
    exact ⟨named.named.issued, named.named.distinct⟩
  constructor
  · intro i g l a g' l' _ before fresh h
    exact store g' l' (one g l a g' l' before fresh h).1
  · intro i g l a g' l' _ before fresh h
    exact (one g l a g' l' before fresh h).1
  · intro i g l a g' l' _ before fresh h
    have after := one g l a g' l' before fresh h
    exact ⟨after.2, store g' l' after.1⟩
  · intro i g l g' _ before moved
    exact process_named_stable before moved.2 moved.1
  · intro i g named
    constructor
    · exact ⟨named.issued, named.distinct, by simp [World.view]⟩
    · constructor <;> simp [World.view]

theorem cluster_named {ms : List (Move Action)} {s : Composite Store (Process × Callers)}
    (fresh : Along Cluster.attributedStep (Meets ClusterFresh) Cluster.attributedStart ms)
    (run : exec Cluster.attributedStep Cluster.attributedStart ms = some s) :
    Holds StoreNamed (fun _ => ProcessNamed) s := by
  refine cooperates_run processes_cooperate ?_ fresh run
  constructor
  · constructor <;> simp [Cluster.attributedStart, Db.new, Table.empty, TokensDistinct]
  · simp [Cluster.attributedStart]

/-- Rows with one id in two stores are the same application, and the first store has handed
out no id that the second has not. -/
def Later (g g' : Store) : Prop :=
  g.db.next ≤ g'.db.next ∧ ∀ r' ∈ g'.db.rows, r'.id < g.db.next →
    ∃ r ∈ g.db.rows, r.id = r'.id ∧ SameIdentity r r'

theorem later_run {s t : Composite Store (Process × Callers)} {ms : List (Move Action)}
    (run : exec Cluster.attributedStep s ms = some t) : Later s.shared t.shared := by
  refine shared_run ?_ ?_ ?_ run
  · intro g
    exact ⟨Int.le_refl _, fun r stored _ => ⟨r, stored, rfl, same_identity_refl r⟩⟩
  · intro g h k first second
    refine ⟨Int.le_trans first.1 second.1, fun r'' member used => ?_⟩
    obtain ⟨r', stored', same', kept'⟩ :=
      second.2 r'' member (Int.lt_of_lt_of_le used first.1)
    obtain ⟨r, stored, same, kept⟩ := first.2 r' stored' (same' ▸ used)
    exact ⟨r, stored, same.trans same', kept.trans kept'⟩
  · intro g l a g' l' h
    have step := (with_history_step.mp (attributed_process h)).1
    refine ⟨step_next step, fun r' member used => ?_⟩
    obtain ⟨r, stored, same⟩ := used_id_step step member used
    exact ⟨r, stored, same, identity_step step stored member same.symm⟩

/-- In every run of a cluster in which no token is drawn twice by any server: no two rows
share a token, every server answers its callers with their own rows only and touches rows
of the caller or of the token only, and rows keep their identity. -/
theorem cluster_users_and_tokens_isolated {ms : List (Move Action)}
    {s : Composite Store (Process × Callers)}
    (fresh : Along Cluster.attributedStep (Meets ClusterFresh) Cluster.attributedStart ms)
    (run : exec Cluster.attributedStep Cluster.attributedStart ms = some s) :
    TokensDistinct s.shared.db ∧
    (∀ (i : Nat) (l : Process × Callers), s.locals[i]? = some l →
      AnswersOwn l.2 (World.view s.shared l.1) ∧
      ∀ a w', (World.view s.shared l.1).step a = some w' →
        StepIsolated l.2 (World.view s.shared l.1) w' a) ∧
    ∀ ns t, exec Cluster.attributedStep s ns = some t → ∀ r ∈ s.shared.db.rows,
      ∀ r' ∈ t.shared.db.rows, r'.id = r.id → SameIdentity r r' := by
  obtain ⟨named, each⟩ := cluster_named fresh run
  refine ⟨named.distinct, ?_, ?_⟩
  · intro i l there
    have mine := each i l there
    refine ⟨answers_own mine.named mine.attributed, fun a w' h => ?_⟩
    exact step_isolated mine.named mine.attributed h
  · intro ns t later r stored r' member same
    have below := s.shared.db.below r stored
    obtain ⟨old, there, eq, kept⟩ := (later_run later).2 r' member (same ▸ below)
    rw [Table.same_key there stored (eq.trans same)] at kept
    exact kept

/-- Two servers. Each user creates an application on one of them, and bob asks the other
server to delete alice's application and then his own. -/
def twoServersRun : List (Move Action) :=
  [.join, .join,
   .act 0 (.routes (.createInsert "alice" none "token-a" 0 true)),
   .act 1 (.routes (.createInsert "bob" none "token-b" 0 true)),
   .act 0 (.routes (.createLaunched 0 true)),
   .act 1 (.routes (.appCallback "token-a" "10.0.0.1:15002" "app-1" true)),
   .act 0 (.routes (.deleteRead 1 "bob" true)), .act 0 (.routes (.deleteRead 2 "bob" true))]

theorem two_servers_isolated : ∃ s l,
    exec Cluster.attributedStep Cluster.attributedStart twoServersRun = some s ∧
    s.locals[0]? = some l ∧ l.2 = { creates := ["alice"], deletes := ["bob", "bob"] } ∧
    l.1.routes.deletes = [.answered (.error .notFound), .read 2 "bob" none "token-b"] ∧
    ∀ w', (World.view s.shared l.1).step (.routes (.deleteUpdate 1 true)) = some w' →
      ∀ r ∈ s.shared.db.rows, Touched w' r → r.username = "bob" := by
  have computed : (exec Cluster.attributedStep Cluster.attributedStart twoServersRun).any (fun s =>
      s.locals[0]?.any fun l => l.2 = { creates := ["alice"], deletes := ["bob", "bob"] } &&
        l.1.routes.deletes = [.answered (.error .notFound), .read 2 "bob" none "token-b"]) =
      true := by decide
  obtain ⟨s, run, facts⟩ := computed_run computed
  obtain ⟨l, there, facts⟩ := (Option.any_eq_true _ _).mp facts
  simp only [Bool.and_eq_true, decide_eq_true_eq] at facts
  have isolated := cluster_users_and_tokens_isolated (by decide) run
  refine ⟨s, l, run, there, facts.1, facts.2, fun w' h r member touched => ?_⟩
  have user : Action.user l.2 (.routes (.deleteUpdate 1 true)) = some "bob" := by
    simp [Action.user, facts.1]
  exact ((isolated.2.1 0 l there).2 _ w' h).user "bob" user r member touched

/- What a server has created is found on all of them. -/

/-- The row that was created is in the store, whatever its state is by now. -/
def Present (app : Model) (g : Store) : Prop := ∃ r ∈ g.db.rows, r.id = app.id ∧ SameIdentity app r

/-- A prune is executed with a cutoff before the creation of the application. -/
def SparesAction (app : Model) : Action → Prop
  | .check (.prune cutoff _) => cutoff < app.createdAt
  | _ => True

instance (app : Model) (a : Action) : Decidable (SparesAction app a) := by
  unfold SparesAction
  split <;> infer_instance

theorem present_step {w w' : World} {a : Action} {app : Model} (spares : SparesAction app a)
    (h : w.step a = some w') (before : Present app w.store) : Present app w'.store := by
  obtain ⟨r, stored, same, kept⟩ := before
  have found := step_find h (Table.find_mem stored)
  cases after : w'.db.find r.id with
  | some r' =>
    have member := Table.find_some after
    exact ⟨r', member.1, member.2.trans same,
      kept.trans (identity_step h stored member.1 member.2)⟩
  | none =>
    -- only a prune removes a row, and it would have to be of this age
    rw [after] at found
    cases issued : w.statement a with
    | none => simp [issued] at found
    | some st =>
      rw [issued, Option.elim_some] at found
      obtain ⟨cutoff, rfl⟩ := Statement.row_none found.symm
      obtain rfl := statement_prune issued
      have old : r.createdAt ≤ cutoff := by
        by_contra young
        have other : (Statement.prune cutoff).filter r = false := by simp [Statement.filter, young]
        simp [Statement.row_unfiltered other] at found
      rw [kept.createdAt] at old
      exact absurd old (Int.not_le.mpr spares)

/-- The rows that the calls of a process have inserted are in the store. -/
def Remembers (app : Model) (g : Store) (process : Process) : Prop :=
  ∀ (n : Nat) (call : CreateApp), process.routes.creates[n]? = some call → call.app = some app →
    Present app g

theorem remembers_step {w w' : World} {a : Action} {app : Model} (spares : SparesAction app a)
    (h : w.step a = some w') (before : Remembers app w.store w.process) :
    Remembers app w'.store w'.process := by
  intro n call there holds
  have kept : w'.routes.creates = w.routes.creates → Present app w'.store := by
    intro same
    have there : w'.routes.creates[n]? = some call := there
    rw [same] at there
    exact present_step spares h (before n call there holds)
  cases a with
  | routes act =>
    obtain ⟨outcome, run, rfl⟩ := Option.map_eq_some_iff.mp h
    rcases create_app_step run there holds with ⟨old, at_n, was⟩ | ⟨_, new⟩
    · exact present_step spares h (before n old at_n was)
    · obtain ⟨username, name, token, createdAt, rfl, rfl⟩ := new
      cases run
      refine ⟨_, ?_, rfl, same_identity_refl _⟩
      simp [World.store, Db.execOption, Db.exec, Table.insert]
  | check act =>
    obtain ⟨outcome, run, rfl⟩ := Option.map_eq_some_iff.mp h
    exact kept rfl
  | proxy act =>
    obtain ⟨outcome, run, rfl⟩ := Option.map_eq_some_iff.mp h
    exact kept rfl
  | restart =>
    cases h
    simp [World.process] at there

/-- As far as one application is concerned, the processes of a cluster only have to keep
its row in the store. -/
theorem processes_remember (app : Model) :
    Cooperates processStep {} (fun _ _ a => SparesAction app a)
      (fun g g' => Present app g → Present app g') (fun _ => True)
      (fun _ => Remembers app) := by
  constructor
  · intros
    trivial
  · intro i g l a g' l' _ before spares h
    exact remembers_step spares (process_step.mp h) before
  · intro i g l a g' l' _ _ spares h
    exact present_step spares (process_step.mp h)
  · intro i g l g' _ before moved n call there holds
    exact moved (before n call there holds)
  · intro i g _ n call there
    simp at there

/-- Applications that a prune removes for their age are excepted. -/
def SparesMove (app : Model) (m : Move Action) : Prop := ∀ i a, m = .act i a → SparesAction app a

theorem present_run {app : Model} {s t : Cluster} {ms : List (Move Action)}
    (spares : ∀ m ∈ ms, SparesMove app m) (run : exec Cluster.step s ms = some t)
    (before : Present app s.shared) : Present app t.shared := by
  let inv : Cluster → Prop := fun u => Present app u.shared
  have pres : Preserves Cluster.step (fun _ m => SparesMove app m) inv := by
    intro u m v here spare h
    rcases step_cases h with ⟨i, a, l, g', l', rfl, _, moved, rfl⟩ | ⟨_, rfl⟩
    · exact present_step (spare i a rfl) (process_step.mp moved) here
    · exact here
  have last : inv t := invariant_run pres before (along_of_mem spares) run
  exact last

theorem remembered_run {app : Model} {db : Db} {s : Cluster} {ms : List (Move Action)}
    (spares : ∀ m ∈ ms, SparesMove app m) (run : exec Cluster.step (.start db) ms = some s)
    {i : Nat} {process : Process} (there : s.locals[i]? = some process) :
    Remembers app s.shared process := by
  have weaker : ∀ (s : Cluster) m, SparesMove app m →
      Meets (fun _ _ a => SparesAction app a) s m := by
    intro s m spare
    cases m with
    | act i a => exact fun l _ => spare i a rfl
    | join => trivial
  have along : Along Cluster.step (fun _ m => SparesMove app m) (.start db) ms :=
    along_of_mem spares
  have first : Holds (fun _ => True) (fun _ => Remembers app) (Cluster.start db) :=
    ⟨trivial, by simp [Cluster.start]⟩
  have last := cooperates_run (processes_remember app) first (along_imp weaker along) run
  exact last.2 i process there

theorem get_app_hidden {db : Db} {appId : Int} {username : String} (config : ProxyConfig)
    (other : ∀ r ∈ db.rows, r.id = appId → r.username ≠ username) :
    getApp config db appId username true = .error .notFound := by
  have absent : (db.first fun r => r.username = username && r.id = appId) = none := by
    refine List.find?_eq_none.mpr fun r member selected => ?_
    simp only [Bool.and_eq_true, decide_eq_true_eq] at selected
    exact other r member selected.2 selected.1
  simp [getApp, absent]

/-- No listing of another user contains an application. -/
theorem list_apps_others {db : Db} {r : Model} {config : ProxyConfig} {username : String}
    {params : ListApplicationsRequest} {stored : Bool} {infos : List ApplicationInfo}
    (there : r ∈ db.rows) (other : username ≠ r.username)
    (h : listApps config db username params stored = .ok infos) :
    ∀ info ∈ infos, info.id ≠ r.id := by
  intro info member same
  unfold listApps at h
  split at h
  · cases h
  · split at h
    · cases h
      obtain ⟨x, selected, rfl⟩ := List.mem_map.mp member
      obtain ⟨stored, mine⟩ := List.mem_filter.mp selected
      obtain rfl := Table.same_key stored there same
      simp only [listFilter, Bool.and_eq_true, decide_eq_true_eq] at mine
      exact other mine.1.1.1.symm
    · cases h

/-- A request without filters lists every application of its user. -/
theorem list_apps_all {db : Db} {r : Model} (config : ProxyConfig) (stored : r ∈ db.rows) :
    ∃ infos, listApps config db r.username {} true = .ok infos ∧ .ofModel config r ∈ infos := by
  refine ⟨_, rfl, List.mem_map.mpr ⟨r, List.mem_filter.mpr ⟨stored, ?_⟩, rfl⟩⟩
  simp [listFilter]

/- The moves of a cluster on a store that compares creation times in its own way. -/

/-- A prune deletes the rows that its bound selects: those up to the cutoff. -/
def Action.under (compare : Comparison) : Action → Action
  | .check (.prune bound stored) => .check (.prune (compare.cutoff bound) stored)
  | a => a

def moveUnder (compare : Comparison) : Move Action → Move Action
  | .act i a => .act i (a.under compare)
  | .join => .join

/-- The bound of a prune does not select the application. -/
def Unselected (compare : Comparison) (app : Model) (m : Move Action) : Prop :=
  ∀ i bound stored, m = .act i (.check (.prune bound stored)) →
    compare.selects app.createdAt bound = false

theorem unselected_spares {compare : Comparison} {app : Model} {m : Move Action}
    (clock : FourDigitYear app.createdAt) (unselected : Unselected compare app m) :
    SparesMove app (moveUnder compare m) := by
  intro i a same
  cases m with
  | join => cases same
  | act j b =>
    cases same
    cases b with
    | check act =>
      cases act with
      | prune bound stored =>
        have young := unselected i bound stored rfl
        rw [Bool.eq_false_iff, Ne, selects_iff compare clock] at young
        exact Int.not_le.mp young
      | _ => trivial
    | _ => trivial

theorem unselected_moves {compare : Comparison} {app : Model} {ms : List (Move Action)}
    (clock : FourDigitYear app.createdAt) (unselected : ∀ m ∈ ms, Unselected compare app m) :
    ∀ m ∈ ms.map (moveUnder compare), SparesMove app m := by
  intro m member
  obtain ⟨bound, there, rfl⟩ := List.mem_map.mp member
  exact unselected_spares clock (unselected bound there)

/-- In every run of a cluster, on a store that compares creation times as instants or as
SQLite's texts, an application that some server has created is found by its owner at every
server from then on, under the same id, name and token, and by no other user; only a prune
whose bound selects its creation time may remove it. -/
theorem created_apps_read_back {db : Db} {app : Model} {ms ns : List (Move Action)}
    {s t : Cluster} {i n : Nat} {process : Process} (config : ProxyConfig) (compare : Comparison)
    (clock : FourDigitYear app.createdAt) (unselected : ∀ m ∈ ms ++ ns, Unselected compare app m)
    (run : exec Cluster.step (.start db) (ms.map (moveUnder compare)) = some s)
    (there : s.locals[i]? = some process)
    (created : process.routes.creates[n]? = some (.answered (.ok app)))
    (later : exec Cluster.step s (ns.map (moveUnder compare)) = some t) :
    ∃ r ∈ t.shared.db.rows, SameIdentity app r ∧
      getApp config t.shared.db app.id app.username true = .ok (.ofModel config r) ∧
      (∀ username, username ≠ app.username →
        getApp config t.shared.db app.id username true = .error .notFound) ∧
      (∃ infos, listApps config t.shared.db app.username {} true = .ok infos ∧
        .ofModel config r ∈ infos) ∧
      ∀ username params stored infos, username ≠ app.username →
        listApps config t.shared.db username params stored = .ok infos →
        ∀ info ∈ infos, info.id ≠ app.id := by
  have first := unselected_moves clock fun m member => unselected m (List.mem_append_left ns member)
  have second := unselected_moves clock fun m member =>
    unselected m (List.mem_append_right ms member)
  have earlier := remembered_run first run there
  obtain ⟨r, stored, same, kept⟩ := present_run second later (earlier n _ created rfl)
  refine ⟨r, stored, kept, ?_, ?_, ?_, ?_⟩
  · rw [← same, ← kept.username]
    exact get_app_stored config stored
  · intro username other
    refine get_app_hidden config fun x member eq user => other ?_
    rw [Table.same_key member stored (eq.trans same.symm)] at user
    exact user.symm.trans kept.username
  · rw [← kept.username]
    exact list_apps_all config stored
  · intro username params answers infos other listed info member
    rw [← same]
    exact list_apps_others stored (kept.username ▸ other) listed info member

/-- Alice's application is created on one server, which then restarts, while another one
joins and a prune is run with a bound of the day before. -/
def handoverRun : List (Move Action) :=
  [.join, .act 0 (.routes (.createInsert "alice" (some "etl") "token-a" mayMorning true)),
   .act 0 (.routes (.createLaunched 0 true))]

def takeoverRun : List (Move Action) :=
  [.join, .act 0 .restart, .act 1 (.check (.prune aprilEvening true))]

def aliceRow : Model := ⟨1, mayMorning, "alice", some "etl", .launching, "token-a", none, none⟩

theorem handover_reads_back : ∃ s process t,
    exec Cluster.step (.start .new) (handoverRun.map (moveUnder .texts)) = some s ∧
    s.locals[0]? = some process ∧
    process.routes.creates[0]? = some (.answered (.ok aliceRow)) ∧
    exec Cluster.step s (takeoverRun.map (moveUnder .texts)) = some t ∧
    ∃ r ∈ t.shared.db.rows, r.token = "token-a" := by
  have computed : (exec Cluster.step (.start .new) (handoverRun.map (moveUnder .texts))).any
      (fun s =>
        (s.locals[0]?.any fun process =>
          process.routes.creates[0]? = some (.answered (.ok aliceRow))) &&
        (exec Cluster.step s (takeoverRun.map (moveUnder .texts))).isSome) = true := by decide
  obtain ⟨s, run, facts⟩ := computed_run computed
  rw [Bool.and_eq_true] at facts
  obtain ⟨process, there, created⟩ := (Option.any_eq_true _ _).mp facts.1
  obtain ⟨t, later⟩ := Option.isSome_iff_exists.mp facts.2
  have created := of_decide_eq_true created
  have later_day : createdAtMost mayMorning aprilEvening = false := by decide
  have unselected : ∀ m ∈ handoverRun ++ takeoverRun, Unselected .texts aliceRow m := by
    intro m member i bound stored same
    subst same
    simp only [handoverRun, takeoverRun, List.cons_append, List.nil_append, List.mem_cons,
      reduceCtorEq, Move.act.injEq, Action.check.injEq, CheckAction.prune.injEq,
      List.not_mem_nil, or_false, false_or, and_false] at member
    obtain ⟨_, rfl, _⟩ := member
    exact later_day
  have clock : FourDigitYear aliceRow.createdAt := by decide
  obtain ⟨r, stored, kept, _⟩ := created_apps_read_back ⟨none, none, fun tpl _ => tpl⟩ .texts
    clock unselected run there created later
  exact ⟨s, process, t, run, there, created, later, r, stored, kept.token⟩

end SparkPlug
