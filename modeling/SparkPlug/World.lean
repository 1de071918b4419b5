import SparkPlug.Library.Runs
import SparkPlug.Health
import SparkPlug.Proxy
import SparkPlug.Routes

/-!
One server process and any number of check and prune processes on one store.
`World.step` interleaves their actions; every action is atomic.
-/
namespace SparkPlug
open KeyedTable Runs

structure World where
  db : Db
  routes : Routes := {}
  checks : List Check := []
  proxy : Proxy := {}
  /- The tokens that `Uuid::new_v4` has given out so far. -/
  issued : List String := []

inductive Action where
  | routes (a : RoutesAction)
  | check (a : CheckAction)
  | proxy (a : ProxyAction)
  /- The server process ends and is started again on the same store. -/
  | restart

/-- The token drawn by an action. -/
def Action.newToken : Action → Option String
  | .routes (.createInsert _ _ token _ _) => some token
  | _ => none

namespace World

def start (db : Db) : World := { db }

def invalidate (p : Proxy) (token : Option String) : Proxy := (token.map p.invalidate).getD p

/-- The statement that an action executes in a state. -/
def statement (w : World) : Action → Option Statement
  | .routes a => (w.routes.step w.db a).bind (·.statement)
  | .check a => (Check.step w.db w.checks a).bind (·.statement)
  | .proxy a => (w.proxy.step w.db a).bind (·.statement)
  | .restart => none

def step (w : World) : Action → Option World
  | .routes a => (w.routes.step w.db a).map fun outcome =>
    { w with
      db := w.db.execOption outcome.statement
      routes := outcome.routes
      proxy := invalidate w.proxy outcome.invalidate
      issued := (Action.newToken (.routes a)).toList ++ w.issued }
  | .check a => (Check.step w.db w.checks a).map fun outcome =>
    { w with db := w.db.execOption outcome.statement, checks := outcome.checks }
  | .proxy a => (w.proxy.step w.db a).map fun outcome =>
    { w with db := w.db.execOption outcome.statement, proxy := outcome.proxy }
  | .restart => some { w with routes := {}, proxy := {} }

end World

/-- The action that issues a statement, and what it has read. -/
inductive Issued (w : World) : Action → Statement → Prop where
  | createInsert (username : String) (name : Option String) (token : String)
      (createdAt : DateTimeUtc) :
      Issued w (.routes (.createInsert username name token createdAt true))
        (.createInsert username name token createdAt)
  | createFailed (n : Nat) (app : Model)
      (at_n : w.routes.creates[n]? = some (.launchFailed app)) :
      Issued w (.routes (.createFailed n true)) (.createFailed app.id)
  | watcherFailed (id : Int) (live : id ∈ w.routes.watchers) :
      Issued w (.routes (.watcherDone id true)) (.watcherFailed id)
  | appCallback (token address applicationId : String) :
      Issued w (.routes (.appCallback token address applicationId true))
        (.appCallback token address applicationId)
  | appCallbackDelete (token : String) (sender : String) :
      Issued w (.routes (.appCallbackDelete token sender true)) (.appCallbackDelete token)
  | deleteApp (n : Nat) (appId : Int) (username : String) (address : Option String)
      (token : String) (at_n : w.routes.deletes[n]? = some (.read appId username address token)) :
      Issued w (.routes (.deleteUpdate n true)) (.deleteApp appId username)
  | checkFailed (n : Nat) (app : Model) (rest : List Model)
      (at_n : w.checks[n]? = some (.failing app rest)) :
      Issued w (.check (.checkUpdate n true)) (.checkFailed app.id)
  | prune (cutoff : DateTimeUtc) : Issued w (.check (.prune cutoff true)) (.prune cutoff)
  | markApplicationFailed (d : Nat) (disp : Dispatcher) (msg : UpstreamMessage)
      (address : String) (lastError : ProxyError) (at_d : w.proxy.dispatchers[d]? = some disp)
      (phase : disp.phase = .failing msg address lastError) :
      Issued w (.proxy (.markFailed d true)) (.markApplicationFailed disp.token)

theorem issued_by {w : World} {a : Action} {st : Statement} (h : w.statement a = some st) :
    Issued w a st := by
  cases a with
  | routes act =>
    obtain ⟨outcome, run, eq⟩ := Option.bind_eq_some_iff.mp h
    rcases Routes.step_statement run with none | ⟨username, name, token, createdAt, rfl, same⟩ |
      ⟨n, app, rfl, at_n, same⟩ | ⟨id, rfl, live, same⟩ |
      ⟨token, address, applicationId, rfl, same⟩ | ⟨token, sender, rfl, same⟩ |
      ⟨n, appId, username, address, token, rfl, at_n, same⟩
    · simp [none] at eq
    · cases same.symm.trans eq
      exact .createInsert username name token createdAt
    · cases same.symm.trans eq
      exact .createFailed n app at_n
    · cases same.symm.trans eq
      exact .watcherFailed id live
    · cases same.symm.trans eq
      exact .appCallback token address applicationId
    · cases same.symm.trans eq
      exact .appCallbackDelete token sender
    · cases same.symm.trans eq
      exact .deleteApp n appId username address token at_n
  | check act =>
    obtain ⟨outcome, run, eq⟩ := Option.bind_eq_some_iff.mp h
    rcases Check.step_statement run with none | ⟨n, app, rest, rfl, at_n, same⟩ |
      ⟨cutoff, rfl, same⟩
    · simp [none] at eq
    · cases same.symm.trans eq
      exact .checkFailed n app rest at_n
    · cases same.symm.trans eq
      exact .prune cutoff
  | proxy act =>
    obtain ⟨outcome, run, eq⟩ := Option.bind_eq_some_iff.mp h
    rcases Proxy.step_statement run with
      none | ⟨d, disp, msg, address, last, rfl, at_d, phase, same⟩
    · simp [none] at eq
    · cases same.symm.trans eq
      exact .markApplicationFailed d disp msg address last at_d phase
  | restart => simp [World.statement] at h

/-- The store writes of a step are those of its one statement. -/
theorem step_db {w w' : World} {a : Action} (h : w.step a = some w') :
    w'.db = w.db.execOption (w.statement a) := by
  cases a with
  | routes a =>
    simp only [World.step, Option.map_eq_some_iff] at h
    obtain ⟨outcome, run, rfl⟩ := h
    simp [World.statement, run]
  | check a =>
    simp only [World.step, Option.map_eq_some_iff] at h
    obtain ⟨outcome, run, rfl⟩ := h
    simp [World.statement, run]
  | proxy a =>
    simp only [World.step, Option.map_eq_some_iff] at h
    obtain ⟨outcome, run, rfl⟩ := h
    simp [World.statement, run]
  | restart =>
    cases h
    rfl

/-- What a step of a running server does to the proxy. -/
theorem step_proxy {w w' : World} {a : Action} (h : w.step a = some w') (running : a ≠ .restart) :
    w'.proxy = w.proxy ∨ (∃ token, w'.proxy = w.proxy.invalidate token) ∨
      ∃ act outcome, w.proxy.step w.db act = some outcome ∧ w'.proxy = outcome.proxy := by
  cases a with
  | routes act =>
    obtain ⟨outcome, _, rfl⟩ := Option.map_eq_some_iff.mp h
    cases removed : outcome.invalidate with
    | none => exact Or.inl (by simp [World.invalidate])
    | some token => exact Or.inr (Or.inl ⟨token, by simp [World.invalidate]⟩)
  | check act =>
    obtain ⟨outcome, _, rfl⟩ := Option.map_eq_some_iff.mp h
    exact Or.inl rfl
  | proxy act =>
    obtain ⟨outcome, step, rfl⟩ := Option.map_eq_some_iff.mp h
    exact Or.inr (Or.inr ⟨act, outcome, step, rfl⟩)
  | restart => exact absurd rfl running

/-- Every run of one server process drives its proxy along a run of any system that can
follow the invalidations and the steps of the proxy. -/
theorem world_run_proxy {B : Type} {other : Proxy → B → Option Proxy}
    (invalidates : ∀ p token, ∃ b, other p b = some (p.invalidate token))
    (steps : ∀ db p act outcome, p.step db act = some outcome → ∃ b, other p b = some outcome.proxy)
    {db : Db} {as : List Action} {w : World} (run : exec World.step (.start db) as = some w)
    (running : Action.restart ∉ as) : ∃ bs, exec other {} bs = some w.proxy := by
  have along : Along World.step (fun _ a => a ≠ .restart) (.start db) as :=
    along_of_mem fun a member same => running (same ▸ member)
  refine exec_simulated World.proxy ?_ along run
  intro v a v' live step
  rcases step_proxy step live with same | ⟨token, removed⟩ | ⟨act, outcome, next, after⟩
  · exact Or.inl same
  · rw [removed]
    exact Or.inr (invalidates v.proxy token)
  · rw [after]
    exact Or.inr (steps v.db v.proxy act outcome next)

/-- Every row of the store after a step stems from a row before it, or is new. -/
theorem step_rows {w w' : World} {a : Action} (h : w.step a = some w') {r' : Model}
    (member : r' ∈ w'.db.rows) :
    (w.statement a = none ∧ r' ∈ w.db.rows) ∨ ∃ st, w.statement a = some st ∧
      ((∃ r ∈ w.db.rows, st.row r = some r') ∨
        ∃ username name token createdAt, st = .createInsert username name token createdAt ∧
          r' = Statement.newRow username name token createdAt w.db.next) := by
  rw [step_db h] at member
  cases st : w.statement a with
  | none =>
    rw [st] at member
    exact Or.inl ⟨rfl, member⟩
  | some st' =>
    rw [st] at member
    exact Or.inr ⟨st', rfl, mem_exec member⟩

/-- What a step makes of one stored row. -/
theorem step_find {w w' : World} {a : Action} (h : w.step a = some w') {i : Int} {r : Model}
    (stored : w.db.find i = some r) :
    w'.db.find i = (w.statement a).elim (some r) (·.row r) := by
  rw [step_db h]
  cases w.statement a with
  | none => exact stored
  | some st => exact find_exec stored

theorem statement_prune {w : World} {a : Action} {cutoff : DateTimeUtc}
    (h : w.statement a = some (.prune cutoff)) : a = .check (.prune cutoff true) := by
  cases issued_by h
  rfl

theorem step_next {w w' : World} {a : Action} (h : w.step a = some w') :
    w.db.next ≤ w'.db.next := by
  rw [step_db h]
  cases w.statement a with
  | none => exact Int.le_refl _
  | some st => exact next_le_exec w.db st

/- Tokens are drawn by `Uuid::new_v4`; no two applications share one. -/

def TokensDistinct (db : Db) : Prop :=
  ∀ r ∈ db.rows, ∀ s ∈ db.rows, r.token = s.token → r.id = s.id

/-- A drawn token was never given out before. -/
def DrawsFresh (w : World) (a : Action) : Prop :=
  ∀ token ∈ a.newToken, token ∉ w.issued ∧ ∀ r ∈ w.db.rows, r.token ≠ token

instance (w : World) (a : Action) : Decidable (DrawsFresh w a) :=
  inferInstanceAs (Decidable
    (∀ token ∈ a.newToken, token ∉ w.issued ∧ ∀ r ∈ w.db.rows, r.token ≠ token))

theorem statement_insert {w : World} {a : Action} {username token : String} {name : Option String}
    {createdAt : DateTimeUtc}
    (h : w.statement a = some (.createInsert username name token createdAt)) :
    a = .routes (.createInsert username name token createdAt true) := by
  cases issued_by h
  rfl

theorem statement_registration {w : World} {a : Action} {token address applicationId : String}
    (h : w.statement a = some (.appCallback token address applicationId)) :
    a = .routes (.appCallback token address applicationId true) := by
  cases issued_by h
  rfl

/-- The registration that an action writes: its token and address. -/
def Action.callback : Action → Option (String × String)
  | .routes (.appCallback token address _ true) => some (token, address)
  | _ => none

theorem statement_callback {w : World} {a : Action} {token address applicationId : String}
    (h : w.statement a = some (.appCallback token address applicationId)) :
    a.callback = some (token, address) := by
  rw [statement_registration h]
  rfl

/-- A row after a step belongs to whom it belonged before, or is new and has the drawn
token. -/
theorem step_row_origin {w w' : World} {a : Action} (h : w.step a = some w') {r' : Model}
    (member : r' ∈ w'.db.rows) :
    (∃ r ∈ w.db.rows, r.id = r'.id ∧ r.username = r'.username ∧ r.token = r'.token) ∨
      (a.newToken = some r'.token ∧ r'.id = w.db.next ∧ r'.state = .launching) := by
  rcases step_rows h member with ⟨_, old⟩ | ⟨st, issued, ⟨r, stored, kept⟩ | new⟩
  · exact Or.inl ⟨r', old, rfl, rfl, rfl⟩
  · have owner := Statement.row_owner kept
    exact Or.inl ⟨r, stored, (Statement.row_id kept).symm, owner.1.symm, owner.2.symm⟩
  · obtain ⟨_, _, _, _, rfl, rfl⟩ := new
    obtain rfl := statement_insert issued
    exact Or.inr ⟨rfl, rfl, rfl⟩

theorem tokens_distinct_step {w w' : World} {a : Action} (distinct : TokensDistinct w.db)
    (fresh : DrawsFresh w a) (h : w.step a = some w') : TokensDistinct w'.db := by
  intro r' member s' member' same
  rcases step_row_origin h member with ⟨r, stored, rid, _, rtok⟩ | ⟨new, rid, _⟩ <;>
    rcases step_row_origin h member' with ⟨s, stored', sid, _, stok⟩ | ⟨new', sid, _⟩
  · rw [← rid, ← sid]
    exact distinct r stored s stored' (by rw [rtok, stok, same])
  · have other := (fresh _ new').2 r stored
    rw [rtok, same] at other
    exact absurd rfl other
  · have other := (fresh _ new).2 s stored'
    rw [stok, ← same] at other
    exact absurd rfl other
  · rw [rid, sid]

end SparkPlug
