import SparkPlug.Application
import SparkPlug.Library.KeyedTable

/- The application table and the SQL statements that write it. Each statement is
   atomic; it is named after the function of the server that issues it. -/
namespace SparkPlug
open KeyedTable

abbrev Db := Table Model Model.id

/-- Fresh databases hand out the id 1 first. -/
def Db.new : Db := Table.empty 1

inductive Statement where
  | createInsert (username : String) (name : Option String) (token : String)
      (createdAt : DateTimeUtc)
  | createFailed (id : Int)
  | watcherFailed (id : Int)
  | appCallback (token address applicationId : String)
  | appCallbackDelete (token : String)
  | deleteApp (id : Int) (username : String)
  | markApplicationFailed (token : String)
  | checkFailed (id : Int)
  | prune (cutoff : DateTimeUtc)
  deriving DecidableEq, Repr

namespace Statement

/-- The row that createApp inserts; createdAt is the column default. -/
def newRow (username : String) (name : Option String) (token : String) (createdAt : DateTimeUtc)
    (id : Int) : Model :=
  { id, createdAt, username, name, state := .launching, token, address := none,
    applicationId := none }

theorem id_newRow (username : String) (name : Option String) (token : String)
    (createdAt : DateTimeUtc) (id : Int) :
    (newRow username name token createdAt id).id = id := rfl

/-- The WHERE clause. -/
def filter : Statement → Model → Bool
  | createInsert .., _ => false
  | createFailed id, r => r.id = id
  | watcherFailed id, r => r.id = id && r.state = .launching
  | appCallback token .., r => r.token = token
  | appCallbackDelete token, r => r.token = token
  | deleteApp id username, r => r.id = id && r.username = username
  | markApplicationFailed token, r => r.token = token
  | checkFailed id, r => r.id = id
  | prune cutoff, r => (r.state = .failed || r.state = .finished) && r.createdAt ≤ cutoff

/-- The SET clause of an UPDATE. The two failure updates of createApp leave the
address as it is. -/
def set : Statement → Model → Model
  | createInsert .., r => r
  | createFailed _, r => { r with state := .failed }
  | watcherFailed _, r => { r with state := .failed }
  | appCallback _ address applicationId, r =>
    { r with address := some address, state := .running, applicationId := some applicationId }
  | appCallbackDelete _, r => { r with address := none, state := .finished }
  | deleteApp _ _, r => { r with address := none, state := .finished }
  | markApplicationFailed _, r => { r with address := none, state := .failed }
  | checkFailed _, r => { r with address := none, state := .failed }
  | prune _, r => r

theorem id_set (st : Statement) (r : Model) : (st.set r).id = r.id := by cases st <;> rfl

/-- What becomes of a row that is in the table when the statement is executed. -/
def row (st : Statement) (r : Model) : Option Model :=
  match st with
  | prune _ => if st.filter r then none else some r
  | _ => some (if st.filter r then st.set r else r)

end Statement

namespace Db

def exec (db : Db) (st : Statement) : Db :=
  match st with
  | .createInsert username name token createdAt =>
    db.insert (Statement.newRow username name token createdAt)
      (Statement.id_newRow username name token createdAt)
  | .prune _ => db.delete st.filter
  | _ => db.update st.filter st.set st.id_set

/-- `exec` on the statement of a step, if it issues one. -/
def execOption (db : Db) (st : Option Statement) : Db := (st.map db.exec).getD db

def rowsAffected (db : Db) (st : Statement) : Nat := db.affected st.filter

@[simp] theorem exec_none (db : Db) : db.execOption none = db := rfl

@[simp] theorem exec_some (db : Db) (st : Statement) : db.execOption (some st) = db.exec st := rfl

end Db

theorem Statement.row_id {st : Statement} {r r' : Model} (h : st.row r = some r') :
    r'.id = r.id := by
  cases st <;> simp only [row, Option.some.injEq] at h <;> split at h <;> simp_all [set] <;>
    subst r' <;> rfl

/-- No statement changes whose row it is. -/
theorem Statement.row_owner {st : Statement} {r r' : Model} (h : st.row r = some r') :
    r'.username = r.username ∧ r'.token = r.token := by
  cases st <;> simp only [row, Option.some.injEq] at h <;> split at h <;> simp_all [set] <;>
    subst r' <;> simp

theorem Statement.row_unfiltered {st : Statement} {r : Model} (h : st.filter r = false) :
    st.row r = some r := by
  cases st <;> simp [row, h]

theorem Statement.row_none {st : Statement} {r : Model} (h : st.row r = none) :
    ∃ cutoff, st = .prune cutoff := by
  cases st <;> simp_all [row]

theorem next_le_exec (db : Db) (st : Statement) : db.next ≤ (db.exec st).next := by
  cases st <;> simp only [Db.exec, Table.insert, Table.update, Table.delete] <;> omega

/-- A statement acts on each stored row by itself. -/
theorem find_exec {db : Db} {st : Statement} {i : Int} {r : Model} (stored : db.find i = some r) :
    (db.exec st).find i = st.row r := by
  have below := Table.find_lt stored
  cases st with
  | createInsert =>
    have old : i ≠ db.next := by omega
    rw [Db.exec, Table.find_insert, if_neg old, stored]
    simp [Statement.row, Statement.filter]
  | prune =>
    simp only [Db.exec, Table.find_delete, stored, Option.filter_some, Statement.row]
    split <;> simp_all
  | _ => simp [Db.exec, Table.find_update, stored, Table.change, Statement.row]

/-- A row of the table after a statement was there before it, or is the inserted one. -/
theorem mem_exec {db : Db} {st : Statement} {r' : Model} (member : r' ∈ (db.exec st).rows) :
    (∃ r ∈ db.rows, st.row r = some r') ∨
      ∃ username name token createdAt, st = .createInsert username name token createdAt ∧
        r' = Statement.newRow username name token createdAt db.next := by
  cases st with
  | createInsert username name token createdAt =>
    rcases List.mem_append.mp member with old | new
    · exact Or.inl ⟨r', old, by simp [Statement.row, Statement.filter]⟩
    · exact Or.inr ⟨username, name, token, createdAt, rfl, List.mem_singleton.mp new⟩
  | prune cutoff =>
    obtain ⟨stored, kept⟩ := List.mem_filter.mp member
    refine Or.inl ⟨r', stored, ?_⟩
    simp only [Bool.not_eq_true'] at kept
    simp [Statement.row, kept]
  | _ =>
    obtain ⟨r, stored, rfl⟩ := List.mem_map.mp member
    exact Or.inl ⟨r, stored, rfl⟩

/-- Ids are never handed out again. -/
theorem find_exec_none {db : Db} {st : Statement} {i : Int} (absent : db.find i = none)
    (used : i < db.next) : (db.exec st).find i = none := by
  refine Table.find_none_iff.mpr fun r' member same => ?_
  rcases mem_exec member with ⟨r, stored, kept⟩ | ⟨_, _, _, _, _, rfl⟩
  · exact Table.find_none_iff.mp absent r stored ((Statement.row_id kept).symm.trans same)
  · simp only [Statement.newRow] at same
    omega

end SparkPlug
