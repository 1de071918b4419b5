import SparkPlug.World

/-!
A failed delete and its retry. The row is marked before the stop message is sent, and
what is left of it when the message fails does not say any more whom to stop.
-/
namespace SparkPlug
open KeyedTable Runs

/-- What the store and the network answer to one call of deleteApp. -/
structure DeleteOutcomes where
  read : Bool := true
  updated : Bool := true
  delivered : Bool := true

/-- One call: the store afterwards, the stop message it has sent, the token whose connection
it has invalidated, and its answer. -/
structure DeleteResult where
  db : Db
  stop : Option (String × String) := none
  invalidated : Option String := none
  result : Except StatusCode Unit

def deleteApp (db : Db) (appId : Int) (username : String) (o : DeleteOutcomes) : DeleteResult :=
  if o.read then
    match db.first fun r => r.username = username && r.id = appId with
    | none => { db, result := .error .notFound }
    | some app =>
      if o.updated then
        let db := db.exec (.deleteApp appId username)
        match app.address with
        | some address =>
          { db, stop := some (address, app.token), invalidated := some app.token
            result := DeleteApp.stopResult o.delivered }
        | none => { db, invalidated := some app.token, result := .ok () }
      else { db, result := .error .internalServerError }
  else { db, result := .error .internalServerError }

/-- The actions of a call that nothing interrupts; `n` is its number. -/
def deleteActions (db : Db) (n : Nat) (appId : Int) (username : String) (o : DeleteOutcomes) :
    List Action :=
  .routes (.deleteRead appId username o.read) ::
    match DeleteApp.afterRead db appId username o.read with
    | .read _ _ address _ =>
      .routes (.deleteUpdate n o.updated) ::
        if o.updated then
          (address.toList.map fun _ => .routes (.deleteStop n o.delivered)) ++
            [.routes (.deleteInvalidate n)]
        else []
    | _ => []

theorem read_refused {w : World} {appId : Int} {username : String} {o : DeleteOutcomes}
    (refused : DeleteApp.afterRead w.db appId username o.read =
      .answered (deleteApp w.db appId username o).result)
    (unchanged : (deleteApp w.db appId username o).db = w.db) :
    ∃ w', exec World.step w
        (deleteActions w.db w.routes.deletes.length appId username o) = some w' ∧
      w'.db = (deleteApp w.db appId username o).db ∧
      w'.routes.deletes =
        w.routes.deletes ++ [.answered (deleteApp w.db appId username o).result] := by
  rw [unchanged]
  simp [deleteActions, refused, exec, World.step, Routes.step]

/-- The call is what the handler does, step by step. -/
theorem delete_app_run (w : World) (appId : Int) (username : String) (o : DeleteOutcomes) :
    ∃ w', exec World.step w
        (deleteActions w.db w.routes.deletes.length appId username o) = some w' ∧
      w'.db = (deleteApp w.db appId username o).db ∧
      w'.routes.deletes =
        w.routes.deletes ++ [.answered (deleteApp w.db appId username o).result] := by
  obtain ⟨read, updated, delivered⟩ := o
  cases read with
  | false => exact read_refused rfl rfl
  | true =>
    cases found : w.db.first fun r => r.username = username && r.id = appId with
    | none =>
      apply read_refused
      · simp [DeleteApp.afterRead, deleteApp, found]
      · simp [deleteApp, found]
    | some app =>
      cases updated with
      | false =>
        simp [deleteActions, DeleteApp.afterRead, deleteApp, found, exec, World.step, Routes.step]
      | true =>
        cases address : app.address with
        | none =>
          simp [deleteActions, DeleteApp.afterRead, DeleteApp.afterUpdate, deleteApp, found,
            address, exec, World.step, Routes.step]
        | some address =>
          simp [deleteActions, DeleteApp.afterRead, DeleteApp.afterUpdate, deleteApp, found,
            address, exec, World.step, Routes.step]

/-- The stop that a call attempts if it gets as far as that. -/
def stopOf (db : Db) (appId : Int) (username : String) : Option (String × String) :=
  (db.first fun r => r.username = username && r.id = appId).bind fun app =>
    app.address.map fun address => (address, app.token)

/-- After an error the row is as before, and a retry that reaches the store attempts the
same stop. -/
structure Retriable (db : Db) (appId : Int) (username : String) (o : DeleteOutcomes) : Prop where
  kept : ∀ code, (deleteApp db appId username o).result = .error code →
    (deleteApp db appId username o).db.find appId = db.find appId
  retried : ∀ code, (deleteApp db appId username o).result = .error code → ∀ delivered,
    (deleteApp (deleteApp db appId username o).db appId username { delivered }).stop =
      stopOf db appId username

/-- The row is found with an address and marked, and the stop message fails. -/
structure StopFails (db : Db) (appId : Int) (username : String) (o : DeleteOutcomes) : Prop where
  read : o.read = true
  updated : o.updated = true
  addressed : stopOf db appId username ≠ none
  undelivered : o.delivered = false

theorem stop_of_call (db : Db) (appId : Int) (username : String) (delivered : Bool) :
    (deleteApp db appId username { delivered }).stop = stopOf db appId username := by
  unfold deleteApp stopOf
  rw [if_pos rfl]
  cases db.first fun r => r.username = username && r.id = appId with
  | none => rfl
  | some app =>
    simp only [↓reduceIte, Option.bind_some]
    cases app.address <;> rfl

/-- An error leaves the store as it was, or comes from the stop message. -/
theorem delete_app_error {db : Db} {appId : Int} {username : String} {o : DeleteOutcomes}
    {code : StatusCode} (failed : (deleteApp db appId username o).result = .error code) :
    (deleteApp db appId username o).db = db ∨ StopFails db appId username o := by
  cases read : o.read with
  | false => exact Or.inl (by simp [deleteApp, read])
  | true =>
    cases found : db.first fun r => r.username = username && r.id = appId with
    | none => exact Or.inl (by simp [deleteApp, read, found])
    | some app =>
      cases updated : o.updated with
      | false => exact Or.inl (by simp [deleteApp, read, found, updated])
      | true =>
        cases address : app.address with
        | none => simp [deleteApp, read, found, updated, address] at failed
        | some address' =>
          cases delivered : o.delivered with
          | true =>
            simp [deleteApp, read, found, updated, address, delivered, DeleteApp.stopResult]
              at failed
          | false =>
            exact Or.inr ⟨read, updated, by simp [stopOf, found, address], delivered⟩

/-- The failed stop has cost the row its address. -/
theorem failed_stop_forgets {db : Db} {appId : Int} {username : String} {o : DeleteOutcomes}
    (fails : StopFails db appId username o) :
    (deleteApp db appId username o).result = .error .internalServerError ∧
      (deleteApp db appId username o).db.find appId ≠ db.find appId := by
  obtain ⟨read, updated, addressed, undelivered⟩ := fails
  obtain ⟨stop, found⟩ := Option.ne_none_iff_exists'.mp addressed
  obtain ⟨app, stored, reached⟩ := Option.bind_eq_some_iff.mp found
  obtain ⟨address, registered, _⟩ := Option.map_eq_some_iff.mp reached
  have call : deleteApp db appId username o =
      { db := db.exec (.deleteApp appId username), stop := some (address, app.token),
        invalidated := some app.token, result := .error .internalServerError } := by
    simp [deleteApp, read, stored, updated, registered, undelivered, DeleteApp.stopResult]
  obtain ⟨member, own⟩ := Table.first_some stored
  simp only [Bool.and_eq_true, decide_eq_true_eq] at own
  have before : db.find appId = some app := by
    rw [← own.2]
    exact Table.find_mem member
  rw [call]
  refine ⟨rfl, ?_⟩
  rw [find_exec before, before]
  intro same
  have row := Option.some.inj same
  rw [← row] at registered
  simp [Statement.filter, Statement.set, own] at registered

/-- A failed delete can be retried unless it is the stop message that has failed. -/
theorem delete_retriable_iff (db : Db) (appId : Int) (username : String) (o : DeleteOutcomes) :
    Retriable db appId username o ↔ ¬ StopFails db appId username o := by
  constructor
  · intro retriable fails
    have forgotten := failed_stop_forgets fails
    exact forgotten.2 (retriable.kept _ forgotten.1)
  · intro stops
    have unchanged : ∀ code, (deleteApp db appId username o).result = .error code →
        (deleteApp db appId username o).db = db := by
      intro code failed
      exact (delete_app_error failed).resolve_right stops
    constructor
    · intro code failed
      rw [unchanged code failed]
    · intro code failed delivered
      rw [unchanged code failed]
      exact stop_of_call db appId username delivered

def launchedDb : Db :=
  (Db.new.exec (.createInsert "alice" none "abcd" 0)).exec
    (.appCallback "abcd" "10.0.0.1:15002" "spark-1")

/-- The stop message fails; the row is finished without an address, and the retry
answers success without another stop. -/
theorem failed_delete_forgets :
    (deleteApp launchedDb 1 "alice" { delivered := false }).result =
      .error .internalServerError ∧
    (deleteApp (deleteApp launchedDb 1 "alice" { delivered := false }).db 1 "alice" {}).stop =
      none ∧
    (deleteApp (deleteApp launchedDb 1 "alice" { delivered := false }).db 1 "alice" {}).result =
      .ok () ∧
    ¬ Retriable launchedDb 1 "alice" { delivered := false } := by
  refine ⟨by decide, by decide, by decide, fun retriable => ?_⟩
  have kept := retriable.kept .internalServerError (by decide)
  revert kept
  decide

end SparkPlug
