import Mathlib.Logic.Function.Basic
import SparkPlug.Library.Tasks
import SparkPlug.World

/-!
Whether a successful delete has stopped the driver. The runs are those of one application
and of any number of drivers with its token; the book beside them records which driver has
registered which address and which drivers have ended.
-/
namespace SparkPlug
open KeyedTable Runs

/-- An action, with the driver that calls where it is the call of a driver. -/
structure AppEvent where
  action : Action
  driver : Nat := 0

structure Registration where
  driver : Nat
  address : String
  deriving DecidableEq

structure DeleteCall where
  /- The driver whose address the call has read. -/
  found : Option Nat := none
  /- The driver that had registered last when the call marked the row FINISHED. -/
  driver : Option Nat := none

structure Book where
  /- The registrations that were answered successfully, the last one first. -/
  acknowledged : List Registration := []
  /- Drivers that were sent a stop message which succeeded, or that sent their DELETE. -/
  ended : List Nat := []
  calls : Nat → DeleteCall := fun _ => {}

def DeleteApp.address : DeleteApp → Option String
  | .read _ _ address _ => address
  | _ => none

/-- The stop message is on its way. -/
def DeleteApp.stopping : DeleteApp → Bool
  | .marked .. => true
  | _ => false

namespace Book

/-- The driver that has registered last. -/
def last (b : Book) : Option Nat := b.acknowledged.head?.map (·.driver)

/-- Of the drivers that have registered an address, the last one. -/
def holder (b : Book) (address : String) : Option Nat :=
  (b.acknowledged.find? fun g => g.address = address).map (·.driver)

/-- The drivers with an acknowledged registration that have not ended. -/
def running (b : Book) : List Nat :=
  (b.acknowledged.map (·.driver)).filter fun driver => driver ∉ b.ended

def setCall (b : Book) (n : Nat) (call : DeleteCall) : Book :=
  { b with calls := Function.update b.calls n call }

def observe (w : World) (e : AppEvent) (b : Book) : Book :=
  match e.action with
  | .routes (.appCallback token address applicationId stored) =>
    match appCallbackAnswer w.db token address applicationId stored with
    | .ok () => { b with acknowledged := ⟨e.driver, address⟩ :: b.acknowledged }
    | .error _ => b
  | .routes (.appCallbackDelete ..) => { b with ended := e.driver :: b.ended }
  | .routes (.deleteRead appId username stored) =>
    b.setCall w.routes.deletes.length
      { found := (DeleteApp.afterRead w.db appId username stored).address.bind b.holder }
  | .routes (.deleteUpdate n true) => b.setCall n { b.calls n with driver := b.last }
  | .routes (.deleteStop n true) => { b with ended := (b.calls n).found.toList ++ b.ended }
  | _ => b

end Book

/-- World.step with the book kept beside it. -/
abbrev bookedStep : World × Book → AppEvent → Option (World × Book) :=
  withHistory (fun w e => w.step e.action) Book.observe

/-- The calls and callbacks of one application. -/
def onApplication (i : Int) (username token : String) : Action → Bool
  | .routes (.deleteRead appId user _) => appId = i && user = username
  | .routes (.deleteUpdate ..) | .routes (.deleteStop ..) | .routes (.deleteInvalidate _)
  | .routes (.deleteDropped _) => true
  | .routes (.appCallback token' ..) => token' = token
  | .routes (.appCallbackDelete token' ..) => token' = token
  | .routes (.appCallbackDeleteInvalidate _) | .routes (.appCallbackDeleteDropped _) => true
  | _ => false

/-- A launched application before its first callback and its first delete. -/
structure Launched (i : Int) (username token : String) (w : World) : Prop where
  row : ∃ r, w.db.find i = some r ∧ r.username = username ∧ r.token = token ∧ r.address = none
  alone : ∀ r ∈ w.db.rows, r.token = token → r.id = i
  deletes : w.routes.deletes = []

/-- The address in the row of the application. -/
def World.addressOf (w : World) (i : Int) : Option String := (w.db.find i).bind (·.address)

/- The conditions. -/

/-- The delete call that marks the row FINISHED. -/
def Action.marks : Action → Option Nat
  | .routes (.deleteUpdate n true) => some n
  | _ => none

/-- A callback of a driver that the store carries out. -/
def Action.callsBack : Action → Bool
  | .routes (.appCallback _ _ _ true) | .routes (.appCallbackDelete _ _ true) => true
  | _ => false

/-- The delete call whose stop message fails, or that is dropped. -/
def Action.givesUp : Action → Option Nat
  | .routes (.deleteStop n false) | .routes (.deleteDropped n) => some n
  | _ => none

/-- A delete marks the row FINISHED only while the driver that registered last is the one
whose address it has read, or has ended. -/
def ReadsLast (s : World × Book) (e : AppEvent) : Prop :=
  ∀ n ∈ e.action.marks, ∀ driver ∈ s.2.last,
    (s.2.calls n).found = some driver ∨ driver ∈ s.2.ended

instance (s : World × Book) (e : AppEvent) : Decidable (ReadsLast s e) :=
  inferInstanceAs (Decidable (∀ n ∈ e.action.marks, ∀ driver ∈ s.2.last,
    (s.2.calls n).found = some driver ∨ driver ∈ s.2.ended))

/-- The address in the row is that of the driver. -/
def InRow (i : Int) (s : World × Book) (driver : Nat) : Prop :=
  (s.1.addressOf i).bind s.2.holder = some driver

instance (i : Int) (s : World × Book) (driver : Nat) : Decidable (InRow i s driver) :=
  inferInstanceAs (Decidable ((s.1.addressOf i).bind s.2.holder = some driver))

/-- A delete call is about to send its stop message to the driver. -/
def PendingAt (s : World × Book) (n driver : Nat) : Prop :=
  s.1.routes.deletes[n]?.any DeleteApp.stopping = true ∧ (s.2.calls n).found = some driver

instance (s : World × Book) (n driver : Nat) : Decidable (PendingAt s n driver) :=
  inferInstanceAs (Decidable
    (s.1.routes.deletes[n]?.any DeleteApp.stopping = true ∧ (s.2.calls n).found = some driver))

/-- Some call other than `n` is. -/
def PendingBeside (s : World × Book) (n : Option Nat) (driver : Nat) : Prop :=
  ∃ m, m < s.1.routes.deletes.length ∧ n ≠ some m ∧ PendingAt s m driver

instance (s : World × Book) (n : Option Nat) (driver : Nat) :
    Decidable (PendingBeside s n driver) :=
  inferInstanceAs (Decidable
    (∃ m, m < s.1.routes.deletes.length ∧ n ≠ some m ∧ PendingAt s m driver))

/-- No driver whose registration was acknowledged is left running with its address dropped:
the row has the address, or the stop message to the driver is on its way. -/
def AddressKept (i : Int) (s : World × Book) : Prop :=
  ∀ driver ∈ s.2.running, InRow i s driver ∨ PendingBeside s none driver

/-- A driver that runs calls back itself, is found by the call that marks the row, or has its
address in the row still; or else a stop message to it is on its way. -/
structure SparesDriver (i : Int) (s : World × Book) (e : AppEvent) (driver : Nat) : Prop where
  callback : e.action.callsBack = true → driver = e.driver ∨ PendingBeside s none driver
  update : ∀ n ∈ e.action.marks, (s.2.calls n).found = some driver ∨ PendingBeside s none driver
  stop : ∀ n ∈ e.action.givesUp, InRow i s driver ∨ PendingBeside s (some n) driver

/-- The action takes the address of no driver that runs. -/
def Spares (i : Int) (s : World × Book) (e : AppEvent) : Prop :=
  ∀ driver ∈ s.2.running, SparesDriver i s e driver

instance (i : Int) (s : World × Book) (e : AppEvent) (driver : Nat) :
    Decidable (SparesDriver i s e driver) :=
  decidable_of_iff
    ((e.action.callsBack = true → driver = e.driver ∨ PendingBeside s none driver) ∧
      (∀ n ∈ e.action.marks, (s.2.calls n).found = some driver ∨ PendingBeside s none driver) ∧
      ∀ n ∈ e.action.givesUp, InRow i s driver ∨ PendingBeside s (some n) driver)
    ⟨fun h => ⟨h.1, h.2.1, h.2.2⟩, fun h => ⟨h.callback, h.update, h.stop⟩⟩

instance (i : Int) (s : World × Book) (e : AppEvent) : Decidable (Spares i s e) :=
  inferInstanceAs (Decidable (∀ driver ∈ s.2.running, SparesDriver i s e driver))

/- What an action does to the row, the delete calls and the book. -/

/-- A delete call that neither stops a driver any more nor has succeeded in it. -/
def DeleteApp.unsuccessful : DeleteApp → Bool
  | .stopped _ (.error _) | .answered (.error _) | .dropped => true
  | _ => false

inductive EventStep (i : Int) (username : String) (w : World) (b : Book) (e : AppEvent)
    (w' : World) : Book → Prop where
  | registered (token address applicationId : String)
      (action : e.action = .routes (.appCallback token address applicationId true))
      (row : w'.addressOf i = some address) (deletes : w'.routes.deletes = w.routes.deletes) :
      EventStep i username w b e w'
        { b with acknowledged := ⟨e.driver, address⟩ :: b.acknowledged }
  | deregistered (token sender : String)
      (action : e.action = .routes (.appCallbackDelete token sender true))
      (row : w'.addressOf i = none) (deletes : w'.routes.deletes = w.routes.deletes) :
      EventStep i username w b e w' { b with ended := e.driver :: b.ended }
  | refused (token sender : String)
      (action : e.action = .routes (.appCallbackDelete token sender false))
      (row : w'.addressOf i = w.addressOf i) (deletes : w'.routes.deletes = w.routes.deletes) :
      EventStep i username w b e w' { b with ended := e.driver :: b.ended }
  | read (stored : Bool) (action : e.action = .routes (.deleteRead i username stored))
      (row : w'.addressOf i = w.addressOf i) (phase : DeleteApp)
      (spawned : (∃ token, phase = .read i username (w.addressOf i) token) ∨
        phase.unsuccessful = true)
      (deletes : w'.routes.deletes = w.routes.deletes ++ [phase]) :
      EventStep i username w b e w'
        (b.setCall w.routes.deletes.length { found := phase.address.bind b.holder })
  | marked (n : Nat) (address : Option String) (token : String)
      (action : e.action = .routes (.deleteUpdate n true))
      (at_n : w.routes.deletes[n]? = some (.read i username address token))
      (row : w'.addressOf i = none)
      (deletes : w'.routes.deletes = w.routes.deletes.set n (.afterUpdate address token)) :
      EventStep i username w b e w' (b.setCall n { b.calls n with driver := b.last })
  | stopped (n : Nat) (address token : String)
      (action : e.action = .routes (.deleteStop n true))
      (at_n : w.routes.deletes[n]? = some (.marked address token))
      (row : w'.addressOf i = w.addressOf i)
      (deletes : w'.routes.deletes = w.routes.deletes.set n (.stopped token (.ok ()))) :
      EventStep i username w b e w' { b with ended := (b.calls n).found.toList ++ b.ended }
  | givenUp (n : Nat) (phase : DeleteApp) (action : e.action.givesUp = some n)
      (silent : e.action.marks = none ∧ e.action.callsBack = false)
      (failed : phase.unsuccessful = true) (row : w'.addressOf i = w.addressOf i)
      (deletes : w'.routes.deletes = w.routes.deletes.set n phase) :
      EventStep i username w b e w' b
  | updateRefused (n : Nat) (action : e.action = .routes (.deleteUpdate n false))
      (at_n : ∃ appId user address token,
        w.routes.deletes[n]? = some (.read appId user address token))
      (row : w'.addressOf i = w.addressOf i)
      (deletes : w'.routes.deletes =
        w.routes.deletes.set n (.answered (.error .internalServerError))) :
      EventStep i username w b e w' b
  | invalidated (n : Nat) (token : String) (result : Except StatusCode Unit)
      (action : e.action = .routes (.deleteInvalidate n))
      (at_n : w.routes.deletes[n]? = some (.stopped token result))
      (row : w'.addressOf i = w.addressOf i)
      (deletes : w'.routes.deletes = w.routes.deletes.set n (.answered result)) :
      EventStep i username w b e w' b
  | quiet (silent : e.action.marks = none ∧ e.action.callsBack = false ∧ e.action.givesUp = none)
      (row : w'.addressOf i = w.addressOf i) (deletes : w'.routes.deletes = w.routes.deletes) :
      EventStep i username w b e w' b

/- The progress of a delete call, with the book's entry for it. -/
def Followed (i : Int) (username : String) : DeleteApp → DeleteCall → Prop
  | .read appId user address _, call =>
    appId = i ∧ user = username ∧ call.found.isSome = address.isSome
  | .marked .., call => call.found.isSome = true
  | _, _ => True

structure Tracked (i : Int) (username token : String) (s : World × Book) : Prop where
  row : ∃ r, s.1.db.find i = some r ∧ r.username = username ∧ r.token = token
  alone : ∀ r ∈ s.1.db.rows, r.token = token → r.id = i
  last : ∀ address, s.1.addressOf i = some address →
    ∃ g, s.2.acknowledged.head? = some g ∧ g.address = address
  calls : ∀ n phase, s.1.routes.deletes[n]? = some phase → Followed i username phase (s.2.calls n)

theorem callback_answered {db : Db} {r : Model} {token : String} (address applicationId : String)
    (stored : r ∈ db.rows) (owner : r.token = token) :
    appCallbackAnswer db token address applicationId true = .ok () := by
  have hit : (Statement.appCallback token address applicationId).filter r = true := by
    simp [Statement.filter, owner]
  have affected : 0 < db.rowsAffected (.appCallback token address applicationId) :=
    Table.affected_pos.mpr ⟨r, stored, hit⟩
  have some_row : db.rowsAffected (.appCallback token address applicationId) ≠ 0 := by omega
  simp [appCallbackAnswer, some_row]

/-- The row that a delete reads, or the answer it gives. -/
theorem after_read_spawned {db : Db} {i : Int} {username : String} {r : Model} {stored : Bool}
    (row : db.find i = some r) (owner : r.username = username) :
    (∃ token, DeleteApp.afterRead db i username stored = .read i username r.address token) ∨
      (DeleteApp.afterRead db i username stored).unsuccessful = true := by
  cases stored with
  | false => exact Or.inr rfl
  | true =>
    obtain ⟨member, same⟩ := Table.find_some row
    cases found : db.first fun r => r.username = username && r.id = i with
    | none =>
      refine Or.inr ?_
      simp [DeleteApp.afterRead, found, DeleteApp.unsuccessful]
    | some app =>
      have facts := Table.first_some found
      simp only [Bool.and_eq_true, decide_eq_true_eq] at facts
      obtain rfl := Table.same_key facts.1 member (facts.2.2.trans same.symm)
      refine Or.inl ⟨app.token, ?_⟩
      simp [DeleteApp.afterRead, found]

section
variable {i : Int} {username token : String} {w w' : World} {b : Book} {e : AppEvent}

theorem address_after {a : Action} (h : w.step a = some w') {r : Model}
    (stored : w.db.find i = some r) :
    w'.addressOf i = ((w.statement a).elim (some r) (·.row r)).bind (·.address) := by
  unfold World.addressOf
  rw [step_find h stored]

theorem event_step (tracked : Tracked i username token (w, b))
    (on : onApplication i username token e.action = true) (h : w.step e.action = some w') :
    EventStep i username w b e w' (Book.observe w e b) := by
  obtain ⟨r, stored, user, tok⟩ := tracked.row
  have address := address_after h stored
  have before : w.addressOf i = r.address := by simp [World.addressOf, stored]
  obtain ⟨action, driver⟩ := e
  cases action with
  | check a => simp [onApplication] at on
  | proxy a => simp [onApplication] at on
  | restart => simp [onApplication] at on
  | routes a =>
    obtain ⟨outcome, run, rfl⟩ := Option.map_eq_some_iff.mp h
    have issued : w.statement (.routes a) = outcome.statement := by simp [World.statement, run]
    rw [issued] at address
    have silent : outcome.statement = none →
        World.addressOf { w with
          db := w.db.execOption outcome.statement, routes := outcome.routes
          proxy := World.invalidate w.proxy outcome.invalidate
          issued := (Action.newToken (.routes a)).toList ++ w.issued } i = w.addressOf i := by
      intro none
      rw [before, address, none]
      rfl
    cases routes_step run with
    | registered token' newAddress applicationId ok =>
      obtain rfl := of_decide_eq_true on
      cases ok with
      | false => exact .quiet ⟨rfl, rfl, rfl⟩ (silent rfl) rfl
      | true =>
        have answer := callback_answered newAddress applicationId (Table.find_some stored).1 tok
        have observed : Book.observe w
            ⟨.routes (.appCallback token' newAddress applicationId true), driver⟩ b =
            { b with acknowledged := ⟨driver, newAddress⟩ :: b.acknowledged } := by
          simp [Book.observe, answer]
        rw [observed]
        refine .registered token' newAddress applicationId rfl ?_ rfl
        rw [address]
        simp [Statement.row, Statement.filter, Statement.set, tok]
    | deregistered token' sender phase =>
      obtain rfl := of_decide_eq_true on
      refine .deregistered token' sender rfl ?_ rfl
      rw [address]
      simp [Statement.row, Statement.filter, Statement.set, tok]
    | deregisterRefused token' sender => exact .refused token' sender rfl (silent rfl) rfl
    | read appId user' ok =>
      simp only [onApplication, Bool.and_eq_true, decide_eq_true_eq] at on
      obtain ⟨rfl, rfl⟩ := on
      refine .read ok rfl (silent rfl) _ ?_ rfl
      rw [before]
      exact after_read_spawned stored user
    | marked m appId user' read token' there =>
      obtain ⟨rfl, rfl, _⟩ := tracked.calls m _ there
      refine .marked m read token' rfl there ?_ rfl
      rw [address]
      simp [Statement.row, Statement.filter, Statement.set, (Table.find_some stored).2, user]
    | updateRefused m =>
      refine .updateRefused m rfl ?_ (silent rfl) rfl
      simp only [Routes.step] at run
      split at run
      · rename_i appId user' read token' there
        exact ⟨appId, user', read, token', there⟩
      · cases run
    | stopped m delivered read token' there =>
      cases delivered with
      | true => exact .stopped m read token' rfl there (silent rfl) rfl
      | false => exact .givenUp m _ rfl ⟨rfl, rfl⟩ rfl (silent rfl) rfl
    | dropped m => exact .givenUp m _ rfl ⟨rfl, rfl⟩ rfl (silent rfl) rfl
    | invalidated m token' result there =>
      exact .invalidated m token' result rfl there (silent rfl) rfl
    | callbackInvalidated m token' there => exact .quiet ⟨rfl, rfl, rfl⟩ (silent rfl) rfl
    | callbackDropped m => exact .quiet ⟨rfl, rfl, rfl⟩ (silent rfl) rfl
    | _ => simp [onApplication] at on

theorem tracked_row_step (before : Tracked i username token (w, b))
    (on : onApplication i username token e.action = true) (h : w.step e.action = some w') :
    (∃ r, w'.db.find i = some r ∧ r.username = username ∧ r.token = token) ∧
      ∀ r ∈ w'.db.rows, r.token = token → r.id = i := by
  constructor
  · obtain ⟨r, stored, user, tok⟩ := before.row
    have found := step_find h stored
    cases issued : w.statement e.action with
    | none =>
      rw [issued] at found
      exact ⟨r, found, user, tok⟩
    | some st =>
      rw [issued] at found
      cases next : st.row r with
      | none =>
        obtain ⟨cutoff, rfl⟩ := Statement.row_none next
        have pruned := statement_prune issued
        rw [pruned] at on
        simp [onApplication] at on
      | some r' =>
        obtain ⟨sameUser, sameToken⟩ := Statement.row_owner next
        exact ⟨r', found.trans next, sameUser.trans user, sameToken.trans tok⟩
  · intro r' member tok
    rcases step_rows h member with ⟨_, old⟩ | ⟨st, issued, ⟨r, stored, next⟩ | new⟩
    · exact before.alone r' old tok
    · have same := Statement.row_owner next
      rw [Statement.row_id next]
      exact before.alone r stored (same.2.symm.trans tok)
    · obtain ⟨_, _, _, _, rfl, rfl⟩ := new
      have insert := statement_insert issued
      rw [insert] at on
      simp [onApplication] at on

end

/- The calls are followed through every event. -/

theorem head_holder {b : Book} {g : Registration} (first : b.acknowledged.head? = some g) :
    b.holder g.address = some g.driver ∧ b.last = some g.driver := by
  obtain ⟨rest, whole⟩ := List.head?_eq_some_iff.mp first
  simp [Book.holder, Book.last, whole]

theorem followed_set {i : Int} {username : String} {deletes : List DeleteApp}
    {calls calls' : Nat → DeleteCall} {m : Nat} {new : DeleteApp}
    (kept : ∀ n phase, deletes[n]? = some phase → Followed i username phase (calls n))
    (others : ∀ n, n ≠ m → calls' n = calls n) (changed : Followed i username new (calls' m)) :
    ∀ n phase, (deletes.set m new)[n]? = some phase → Followed i username phase (calls' n) := by
  intro n phase there
  rcases Tasks.at_changed there with ⟨rfl, rfl⟩ | ⟨other, old⟩
  · exact changed
  · rw [others n other]
    exact kept n phase old

theorem unsuccessful_followed {i : Int} {username : String} {phase : DeleteApp}
    (failed : phase.unsuccessful = true) (call : DeleteCall) : Followed i username phase call := by
  cases phase with
  | read => simp [DeleteApp.unsuccessful] at failed
  | marked => simp [DeleteApp.unsuccessful] at failed
  | _ => trivial

section
variable {i : Int} {username token : String} {s s' : World × Book} {e : AppEvent}

theorem tracked_step (before : Tracked i username token s)
    (on : onApplication i username token e.action = true) (h : bookedStep s e = some s') :
    Tracked i username token s' := by
  obtain ⟨w, b⟩ := s
  obtain ⟨w', b'⟩ := s'
  obtain ⟨step, rfl⟩ := with_history_step.mp h
  obtain ⟨row, alone⟩ := tracked_row_step before on step
  have event := event_step before on step
  generalize Book.observe w e b = b' at event
  have calls := before.calls
  refine ⟨row, alone, ?_, ?_⟩
  · intro address stored
    cases event with
    | registered _ newAddress _ _ there _ =>
      cases there.symm.trans stored
      exact ⟨_, rfl, rfl⟩
    | deregistered _ _ _ there _ =>
      cases there.symm.trans stored
    | marked _ _ _ _ _ there _ =>
      cases there.symm.trans stored
    | refused _ _ _ there _ => exact before.last address (there.symm.trans stored)
    | read _ _ there _ _ _ => exact before.last address (there.symm.trans stored)
    | stopped _ _ _ _ _ there _ => exact before.last address (there.symm.trans stored)
    | givenUp _ _ _ _ _ there _ => exact before.last address (there.symm.trans stored)
    | updateRefused _ _ _ there _ => exact before.last address (there.symm.trans stored)
    | invalidated _ _ _ _ _ there _ => exact before.last address (there.symm.trans stored)
    | quiet _ there _ => exact before.last address (there.symm.trans stored)
  · cases event with
    | registered _ _ _ _ _ deletes => exact deletes ▸ calls
    | deregistered _ _ _ _ deletes => exact deletes ▸ calls
    | refused _ _ _ _ deletes => exact deletes ▸ calls
    | quiet _ _ deletes => exact deletes ▸ calls
    | read _ _ _ phase spawned deletes =>
      intro n phase' there
      rw [deletes] at there
      rcases Tasks.at_spawned there with ⟨rfl, rfl⟩ | old
      · simp only [Book.setCall, Function.update_self]
        rcases spawned with ⟨token', rfl⟩ | failed
        · refine ⟨rfl, rfl, ?_⟩
          cases stored : w.addressOf i with
          | none => rfl
          | some address =>
            obtain ⟨g, first, rfl⟩ := before.last address stored
            simp [DeleteApp.address, (head_holder first).1]
        · exact unsuccessful_followed failed _
      · have bound := (List.getElem?_eq_some_iff.mp old).1
        have other : n ≠ w.routes.deletes.length := by omega
        simp only [Book.setCall, Function.update_of_ne other]
        exact calls n phase' old
    | marked n address _ _ at_n _ deletes =>
      rw [deletes]
      apply followed_set calls
      · intro k other
        exact Function.update_of_ne other _ _
      · simp only [Book.setCall, Function.update_self]
        have found := (calls n _ at_n).2.2
        cases address with
        | none => trivial
        | some address => exact found
    | stopped n _ _ _ _ _ deletes =>
      rw [deletes]
      exact followed_set calls (fun _ _ => rfl) trivial
    | givenUp n phase _ _ failed _ deletes =>
      rw [deletes]
      exact followed_set calls (fun _ _ => rfl) (unsuccessful_followed failed _)
    | updateRefused n _ _ _ deletes =>
      rw [deletes]
      exact followed_set calls (fun _ _ => rfl) trivial
    | invalidated n _ result _ _ _ deletes =>
      rw [deletes]
      exact followed_set calls (fun _ _ => rfl) trivial

end

/- A successful delete has stopped the driver that had registered last. -/

def StopsDriver (ended : List Nat) : DeleteApp → DeleteCall → Prop
  | .marked .., call => ∀ driver ∈ call.driver, call.found = some driver ∨ driver ∈ ended
  | .stopped _ (.ok ()), call => ∀ driver ∈ call.driver, driver ∈ ended
  | .answered (.ok ()), call => ∀ driver ∈ call.driver, driver ∈ ended
  | _, _ => True

def Stopping (s : World × Book) : Prop :=
  ∀ n phase, s.1.routes.deletes[n]? = some phase → StopsDriver s.2.ended phase (s.2.calls n)

theorem stops_more {ended ended' : List Nat} {phase : DeleteApp} {call : DeleteCall}
    (h : StopsDriver ended phase call) (more : ∀ driver ∈ ended, driver ∈ ended') :
    StopsDriver ended' phase call := by
  unfold StopsDriver at h ⊢
  split <;> grind

theorem unsuccessful_stops {ended : List Nat} {phase : DeleteApp}
    (failed : phase.unsuccessful = true) (call : DeleteCall) : StopsDriver ended phase call := by
  unfold DeleteApp.unsuccessful at failed
  split at failed
  · trivial
  · trivial
  · trivial
  · cases failed

theorem stops_set {s s' : World × Book} {m : Nat} {new : DeleteApp} (before : Stopping s)
    (deletes : s'.1.routes.deletes = s.1.routes.deletes.set m new)
    (others : ∀ n, n ≠ m → s'.2.calls n = s.2.calls n)
    (more : ∀ driver ∈ s.2.ended, driver ∈ s'.2.ended)
    (changed : StopsDriver s'.2.ended new (s'.2.calls m)) : Stopping s' := by
  intro n phase there
  rw [deletes] at there
  rcases Tasks.at_changed there with ⟨rfl, rfl⟩ | ⟨other, old⟩
  · exact changed
  · rw [others n other]
    exact stops_more (before n phase old) more

theorem stops_same {s s' : World × Book} (before : Stopping s)
    (deletes : s'.1.routes.deletes = s.1.routes.deletes) (calls : s'.2.calls = s.2.calls)
    (more : ∀ driver ∈ s.2.ended, driver ∈ s'.2.ended) : Stopping s' := by
  intro n phase there
  rw [deletes] at there
  rw [calls]
  exact stops_more (before n phase there) more

section
variable {i : Int} {username token : String} {s s' : World × Book} {e : AppEvent}

theorem stopping_step (tracked : Tracked i username token s) (before : Stopping s)
    (on : onApplication i username token e.action = true) (reads : ReadsLast s e)
    (h : bookedStep s e = some s') : Stopping s' := by
  obtain ⟨w, b⟩ := s
  obtain ⟨w', b'⟩ := s'
  obtain ⟨step, rfl⟩ := with_history_step.mp h
  have event := event_step tracked on step
  generalize Book.observe w e b = b' at event
  cases event with
  | registered _ _ _ _ _ deletes => exact stops_same before deletes rfl fun _ member => member
  | deregistered _ _ _ _ deletes =>
    exact stops_same before deletes rfl fun _ member => List.mem_cons_of_mem _ member
  | refused _ _ _ _ deletes =>
    exact stops_same before deletes rfl fun _ member => List.mem_cons_of_mem _ member
  | quiet _ _ deletes => exact stops_same before deletes rfl fun _ member => member
  | read _ _ _ phase spawned deletes =>
    intro n phase' there
    simp only [deletes] at there
    rcases Tasks.at_spawned there with ⟨rfl, rfl⟩ | old
    · rcases spawned with ⟨token', rfl⟩ | failed
      · trivial
      · exact unsuccessful_stops failed _
    · have bound := (List.getElem?_eq_some_iff.mp old).1
      have other : n ≠ w.routes.deletes.length := by omega
      simp only [Book.setCall, Function.update_of_ne other]
      exact before n phase' old
  | marked n address _ action at_n _ deletes =>
    refine stops_set before deletes (fun k other => Function.update_of_ne other _ _)
      (fun _ member => member) ?_
    simp only [Book.setCall, Function.update_self]
    have last : ∀ driver ∈ b.last, (b.calls n).found = some driver ∨ driver ∈ b.ended :=
      reads n (by simp [action, Action.marks])
    cases address with
    | none =>
      have nothing : (b.calls n).found = none := by
        have found := (tracked.calls n _ at_n).2.2
        simpa using found
      intro driver registered
      exact (last driver registered).resolve_left (by simp [nothing])
    | some address => exact last
  | stopped n address _ _ at_n _ deletes =>
    refine stops_set before deletes (fun _ _ => rfl)
      (fun _ member => List.mem_append_right _ member) ?_
    intro driver registered
    rcases before n _ at_n driver registered with found | ended
    · have found : (b.calls n).found = some driver := found
      simp [found]
    · exact List.mem_append_right _ ended
  | givenUp n phase _ _ failed _ deletes =>
    exact stops_set before deletes (fun _ _ => rfl) (fun _ member => member)
      (unsuccessful_stops failed _)
  | updateRefused n _ _ _ deletes =>
    exact stops_set before deletes (fun _ _ => rfl) (fun _ member => member) trivial
  | invalidated n _ result _ at_n _ deletes =>
    refine stops_set before deletes (fun _ _ => rfl) (fun _ member => member) ?_
    have stopped := before n _ at_n
    cases result with
    | error => trivial
    | ok => exact stopped

end

/- A step keeps the addresses exactly if it spares the drivers that run. -/

theorem mem_running {b : Book} {driver : Nat} :
    driver ∈ b.running ↔ (∃ g ∈ b.acknowledged, g.driver = driver) ∧ driver ∉ b.ended := by
  simp [Book.running]

section
variable {i : Int} {s s' : World × Book} {e : AppEvent} {n driver : Nat}

theorem in_row_same (row : s'.1.addressOf i = s.1.addressOf i)
    (acknowledged : s'.2.acknowledged = s.2.acknowledged) :
    InRow i s' driver ↔ InRow i s driver := by
  have holder : s'.2.holder = s.2.holder := by
    funext address
    simp [Book.holder, acknowledged]
  unfold InRow
  rw [row, holder]

theorem pending_same (deletes : s'.1.routes.deletes = s.1.routes.deletes)
    (calls : s'.2.calls = s.2.calls) :
    PendingBeside s' none driver ↔ PendingBeside s none driver := by
  unfold PendingBeside PendingAt
  rw [deletes, calls]

/-- A call that sends no stop message is as good as none. -/
theorem pending_others {phase : DeleteApp} (at_n : s.1.routes.deletes[n]? = some phase)
    (still : phase.stopping = false) :
    PendingBeside s (some n) driver ↔ PendingBeside s none driver := by
  constructor
  · rintro ⟨m, bound, _, pending⟩
    exact ⟨m, bound, by simp, pending⟩
  · rintro ⟨m, bound, _, pending⟩
    refine ⟨m, bound, ?_, pending⟩
    rintro same
    cases same
    have stopping := pending.1
    simp [at_n, still] at stopping

theorem pending_cleared {phase : DeleteApp} (still : phase.stopping = false)
    (deletes : s'.1.routes.deletes = s.1.routes.deletes.set n phase)
    (others : ∀ m, m ≠ n → s'.2.calls m = s.2.calls m) :
    PendingBeside s' none driver ↔ PendingBeside s (some n) driver := by
  unfold PendingBeside PendingAt
  rw [deletes, List.length_set]
  constructor
  · rintro ⟨m, bound, _, stopping, found⟩
    have other : m ≠ n := by
      rintro rfl
      simp [bound, still] at stopping
    rw [List.getElem?_set_ne (Ne.symm other)] at stopping
    rw [others m other] at found
    exact ⟨m, bound, fun same => other (Option.some.inj same).symm, stopping, found⟩
  · rintro ⟨m, bound, different, stopping, found⟩
    have other : m ≠ n := fun same => different (same ▸ rfl)
    refine ⟨m, bound, by simp, ?_, ?_⟩
    · rw [List.getElem?_set_ne (Ne.symm other)]
      exact stopping
    · rw [others m other]
      exact found

theorem pending_begun {phase : DeleteApp} (begins : phase.stopping = true)
    (bound : n < s.1.routes.deletes.length)
    (deletes : s'.1.routes.deletes = s.1.routes.deletes.set n phase)
    (others : ∀ m, m ≠ n → s'.2.calls m = s.2.calls m) :
    PendingBeside s' none driver ↔
      (s'.2.calls n).found = some driver ∨ PendingBeside s (some n) driver := by
  unfold PendingBeside PendingAt
  rw [deletes, List.length_set]
  constructor
  · rintro ⟨m, below, _, stopping, found⟩
    by_cases same : m = n
    · subst same
      exact Or.inl found
    · rw [List.getElem?_set_ne (Ne.symm same)] at stopping
      rw [others m same] at found
      exact Or.inr ⟨m, below, fun eq => same (Option.some.inj eq).symm, stopping, found⟩
  · rintro (found | ⟨m, below, different, stopping, found⟩)
    · refine ⟨n, bound, by simp, ?_, found⟩
      rw [List.getElem?_set_self bound]
      exact begins
    · have other : m ≠ n := fun same => different (same ▸ rfl)
      refine ⟨m, below, by simp, ?_, ?_⟩
      · rw [List.getElem?_set_ne (Ne.symm other)]
        exact stopping
      · rw [others m other]
        exact found

/- What the condition says of each kind of action. -/

theorem spares_callback (calls : e.action.callsBack = true) : Spares i s e ↔
    ∀ driver ∈ s.2.running, driver = e.driver ∨ PendingBeside s none driver := by
  have silent : e.action.marks = none ∧ e.action.givesUp = none := by
    unfold Action.callsBack at calls
    split at calls <;> simp_all [Action.marks, Action.givesUp]
  constructor
  · intro spares driver runs
    exact (spares driver runs).callback calls
  · intro all driver runs
    exact ⟨fun _ => all driver runs, by simp [silent.1], by simp [silent.2]⟩

theorem spares_update (marks : e.action.marks = some n) : Spares i s e ↔
    ∀ driver ∈ s.2.running,
      (s.2.calls n).found = some driver ∨ PendingBeside s none driver := by
  have silent : e.action.callsBack = false ∧ e.action.givesUp = none := by
    unfold Action.marks at marks
    split at marks <;> simp_all [Action.callsBack, Action.givesUp]
  constructor
  · intro spares driver runs
    exact (spares driver runs).update n marks
  · intro all driver runs
    refine ⟨by simp [silent.1], ?_, by simp [silent.2]⟩
    rintro m same
    cases marks.symm.trans same
    exact all driver runs

theorem spares_stop (gives : e.action.givesUp = some n) : Spares i s e ↔
    ∀ driver ∈ s.2.running, InRow i s driver ∨ PendingBeside s (some n) driver := by
  have silent : e.action.callsBack = false ∧ e.action.marks = none := by
    unfold Action.givesUp at gives
    split at gives <;> simp_all [Action.callsBack, Action.marks]
  constructor
  · intro spares driver runs
    exact (spares driver runs).stop n gives
  · intro all driver runs
    refine ⟨by simp [silent.1], by simp [silent.2], ?_⟩
    rintro m same
    cases gives.symm.trans same
    exact all driver runs

theorem spares_others (marks : e.action.marks = none) (calls : e.action.callsBack = false)
    (gives : e.action.givesUp = none) : Spares i s e := by
  intro driver _
  exact ⟨by simp [calls], by simp [marks], by simp [gives]⟩

end

section
variable {i : Int} {s s' : World × Book} {n caller : Nat}

/-- A step that leaves the row and the stop messages to running drivers alone. -/
theorem kept_quietly (kept : AddressKept i s) (row : s'.1.addressOf i = s.1.addressOf i)
    (acknowledged : s'.2.acknowledged = s.2.acknowledged)
    (ended : ∀ driver ∈ s.2.ended, driver ∈ s'.2.ended)
    (pending : ∀ driver ∈ s'.2.running, PendingBeside s none driver →
      PendingBeside s' none driver) : AddressKept i s' := by
  intro driver runs
  obtain ⟨known, alive⟩ := mem_running.mp runs
  rw [acknowledged] at known
  have before := kept driver (mem_running.mpr ⟨known, fun old => alive (ended driver old)⟩)
  exact before.imp (in_row_same row acknowledged).mpr (pending driver runs)

theorem kept_registered {address : String} (row : s'.1.addressOf i = some address)
    (deletes : s'.1.routes.deletes = s.1.routes.deletes)
    (book : s'.2 = { s.2 with acknowledged := ⟨caller, address⟩ :: s.2.acknowledged }) :
    (∀ driver ∈ s.2.running, driver = caller ∨ PendingBeside s none driver) ↔
      AddressKept i s' := by
  have pending : ∀ driver, PendingBeside s' none driver ↔ PendingBeside s none driver :=
    fun driver => pending_same deletes (by rw [book])
  have mine : ∀ driver, InRow i s' driver ↔ caller = driver := by
    intro driver
    simp [InRow, row, Book.holder, book]
  have runs_iff : ∀ driver, driver ∈ s'.2.running ↔
      (caller = driver ∨ ∃ g ∈ s.2.acknowledged, g.driver = driver) ∧ driver ∉ s.2.ended := by
    intro driver
    simp [mem_running, book]
  constructor
  · intro spares driver runs
    obtain ⟨same | known, alive⟩ := (runs_iff driver).mp runs
    · exact Or.inl ((mine driver).mpr same)
    · rcases spares driver (mem_running.mpr ⟨known, alive⟩) with same | stop
      · exact Or.inl ((mine driver).mpr same.symm)
      · exact Or.inr ((pending driver).mpr stop)
  · intro after driver runs
    obtain ⟨known, alive⟩ := mem_running.mp runs
    rcases after driver ((runs_iff driver).mpr ⟨Or.inr known, alive⟩) with same | stop
    · exact Or.inl ((mine driver).mp same).symm
    · exact Or.inr ((pending driver).mp stop)

theorem kept_deregistered (row : s'.1.addressOf i = none)
    (deletes : s'.1.routes.deletes = s.1.routes.deletes)
    (book : s'.2 = { s.2 with ended := caller :: s.2.ended }) :
    (∀ driver ∈ s.2.running, driver = caller ∨ PendingBeside s none driver) ↔
      AddressKept i s' := by
  have pending : ∀ driver, PendingBeside s' none driver ↔ PendingBeside s none driver :=
    fun driver => pending_same deletes (by rw [book])
  have runs_iff : ∀ driver, driver ∈ s'.2.running ↔
      driver ∈ s.2.running ∧ driver ≠ caller := by
    intro driver
    simp only [mem_running, book, List.mem_cons, not_or]
    tauto
  have nothing : ∀ driver, ¬ InRow i s' driver := by
    intro driver
    simp [InRow, row]
  constructor
  · intro spares driver runs
    obtain ⟨before, other⟩ := (runs_iff driver).mp runs
    exact Or.inr ((pending driver).mpr ((spares driver before).resolve_left other))
  · intro after driver runs
    by_cases same : driver = caller
    · exact Or.inl same
    · have stop := (after driver ((runs_iff driver).mpr ⟨runs, same⟩)).resolve_left
        (nothing driver)
      exact Or.inr ((pending driver).mp stop)

theorem kept_marked {username token : String} {address : Option String}
    (at_n : s.1.routes.deletes[n]? = some (.read i username address token))
    (read : (s.2.calls n).found.isSome = address.isSome) (row : s'.1.addressOf i = none)
    (deletes : s'.1.routes.deletes = s.1.routes.deletes.set n (.afterUpdate address token))
    (book : s'.2 = s.2.setCall n { s.2.calls n with driver := s.2.last }) :
    (∀ driver ∈ s.2.running,
      (s.2.calls n).found = some driver ∨ PendingBeside s none driver) ↔ AddressKept i s' := by
  have others : ∀ m, m ≠ n → s'.2.calls m = s.2.calls m := by
    intro m other
    rw [book]
    exact Function.update_of_ne other _ _
  have found : (s'.2.calls n).found = (s.2.calls n).found := by simp [book, Book.setCall]
  have running : s'.2.running = s.2.running := by simp [book, Book.running, Book.setCall]
  have nothing : ∀ driver, ¬ InRow i s' driver := by
    intro driver
    simp [InRow, row]
  have pending : ∀ driver, PendingBeside s' none driver ↔
      (s.2.calls n).found = some driver ∨ PendingBeside s none driver := by
    intro driver
    rw [← pending_others at_n rfl, ← found]
    cases address with
    | some address =>
      exact pending_begun rfl (List.getElem?_eq_some_iff.mp at_n).1 deletes others
    | none =>
      have unread : (s'.2.calls n).found = none := by simpa [found] using read
      rw [pending_cleared rfl deletes others]
      simp [unread]
  constructor
  · intro spares driver runs
    exact Or.inr ((pending driver).mpr (spares driver (running ▸ runs)))
  · intro after driver runs
    exact (pending driver).mp ((after driver (running ▸ runs)).resolve_left (nothing driver))

theorem kept_given_up {phase : DeleteApp} (failed : phase.unsuccessful = true)
    (row : s'.1.addressOf i = s.1.addressOf i)
    (deletes : s'.1.routes.deletes = s.1.routes.deletes.set n phase) (book : s'.2 = s.2) :
    (∀ driver ∈ s.2.running, InRow i s driver ∨ PendingBeside s (some n) driver) ↔
      AddressKept i s' := by
  have still : phase.stopping = false := by
    cases phase <;> simp_all [DeleteApp.unsuccessful, DeleteApp.stopping]
  have pending : ∀ driver, PendingBeside s' none driver ↔ PendingBeside s (some n) driver :=
    fun driver => pending_cleared still deletes fun m _ => by rw [book]
  have same : ∀ driver, InRow i s' driver ↔ InRow i s driver :=
    fun driver => in_row_same row (by rw [book])
  constructor
  · intro spares driver runs
    exact (spares driver (book ▸ runs)).imp (same driver).mpr (pending driver).mpr
  · intro after driver runs
    exact (after driver (book ▸ runs)).imp (same driver).mp (pending driver).mp

end

/-- From a state in which all addresses are kept. -/
theorem kept_iff_step {i : Int} {username token : String} {s s' : World × Book} {e : AppEvent}
    (tracked : Tracked i username token s) (kept : AddressKept i s)
    (on : onApplication i username token e.action = true) (h : bookedStep s e = some s') :
    Spares i s e ↔ AddressKept i s' := by
  obtain ⟨step, book⟩ := with_history_step.mp h
  have event := event_step tracked on step
  rw [← book] at event
  generalize made : s'.2 = b' at event
  have quiet : e.action.marks = none → e.action.callsBack = false → e.action.givesUp = none →
      AddressKept i s' → (Spares i s e ↔ AddressKept i s') :=
    fun marks calls gives after => iff_of_true (spares_others marks calls gives) after
  cases event with
  | registered _ address _ action row deletes =>
    rw [spares_callback (by rw [action]; rfl)]
    exact kept_registered row deletes made
  | deregistered _ _ action row deletes =>
    rw [spares_callback (by rw [action]; rfl)]
    exact kept_deregistered row deletes made
  | refused _ _ action row deletes =>
    refine quiet (by rw [action]; rfl) (by rw [action]; rfl) (by rw [action]; rfl) ?_
    refine kept_quietly kept row (by rw [made]) ?_ fun _ _ => ?_
    · rw [made]
      exact fun _ old => List.mem_cons_of_mem _ old
    · exact (pending_same deletes (by rw [made])).mpr
  | read _ action row phase spawned deletes =>
    refine quiet (by rw [action]; rfl) (by rw [action]; rfl) (by rw [action]; rfl) ?_
    refine kept_quietly kept row (by rw [made]; rfl) (by rw [made]; exact fun _ old => old) ?_
    rintro driver _ ⟨m, bound, different, stopping, found⟩
    have other : m ≠ s.1.routes.deletes.length := Nat.ne_of_lt bound
    refine ⟨m, ?_, different, ?_, ?_⟩
    · rw [deletes, List.length_append]
      omega
    · rw [deletes, List.getElem?_append_left bound]
      exact stopping
    · simp only [made, Book.setCall, Function.update_of_ne other]
      exact found
  | marked n address _ action at_n row deletes =>
    rw [spares_update (by rw [action]; rfl)]
    exact kept_marked at_n (tracked.calls n _ at_n).2.2 row deletes made
  | stopped n _ _ action at_n row deletes =>
    refine quiet (by rw [action]; rfl) (by rw [action]; rfl) (by rw [action]; rfl) ?_
    refine kept_quietly kept row (by rw [made]) ?_ ?_
    · rw [made]
      exact fun _ old => List.mem_append_right _ old
    · rintro driver runs ⟨m, bound, _, stopping, found⟩
      have alive := (mem_running.mp runs).2
      rw [made] at alive
      refine (pending_cleared rfl deletes fun _ _ => by rw [made]).mpr
        ⟨m, bound, ?_, stopping, found⟩
      rintro same
      cases same
      exact alive (by simp [found])
  | givenUp n phase action _ failed row deletes =>
    rw [spares_stop action]
    exact kept_given_up failed row deletes made
  | updateRefused n action at_n row deletes =>
    obtain ⟨_, _, _, _, there⟩ := at_n
    refine quiet (by rw [action]; rfl) (by rw [action]; rfl) (by rw [action]; rfl) ?_
    refine kept_quietly kept row (by rw [made]) (by rw [made]; exact fun _ old => old) ?_
    intro driver _ stop
    exact (pending_cleared rfl deletes fun _ _ => by rw [made]).mpr
      ((pending_others there rfl).mpr stop)
  | invalidated n _ result action at_n row deletes =>
    refine quiet (by rw [action]; rfl) (by rw [action]; rfl) (by rw [action]; rfl) ?_
    refine kept_quietly kept row (by rw [made]) (by rw [made]; exact fun _ old => old) ?_
    intro driver _ stop
    exact (pending_cleared rfl deletes fun _ _ => by rw [made]).mpr
      ((pending_others at_n rfl).mpr stop)
  | quiet silent row deletes =>
    refine quiet silent.1 silent.2.1 silent.2.2 ?_
    refine kept_quietly kept row (by rw [made]) (by rw [made]; exact fun _ old => old) ?_
    exact fun _ _ => (pending_same deletes (by rw [made])).mpr

/-- The condition on the updates is needed: from a delete that is about to mark the row of a
driver whose address it has not read, the call goes on to succeed while that driver runs. -/
theorem unread_driver_survives {i : Int} {username token : String} {s : World × Book} {n : Nat}
    {appId : Int} {user tok : String} {address : Option String}
    (tracked : Tracked i username token s)
    (phase : s.1.routes.deletes[n]? = some (.read appId user address tok))
    (unread : ¬ ReadsLast s ⟨.routes (.deleteUpdate n true), 0⟩) :
    ∃ es w b, exec bookedStep s es = some (w, b) ∧
      w.routes.deletes[n]? = some (.answered (.ok ())) ∧
      ∃ driver, (b.calls n).driver = some driver ∧ driver ∉ b.ended := by
  obtain ⟨w, b⟩ := s
  have read := (tracked.calls n _ phase).2.2
  obtain ⟨bound, at_n⟩ := List.getElem?_eq_some_iff.mp phase
  simp only at bound at_n
  simp only [ReadsLast, Action.marks, Option.mem_def, Option.some.injEq, forall_eq', not_forall,
    not_or] at unread
  obtain ⟨driver, registered, notRead, running⟩ := unread
  cases address with
  | none =>
    refine ⟨[⟨.routes (.deleteUpdate n true), 0⟩, ⟨.routes (.deleteInvalidate n), 0⟩], ?_⟩
    simp [exec, withHistory, World.step, Routes.step, at_n, bound, DeleteApp.afterUpdate,
      Book.observe, Book.setCall, registered, running]
  | some address =>
    obtain ⟨other, found⟩ := Option.isSome_iff_exists.mp read
    have different : driver ≠ other := by
      rintro rfl
      exact notRead found
    refine ⟨[⟨.routes (.deleteUpdate n true), 0⟩, ⟨.routes (.deleteStop n true), 0⟩,
      ⟨.routes (.deleteInvalidate n), 0⟩], ?_⟩
    have found : (b.calls n).found = some other := found
    simp [exec, withHistory, World.step, Routes.step, at_n, bound, DeleteApp.afterUpdate,
      DeleteApp.stopResult, Book.observe, Book.setCall, registered, running, found, different]

theorem launched_tracked {i : Int} {username token : String} {w : World}
    (launched : Launched i username token w) : Tracked i username token (w, {}) := by
  obtain ⟨r, stored, user, tok, unregistered⟩ := launched.row
  refine ⟨⟨r, stored, user, tok⟩, launched.alone, ?_, ?_⟩
  · intro address there
    simp [World.addressOf, stored, unregistered] at there
  · intro n phase there
    simp [launched.deletes] at there

/-- When every delete marks a row whose last registered driver is the one that it has read, or
has ended, then a successful delete has stopped that driver. No driver is ever left running
with its address dropped exactly if every step spares the drivers that run. -/
theorem successful_delete_stops {i : Int} {username token : String} {w w' : World} {b : Book}
    {es : List AppEvent} (launched : Launched i username token w)
    (on : ∀ e ∈ es, onApplication i username token e.action = true)
    (run : exec bookedStep (w, {}) es = some (w', b)) :
    (Along bookedStep ReadsLast (w, {}) es →
      ∀ n, w'.routes.deletes[n]? = some (.answered (.ok ())) →
        ∀ driver, (b.calls n).driver = some driver → driver ∈ b.ended) ∧
    (Along bookedStep (Spares i) (w, {}) es ↔ ∀ before after s, es = before ++ after →
      exec bookedStep (w, {}) before = some s → AddressKept i s) := by
  have mine : Along bookedStep (fun _ e => onApplication i username token e.action = true)
      (w, {}) es := along_of_mem on
  have tracked := launched_tracked launched
  constructor
  · intro reads n answered
    have pres : Preserves bookedStep
        (fun s e => onApplication i username token e.action = true ∧ ReadsLast s e)
        (fun s => Tracked i username token s ∧ Stopping s) := by
      intro s e s' before ok h
      exact ⟨tracked_step before.1 ok.1 h, stopping_step before.1 before.2 ok.1 ok.2 h⟩
    have start : Stopping (w, {}) := by
      intro n phase there
      simp [launched.deletes] at there
    exact (invariant_run pres ⟨tracked, start⟩ (along_and mine reads) run).2 n _ answered
  · refine along_iff_throughout (fun s e s' before ok h => tracked_step before ok h)
      (fun s e s' before kept ok h => kept_iff_step before kept ok h) tracked ?_ mine run
    intro driver runs
    cases runs

def launchedWorld : World := .start (Db.new.exec (.createInsert "alice" none "token-a" 0))

theorem launched_world : Launched 1 "alice" "token-a" launchedWorld := by
  refine ⟨⟨_, rfl, rfl, rfl, rfl⟩, ?_, rfl⟩
  decide

/-- A driver registers at this address. -/
def registersAt (driver : Nat) : AppEvent :=
  { action := .routes (.appCallback "token-a" "10.0.0.1:15002" "app-1" true), driver }

/-- One delete call, with the outcome of its stop message. -/
def deleteEvents (n : Nat) (delivered : Bool) : List AppEvent :=
  [{ action := .routes (.deleteRead 1 "alice" true) },
   { action := .routes (.deleteUpdate n true) },
   { action := .routes (.deleteStop n delivered) },
   { action := .routes (.deleteInvalidate n) }]

/-- A delete call that reads no address. -/
def blindDelete (n : Nat) : List AppEvent :=
  [{ action := .routes (.deleteRead 1 "alice" true) },
   { action := .routes (.deleteUpdate n true) },
   { action := .routes (.deleteInvalidate n) }]

/-- The first driver is stopped. A second one takes its address and leaves by itself before the
application is deleted again. -/
def reusedAddress : List AppEvent :=
  registersAt 1 :: deleteEvents 0 true ++
    [registersAt 2, { action := .routes (.appCallbackDelete "token-a" "" true), driver := 2 }] ++
    blindDelete 1

theorem both_drivers_ended : ∃ w b,
    exec bookedStep (launchedWorld, {}) reusedAddress = some (w, b) ∧
    w.routes.deletes = [.answered (.ok ()), .answered (.ok ())] ∧
    (b.calls 0).driver = some 1 ∧ 1 ∈ b.ended ∧ (b.calls 1).driver = some 2 ∧ 2 ∈ b.ended ∧
    AddressKept 1 (w, b) := by
  have computed : (exec bookedStep (launchedWorld, {}) reusedAddress).any (fun s =>
      s.1.routes.deletes = [.answered (.ok ()), .answered (.ok ())] &&
      (s.2.calls 0).driver = some 1 && (s.2.calls 1).driver = some 2) = true := by decide
  obtain ⟨⟨w, b⟩, run, facts⟩ := computed_run computed
  simp only [Bool.and_eq_true, decide_eq_true_eq] at facts
  obtain ⟨⟨answers, first⟩, second⟩ := facts
  have stops := successful_delete_stops launched_world (by decide) run
  have ended := stops.1 (by decide)
  have kept := stops.2.mp (by decide) reusedAddress [] (w, b) (List.append_nil _).symm run
  exact ⟨w, b, run, answers, first, ended 0 (by simp [answers]) 1 first, second,
    ended 1 (by simp [answers]) 2 second, kept⟩

/-- The stop message fails and the retry finds no address: it succeeds, and nothing has stopped
the driver, whose address is gone since the first call. -/
theorem retried_delete_orphans : ∃ w b w' b',
    (∀ e ∈ registersAt 1 :: deleteEvents 0 false ++ blindDelete 1,
      onApplication 1 "alice" "token-a" e.action = true) ∧
    exec bookedStep (launchedWorld, {}) (registersAt 1 :: deleteEvents 0 false) = some (w, b) ∧
    ¬ AddressKept 1 (w, b) ∧
    exec bookedStep (w, b) (blindDelete 1) = some (w', b') ∧
    w'.routes.deletes[1]? = some (.answered (.ok ())) ∧
    (b'.calls 1).driver = some 1 ∧ 1 ∉ b'.ended := by
  have computed : (exec bookedStep (launchedWorld, {}) (registersAt 1 :: deleteEvents 0 false)).any
      (fun s => 1 ∈ s.2.running && !decide (InRow 1 s 1 ∨ PendingBeside s none 1) &&
        (exec bookedStep s (blindDelete 1)).any fun s' =>
          s'.1.routes.deletes[1]? = some (.answered (.ok ())) &&
          (s'.2.calls 1).driver = some 1 && decide (1 ∉ s'.2.ended)) = true := by decide
  obtain ⟨⟨w, b⟩, run, facts⟩ := computed_run computed
  rw [Bool.and_eq_true, Bool.and_eq_true] at facts
  obtain ⟨⟨running, dropped⟩, later⟩ := facts
  obtain ⟨⟨w', b'⟩, again, facts⟩ := (Option.any_eq_true _ _).mp later
  simp only [Bool.and_eq_true, decide_eq_true_eq] at facts running
  have lost : ¬ AddressKept 1 (w, b) := by
    intro kept
    simp [kept 1 running] at dropped
  exact ⟨w, b, w', b', by decide, run, lost, again, facts.1.1, facts.1.2, facts.2⟩

end SparkPlug
