import Mathlib.Algebra.Group.Int.Defs
import Mathlib.Algebra.Group.Nat.Defs
import SparkPlug.World
import SparkPlug.Library.Calendar

/-!
`Server::prune` from the threshold of the command line to the deleted rows. The
threshold is cast to i64, so that one from 2^63 seconds on counts as negative.
-/
namespace SparkPlug
open Calendar

/-- `as i64`, which wraps around. -/
def asI64 (x : UInt64) : Int := x.toInt64.toInt

/-- `i64::saturating_sub`. -/
def saturatingSub (a b : Int) : Int := max (-2 ^ 63) (min (2 ^ 63 - 1) (a - b))

/-- The first and the last second of a DateTimeUtc. -/
def MIN_TIMESTAMP : Int := -8334601228800
def MAX_TIMESTAMP : Int := 8210266876799

def InRange (seconds : Int) : Prop := MIN_TIMESTAMP ≤ seconds ∧ seconds ≤ MAX_TIMESTAMP

instance (seconds : Int) : Decidable (InRange seconds) :=
  inferInstanceAs (Decidable (MIN_TIMESTAMP ≤ seconds ∧ seconds ≤ MAX_TIMESTAMP))

/-- `DateTimeUtc::from_timestamp` with no nanoseconds. -/
def fromTimestamp (seconds : Int) : Option DateTimeUtc :=
  if InRange seconds then some (seconds * 1000000000) else none

def pruneCutoff (now olderThanSeconds : UInt64) : Option DateTimeUtc :=
  fromTimestamp (saturatingSub (asI64 now) (asI64 olderThanSeconds))

inductive PruneError where
  | cutoff
  | database
  deriving DecidableEq

/-- The result of a prune with the number of deleted rows, and the table after it. -/
def prune (db : Db) (now olderThanSeconds : UInt64) (stored : Bool) :
    Except PruneError Nat × Db :=
  match pruneCutoff now olderThanSeconds with
  | none => (.error .cutoff, db)
  | some cutoff =>
    if stored then (.ok (db.rowsAffected (.prune cutoff)), db.exec (.prune cutoff))
    else (.error .database, db)

def State.terminal : State → Bool
  | .failed | .finished => true
  | .launching | .running => false

/-- A failed or finished row that is at least as old as the threshold says. -/
def Expired (now olderThanSeconds : UInt64) (r : Model) : Prop :=
  r.state.terminal = true ∧
    (olderThanSeconds.toNat : Int) * 1000000000 + r.createdAt ≤ (now.toNat : Int) * 1000000000

instance (now olderThanSeconds : UInt64) (r : Model) : Decidable (Expired now olderThanSeconds r) :=
  inferInstanceAs (Decidable (r.state.terminal = true ∧
    (olderThanSeconds.toNat : Int) * 1000000000 + r.createdAt ≤ (now.toNat : Int) * 1000000000))

/-- A prune fails and changes nothing, or deletes the expired rows and no other. -/
def PrunesExpired (db : Db) (now olderThanSeconds : UInt64) : Except PruneError Nat × Db → Prop
  | (.error _, after) => after = db
  | (.ok _, after) => after.rows = db.rows.filter fun r => !Expired now olderThanSeconds r

/-- The cutoff that the threshold means, and the one that is computed, in seconds. -/
def meantCutoff (now olderThanSeconds : UInt64) : Int := now.toNat - olderThanSeconds.toNat

def castCutoff (now olderThanSeconds : UInt64) : Int := asI64 now - asI64 olderThanSeconds

/-- The cutoff is 2^64 seconds off where only one of the two is from 2^63 on: late for such a
threshold, and early for such a time. -/
def wrappedCutoff (now olderThanSeconds : UInt64) : Int :=
  if now.toNat < 2 ^ 63 then now.toNat - olderThanSeconds.toNat + 2 ^ 64
  else now.toNat - olderThanSeconds.toNat - 2 ^ 64

/-- Neither or both are from 2^63 on, the cutoff that is off by 2^64 is out of range, or no
failed or finished row was created between it and the one that is meant. -/
def SparesCast (db : Db) (now olderThanSeconds : UInt64) : Prop :=
  (now.toNat < 2 ^ 63 ↔ olderThanSeconds.toNat < 2 ^ 63) ∨
    ¬ InRange (wrappedCutoff now olderThanSeconds) ∨
    ∀ r ∈ db.rows, r.state.terminal = true →
      (wrappedCutoff now olderThanSeconds * 1000000000 ≥ r.createdAt ↔
        meantCutoff now olderThanSeconds * 1000000000 ≥ r.createdAt)

instance (db : Db) (now olderThanSeconds : UInt64) :
    Decidable (SparesCast db now olderThanSeconds) :=
  inferInstanceAs (Decidable (
    (now.toNat < 2 ^ 63 ↔ olderThanSeconds.toNat < 2 ^ 63) ∨
      ¬ InRange (wrappedCutoff now olderThanSeconds) ∨
      ∀ r ∈ db.rows, r.state.terminal = true →
        (wrappedCutoff now olderThanSeconds * 1000000000 ≥ r.createdAt ↔
          meantCutoff now olderThanSeconds * 1000000000 ≥ r.createdAt)))

example : ofDays (MIN_TIMESTAMP / 86400) = ⟨-262143, 1, 1, by decide, by decide⟩ := by decide
example : ofDays (MAX_TIMESTAMP / 86400) = ⟨262142, 12, 31, by decide, by decide⟩ := by decide

theorem as_i64_eq (x : UInt64) :
    asI64 x = if x.toNat < 2 ^ 63 then (x.toNat : Int) else x.toNat - 2 ^ 64 := by
  have cast : asI64 x = x.toBitVec.toInt := rfl
  have number : x.toBitVec.toNat = x.toNat := rfl
  rw [cast, BitVec.toInt_eq_toNat_cond, number]
  by_cases small : x.toNat < 2 ^ 63
  · have double : 2 * x.toNat < 2 ^ 64 := by omega
    rw [if_pos double, if_pos small]
  · have double : ¬ 2 * x.toNat < 2 ^ 64 := by omega
    rw [if_neg double, if_neg small]
    rfl

/-- Where the subtraction saturates, the result is out of range. -/
theorem prune_cutoff_eq (now olderThanSeconds : UInt64) :
    pruneCutoff now olderThanSeconds = fromTimestamp (castCutoff now olderThanSeconds) := by
  unfold pruneCutoff castCutoff saturatingSub
  generalize asI64 now - asI64 olderThanSeconds = difference
  by_cases inside : InRange difference
  · have unsaturated : max (-2 ^ 63) (min (2 ^ 63 - 1) difference) = difference := by
      unfold InRange MIN_TIMESTAMP MAX_TIMESTAMP at inside
      omega
    rw [unsaturated]
  · have outside : ¬ InRange (max (-2 ^ 63) (min (2 ^ 63 - 1) difference)) := by
      unfold InRange MIN_TIMESTAMP MAX_TIMESTAMP at inside ⊢
      omega
    unfold fromTimestamp
    rw [if_neg inside, if_neg outside]

theorem casts_agree {now olderThanSeconds : UInt64}
    (h : now.toNat < 2 ^ 63 ↔ olderThanSeconds.toNat < 2 ^ 63) :
    castCutoff now olderThanSeconds = meantCutoff now olderThanSeconds := by
  unfold castCutoff meantCutoff
  rw [as_i64_eq, as_i64_eq]
  by_cases small : now.toNat < 2 ^ 63
  · rw [if_pos small, if_pos (h.mp small)]
  · have large : ¬ olderThanSeconds.toNat < 2 ^ 63 := fun older => small (h.mpr older)
    simp only [small, large, ↓reduceIte]
    omega

theorem casts_wrap {now olderThanSeconds : UInt64}
    (h : ¬ (now.toNat < 2 ^ 63 ↔ olderThanSeconds.toNat < 2 ^ 63)) :
    castCutoff now olderThanSeconds = wrappedCutoff now olderThanSeconds := by
  unfold castCutoff wrappedCutoff
  rw [as_i64_eq, as_i64_eq]
  by_cases small : now.toNat < 2 ^ 63
  · have large : ¬ olderThanSeconds.toNat < 2 ^ 63 := fun older => h (iff_of_true small older)
    simp only [small, large, ↓reduceIte]
    omega
  · have older : olderThanSeconds.toNat < 2 ^ 63 := by
      by_contra large
      exact h (iff_of_false small large)
    simp only [small, older, ↓reduceIte]
    omega

theorem expired_iff (now olderThanSeconds : UInt64) (r : Model) :
    Expired now olderThanSeconds r ↔ r.state.terminal = true ∧
      meantCutoff now olderThanSeconds * 1000000000 ≥ r.createdAt := by
  unfold Expired meantCutoff
  constructor
  · rintro ⟨terminal, old⟩
    exact ⟨terminal, by omega⟩
  · rintro ⟨terminal, old⟩
    exact ⟨terminal, by omega⟩

theorem prune_filter_iff (cutoff : Int) (r : Model) :
    (Statement.prune cutoff).filter r = true ↔ r.state.terminal = true ∧ cutoff ≥ r.createdAt := by
  cases state : r.state <;> simp [Statement.filter, State.terminal, state]

theorem filters_agree_iff {rows : List Model} {p q : Model → Bool} :
    (rows.filter fun r => !p r) = (rows.filter fun r => !q r) ↔ ∀ r ∈ rows, p r = q r := by
  constructor
  · intro same r member
    have kept : (r ∈ rows.filter fun r => !p r) ↔ r ∈ rows.filter fun r => !q r := by rw [same]
    simp only [List.mem_filter, member, true_and, Bool.not_eq_true'] at kept
    cases left : p r <;> cases right : q r <;> simp_all
  · intro agree
    exact List.filter_congr fun r member => by rw [agree r member]

section
variable {db : Db} {now olderThanSeconds : UInt64} {stored : Bool}

/-- The statement and the threshold select the same row. -/
theorem selects_expired_iff (r : Model) :
    (Statement.prune (castCutoff now olderThanSeconds * 1000000000)).filter r =
        decide (Expired now olderThanSeconds r) ↔
      (r.state.terminal = true →
        (castCutoff now olderThanSeconds * 1000000000 ≥ r.createdAt ↔
          meantCutoff now olderThanSeconds * 1000000000 ≥ r.createdAt)) := by
  rw [Bool.eq_iff_iff, prune_filter_iff, decide_eq_true_eq, expired_iff]
  constructor
  · intro same terminal
    simpa [terminal] using same
  · intro same
    constructor
    · rintro ⟨terminal, old⟩
      exact ⟨terminal, (same terminal).mp old⟩
    · rintro ⟨terminal, old⟩
      exact ⟨terminal, (same terminal).mpr old⟩

/-- What makes the computed cutoff select the rows that are meant. -/
theorem spares_cast_iff : SparesCast db now olderThanSeconds ↔
    ¬ InRange (castCutoff now olderThanSeconds) ∨ ∀ r ∈ db.rows, r.state.terminal = true →
      (castCutoff now olderThanSeconds * 1000000000 ≥ r.createdAt ↔
        meantCutoff now olderThanSeconds * 1000000000 ≥ r.createdAt) := by
  unfold SparesCast
  by_cases agree : now.toNat < 2 ^ 63 ↔ olderThanSeconds.toNat < 2 ^ 63
  · rw [casts_agree agree]
    exact iff_of_true (Or.inl agree) (Or.inr fun _ _ _ => Iff.rfl)
  · rw [casts_wrap agree]
    simp only [agree, false_or]

/-- A prune meets the threshold exactly when the store fails, or the wrap-around of the casts
does no harm. -/
theorem prune_expired_iff :
    PrunesExpired db now olderThanSeconds (prune db now olderThanSeconds stored) ↔
      stored = false ∨ SparesCast db now olderThanSeconds := by
  unfold prune
  rw [prune_cutoff_eq, fromTimestamp, spares_cast_iff]
  by_cases inside : InRange (castCutoff now olderThanSeconds)
  · rw [if_pos inside]
    cases stored with
    | false => simp [PrunesExpired]
    | true =>
      have rows : PrunesExpired db now olderThanSeconds
          (.ok (db.rowsAffected (.prune (castCutoff now olderThanSeconds * 1000000000))),
            db.exec (.prune (castCutoff now olderThanSeconds * 1000000000))) ↔
          ∀ r ∈ db.rows, (Statement.prune (castCutoff now olderThanSeconds * 1000000000)).filter r =
            decide (Expired now olderThanSeconds r) := filters_agree_iff
      simp only [↓reduceIte, rows, selects_expired_iff, reduceCtorEq, false_or, inside, not_true]
  · rw [if_neg inside]
    simp [PrunesExpired, inside]

theorem expired_mono {smaller larger : UInt64} (order : smaller ≤ larger) {r : Model}
    (expired : Expired now larger r) : Expired now smaller r := by
  have bound : smaller.toNat ≤ larger.toNat := UInt64.le_iff_toNat_le.mp order
  obtain ⟨terminal, old⟩ := expired
  exact ⟨terminal, by omega⟩

/-- Of two prunes that succeed, the one with the larger threshold keeps more. -/
theorem larger_threshold_keeps {smaller larger : UInt64} {n m : Nat} {most least : Db}
    (order : smaller ≤ larger) (spared : SparesCast db now larger)
    (spared' : SparesCast db now smaller) (first : prune db now larger stored = (.ok n, most))
    (second : prune db now smaller stored = (.ok m, least)) : ∀ r ∈ least.rows, r ∈ most.rows := by
  have left : PrunesExpired db now larger (prune db now larger stored) :=
    prune_expired_iff.mpr (Or.inr spared)
  have right : PrunesExpired db now smaller (prune db now smaller stored) :=
    prune_expired_iff.mpr (Or.inr spared')
  rw [first] at left
  rw [second] at right
  intro r member
  rw [right] at member
  obtain ⟨stays, kept⟩ := List.mem_filter.mp member
  rw [left]
  refine List.mem_filter.mpr ⟨stays, ?_⟩
  simp only [Bool.not_eq_true', decide_eq_false_iff_not] at kept ⊢
  exact fun expired => kept (expired_mono order expired)

end

/-- The law of a prune for every table, time and threshold, and two prunes compared. -/
theorem prune_threshold_law (db : Db) (now olderThanSeconds : UInt64) (stored : Bool) :
    (PrunesExpired db now olderThanSeconds (prune db now olderThanSeconds stored) ↔
      stored = false ∨ SparesCast db now olderThanSeconds) ∧
    ∀ smaller n m most least, smaller ≤ olderThanSeconds →
      SparesCast db now olderThanSeconds → SparesCast db now smaller →
      prune db now olderThanSeconds stored = (.ok n, most) →
      prune db now smaller stored = (.ok m, least) → ∀ r ∈ least.rows, r ∈ most.rows := by
  refine ⟨prune_expired_iff, ?_⟩
  intro smaller n m most least order spared spared' first second
  exact larger_threshold_keeps order spared spared' first second

/-- In a run a prune is the step with the cutoff that it has computed. -/
theorem prune_is_step {w w' : World} {now olderThanSeconds : UInt64} {stored : Bool}
    {cutoff : DateTimeUtc} (computed : pruneCutoff now olderThanSeconds = some cutoff)
    (h : w.step (.check (.prune cutoff stored)) = some w') :
    w'.db = (prune w.db now olderThanSeconds stored).2 := by
  cases h
  cases stored with
  | true => simp [prune, computed]
  | false => simp [prune, computed]

/-- An application that has finished ten seconds before the prune. -/
def finishedDb : Db :=
  (Db.new.exec (.createInsert "alice" none "token-a" 1699999990000000000)).exec
    (.deleteApp 1 "alice")

/-- The largest threshold is cast to one second in the future. -/
theorem largest_threshold_deletes :
    (prune finishedDb 1700000000 18446744073709551615 true).2.rows = [] ∧
      (finishedDb.rows.filter fun r => !Expired 1700000000 18446744073709551615 r) =
        finishedDb.rows ∧
      ¬ PrunesExpired finishedDb 1700000000 18446744073709551615
        (prune finishedDb 1700000000 18446744073709551615 true) := by
  have deleted : (prune finishedDb 1700000000 18446744073709551615 true).2.rows = [] := by decide
  have kept : (finishedDb.rows.filter fun r => !Expired 1700000000 18446744073709551615 r) =
      finishedDb.rows := by decide
  refine ⟨deleted, kept, ?_⟩
  rw [prune_expired_iff]
  decide

end SparkPlug
