import Mathlib.Data.List.Basic

/- The proleptic Gregorian calendar on day numbers, and decimal digits of a fixed width.
   Years begin in March inside the computation, so that the leap day is the last one. -/
namespace Calendar

/-- Days from the first of March of the year 0 to the first of March of a year. -/
def yearStart (y : Int) : Int := 365 * y + y / 4 - y / 100 + y / 400

/-- The year counted from March; the estimate is wrong by at most one. -/
def marchYear (n : Int) : Int :=
  let y := n * 400 / 146097
  if n < yearStart y then y - 1 else if yearStart (y + 1) ≤ n then y + 1 else y

def dayOfYear (n : Int) : Int := n - yearStart (marchYear n)

/-- Months counted from March: five of them have 153 days. -/
def marchMonth (n : Int) : Int := (5 * dayOfYear n + 2) / 153

def dayOfMonth (n : Int) : Int := dayOfYear n - (153 * marchMonth n + 2) / 5 + 1

theorem year_start_next (y : Int) :
    yearStart y + 365 ≤ yearStart (y + 1) ∧ yearStart (y + 1) ≤ yearStart y + 366 := by
  unfold yearStart
  omega

theorem year_start_le {y z : Int} (h : y ≤ z) : yearStart y ≤ yearStart z := by
  unfold yearStart
  omega

theorem march_year_bounds (n : Int) :
    yearStart (marchYear n) ≤ n ∧ n < yearStart (marchYear n + 1) := by
  unfold marchYear
  generalize estimate : n * 400 / 146097 = y
  by_cases below : n < yearStart y
  · simp only [below, ↓reduceIte, Int.sub_add_cancel, and_true]
    unfold yearStart at below ⊢
    omega
  · by_cases above : yearStart (y + 1) ≤ n
    · simp only [below, above, ↓reduceIte, true_and]
      unfold yearStart at above ⊢
      omega
    · simp only [below, above, ↓reduceIte]
      omega

theorem march_year_mono {m n : Int} (h : m ≤ n) : marchYear m ≤ marchYear n := by
  by_contra later
  have first := march_year_bounds m
  have second := march_year_bounds n
  have order : yearStart (marchYear n + 1) ≤ yearStart (marchYear m) := year_start_le (by omega)
  omega

theorem day_of_year_bounds (n : Int) : 0 ≤ dayOfYear n ∧ dayOfYear n < 366 := by
  have year := march_year_bounds n
  have next := year_start_next (marchYear n)
  unfold dayOfYear
  omega

theorem march_month_bounds (n : Int) : 0 ≤ marchMonth n ∧ marchMonth n < 12 := by
  have days := day_of_year_bounds n
  unfold marchMonth
  omega

theorem day_of_month_bounds (n : Int) : 1 ≤ dayOfMonth n ∧ dayOfMonth n ≤ 31 := by
  have days := day_of_year_bounds n
  unfold dayOfMonth marchMonth
  omega

structure Date where
  year : Int
  month : Nat
  day : Nat
  month_bounds : 1 ≤ month ∧ month ≤ 12
  day_bounds : 1 ≤ day ∧ day ≤ 31
  deriving DecidableEq

/-- From the first of March of the year 0 to the first of January 1970. -/
def epochDays : Int := 719468

/-- The date of a day counted from 1970-01-01. -/
def ofDays (days : Int) : Date where
  year := if marchMonth (days + epochDays) < 10 then marchYear (days + epochDays)
    else marchYear (days + epochDays) + 1
  month := (if marchMonth (days + epochDays) < 10 then marchMonth (days + epochDays) + 3
    else marchMonth (days + epochDays) - 9).toNat
  day := (dayOfMonth (days + epochDays)).toNat
  month_bounds := by
    have month := march_month_bounds (days + epochDays)
    split <;> omega
  day_bounds := by
    have day := day_of_month_bounds (days + epochDays)
    omega

def Date.Before (d e : Date) : Prop :=
  d.year < e.year ∨ d.year = e.year ∧ (d.month < e.month ∨ d.month = e.month ∧ d.day < e.day)

/-- Months counted through all years. -/
def Date.monthIndex (d : Date) : Int := 12 * d.year + d.month

theorem before_of_index {d e : Date}
    (h : d.monthIndex < e.monthIndex ∨ d.monthIndex = e.monthIndex ∧ d.day < e.day) :
    d.Before e := by
  have month := d.month_bounds
  have month' := e.month_bounds
  unfold Date.monthIndex at h
  unfold Date.Before
  omega

theorem month_index_of_days (days : Int) :
    (ofDays days).monthIndex =
      12 * marchYear (days + epochDays) + marchMonth (days + epochDays) + 3 := by
  have month := march_month_bounds (days + epochDays)
  simp only [Date.monthIndex, ofDays]
  split <;> omega

/-- Later days have later dates. -/
theorem of_days_before {m n : Int} (h : m < n) : (ofDays m).Before (ofDays n) := by
  have years := march_year_mono (show m + epochDays ≤ n + epochDays by omega)
  have month := march_month_bounds (m + epochDays)
  have month' := march_month_bounds (n + epochDays)
  apply before_of_index
  rw [month_index_of_days, month_index_of_days]
  by_cases same : marchYear (m + epochDays) = marchYear (n + epochDays)
  · have days : dayOfYear (m + epochDays) < dayOfYear (n + epochDays) := by
      unfold dayOfYear
      rw [same]
      omega
    have first := day_of_month_bounds (m + epochDays)
    simp only [ofDays]
    unfold dayOfMonth marchMonth at *
    omega
  · omega

example : ofDays 0 = ⟨1970, 1, 1, by decide, by decide⟩ := by decide
example : ofDays 11016 = ⟨2000, 2, 29, by decide, by decide⟩ := by decide
example : ofDays (-719528) = ⟨0, 1, 1, by decide, by decide⟩ := by decide

end Calendar
