import Mathlib.Data.String.Basic
import SparkPlug.Application
import SparkPlug.Library.Calendar
import SparkPlug.Library.Digits

/-!
Creation times on a SQLite store. The column default writes one text form of an
instant, a bound parameter another, and the column compares the texts.
-/
namespace SparkPlug
open Calendar Digits

def seconds (t : DateTimeUtc) : Int := t / 1000000000

def truncate (t : DateTimeUtc) : Int := seconds t * 1000000000

def dayNumber (t : DateTimeUtc) : Int := seconds t / 86400

def date (t : DateTimeUtc) : Date := ofDays (dayNumber t)

def monthDayChars (d : Date) : List Char :=
  '-' :: (fixedDigits 2 d.month ++ '-' :: fixedDigits 2 d.day)

def timeChars (t : DateTimeUtc) : List Char :=
  let second := (seconds t % 86400).toNat
  fixedDigits 2 (second / 3600) ++ ':' ::
    (fixedDigits 2 (second / 60 % 60) ++ ':' :: fixedDigits 2 (second % 60))

/-- SQLite's CURRENT_TIMESTAMP, defined for the years 0 to 9999. -/
def currentTimestamp (c : DateTimeUtc) : String :=
  String.ofList (fixedDigits 4 (date c).year.toNat ++ (monthDayChars (date c) ++
    ' ' :: timeChars c))

/-- Years of more or less than four digits have a sign. -/
def yearChars (year : Int) : List Char :=
  if year < 0 then '-' :: (Nat.toDigits 10 year.natAbs).leftpad 4 '0'
  else if year ≤ 9999 then fixedDigits 4 year.toNat
  else '+' :: (Nat.toDigits 10 year.natAbs).leftpad 4 '0'

/-- Nothing, or milli-, micro- or nanoseconds, whichever suffices. -/
def fractionChars (t : DateTimeUtc) : List Char :=
  let nanos := (t % 1000000000).toNat
  if nanos = 0 then []
  else if nanos % 1000000 = 0 then '.' :: fixedDigits 3 (nanos / 1000000)
  else if nanos % 1000 = 0 then '.' :: fixedDigits 6 (nanos / 1000)
  else '.' :: fixedDigits 9 nanos

/-- The text that a bound DateTimeUtc is sent as. -/
def toRfc3339 (b : DateTimeUtc) : String :=
  String.ofList (yearChars (date b).year ++ (monthDayChars (date b) ++
    'T' :: (timeChars b ++ (fractionChars b ++ "+00:00".toList))))

/-- `created_at <= b` on a row that createApp has inserted at `c`. -/
def createdAtMost (c b : DateTimeUtc) : Bool := currentTimestamp c ≤ toRfc3339 b

/-- `created_at >= b` on a row that createApp has inserted at `c`. -/
def createdAtLeast (c b : DateTimeUtc) : Bool := toRfc3339 b ≤ currentTimestamp c

def ComparesInstants (c b : DateTimeUtc) : Prop :=
  (createdAtMost c b ↔ truncate c ≤ b) ∧ (createdAtLeast c b ↔ truncate c ≥ b)

def FourDigitYear (t : DateTimeUtc) : Prop := 0 ≤ (date t).year ∧ (date t).year ≤ 9999

instance (t : DateTimeUtc) : Decidable (FourDigitYear t) :=
  inferInstanceAs (Decidable (0 ≤ (date t).year ∧ (date t).year ≤ 9999))

/- Days and instants. -/

theorem truncate_lt_of_day {c b : Int} (h : dayNumber c < dayNumber b) :
    truncate c < b := by
  unfold dayNumber at h
  unfold truncate
  unfold seconds at *
  omega

theorem lt_truncate_of_day {c b : Int} (h : dayNumber b < dayNumber c) :
    b < truncate c := by
  unfold dayNumber at h
  unfold truncate
  unfold seconds at *
  omega

theorem day_lt_of_year {s t : DateTimeUtc} (h : (date s).year < (date t).year) :
    dayNumber s < dayNumber t := by
  by_contra later
  by_cases same : dayNumber s = dayNumber t
  · simp [date, same] at h
  · have before := of_days_before (show dayNumber t < dayNumber s by omega)
    unfold Date.Before at before
    unfold date at h
    omega

/- The order of the texts. -/

/-- Texts that begin with different dates are in the order of the dates. -/
theorem dates_decide {d e : Date} (us vs : List Char) (h : d.Before e) (start : 0 ≤ d.year)
    (bound : e.year ≤ 9999) :
    fixedDigits 4 d.year.toNat ++ (monthDayChars d ++ us) <
      fixedDigits 4 e.year.toNat ++ (monthDayChars e ++ vs) := by
  have month := e.month_bounds
  have day := e.day_bounds
  simp only [monthDayChars, List.cons_append, List.append_assoc]
  rcases h with years | ⟨years, months | ⟨months, days⟩⟩
  · apply append_lt_append _ _ (by simp)
    exact fixed_digits_lt (by omega) (by omega)
  · rw [years]
    apply List.append_left_lt
    rw [List.cons_lt_cons_self]
    apply append_lt_append _ _ (by simp)
    exact fixed_digits_lt months (by omega)
  · rw [years, months]
    apply List.append_left_lt
    rw [List.cons_lt_cons_self]
    apply List.append_left_lt
    rw [List.cons_lt_cons_self]
    apply append_lt_append _ _ (by simp)
    exact fixed_digits_lt days (by omega)

section
variable {c b : Int}

theorem year_chars_plain (plain : FourDigitYear b) :
    yearChars (date b).year = fixedDigits 4 (date b).year.toNat := by
  have start : ¬ (date b).year < 0 := Int.not_lt.mpr plain.1
  simp [yearChars, start, plain.2]

theorem created_before (clock : FourDigitYear c) (plain : FourDigitYear b)
    (h : dayNumber c < dayNumber b) : currentTimestamp c < toRfc3339 b := by
  rw [String.lt_iff_toList_lt]
  simp only [currentTimestamp, toRfc3339, String.toList_ofList, year_chars_plain plain]
  exact dates_decide _ _ (of_days_before h) clock.1 plain.2

theorem created_after (clock : FourDigitYear c) (plain : FourDigitYear b)
    (h : dayNumber b < dayNumber c) : toRfc3339 b < currentTimestamp c := by
  rw [String.lt_iff_toList_lt]
  simp only [currentTimestamp, toRfc3339, String.toList_ofList, year_chars_plain plain]
  exact dates_decide _ _ (of_days_before h) plain.1 clock.2

/-- On one day the separator decides: a blank is smaller than a T. -/
theorem created_same_day (plain : FourDigitYear b) (h : dayNumber c = dayNumber b) :
    currentTimestamp c < toRfc3339 b := by
  have separator : ' ' < 'T' := by decide
  rw [String.lt_iff_toList_lt]
  simp only [currentTimestamp, toRfc3339, String.toList_ofList, year_chars_plain plain]
  simp only [date, h]
  apply List.append_left_lt
  apply List.append_left_lt
  exact List.cons_lt_cons_iff.mpr (Or.inl separator)

/-- A sign is smaller than every digit. -/
theorem created_after_signed (signed : ¬ FourDigitYear b) : toRfc3339 b < currentTimestamp c := by
  have minus : '-' < '0' := by decide
  have plus : '+' < '0' := by decide
  rw [String.lt_iff_toList_lt]
  simp only [currentTimestamp, toRfc3339, String.toList_ofList]
  generalize year : (date c).year.toNat = n
  have digits : ∀ d ∈ fixedDigits 4 n, '0' ≤ d := fun d member => digit_of_fixed_digits member
  have length := length_fixed_digits 4 n
  generalize fixedDigits 4 n = first at digits length
  cases first with
  | nil => simp at length
  | cons d first =>
    have digit := digits d List.mem_cons_self
    unfold yearChars
    by_cases negative : (date b).year < 0
    · rw [if_pos negative]
      exact List.cons_lt_cons_iff.mpr (Or.inl (lt_of_lt_of_le minus digit))
    · have large : ¬ (date b).year ≤ 9999 := fun small =>
        signed ⟨Int.not_lt.mp negative, small⟩
      rw [if_neg negative, if_neg large]
      exact List.cons_lt_cons_iff.mpr (Or.inl (lt_of_lt_of_le plus digit))

theorem compares_if_before (h : currentTimestamp c < toRfc3339 b) :
    ComparesInstants c b ↔ truncate c < b := by
  have most : createdAtMost c b = true := decide_eq_true (String.not_lt.mp (String.lt_asymm h))
  have least : createdAtLeast c b = false := decide_eq_false (String.not_le.mpr h)
  simp only [ComparesInstants, most, least, true_iff, Bool.false_eq_true, false_iff]
  omega

theorem compares_if_after (h : toRfc3339 b < currentTimestamp c) :
    ComparesInstants c b ↔ b < truncate c := by
  have most : createdAtMost c b = false := decide_eq_false (String.not_le.mpr h)
  have least : createdAtLeast c b = true := decide_eq_true (String.not_lt.mp (String.lt_asymm h))
  simp only [ComparesInstants, most, least, true_iff, Bool.false_eq_true, false_iff]
  omega

/-- The texts compare like the instants exactly when the bound is on another day than the
creation, or later on the same day, and not after the year 9999. -/
theorem stored_times_compare_iff (clock : FourDigitYear c) :
    ComparesInstants c b ↔
      (date b).year ≤ 9999 ∧ (dayNumber b ≠ dayNumber c ∨ truncate c < b) := by
  by_cases plain : FourDigitYear b
  · have small := plain.2
    rcases Int.lt_trichotomy (dayNumber c) (dayNumber b) with earlier | same | later
    · have order := truncate_lt_of_day earlier
      rw [compares_if_before (created_before clock plain earlier)]
      simp [small, order]
    · rw [compares_if_before (created_same_day plain same)]
      simp [small, same]
    · have order := lt_truncate_of_day later
      have other : dayNumber b ≠ dayNumber c := by omega
      rw [compares_if_after (created_after clock plain later)]
      simp [small, other, order]
  · rw [compares_if_after (created_after_signed plain)]
    by_cases negative : (date b).year < 0
    · have later := day_lt_of_year (s := b) (t := c) (by have := clock.1; omega)
      have order := lt_truncate_of_day later
      have other : dayNumber b ≠ dayNumber c := by omega
      have small : (date b).year ≤ 9999 := by omega
      simp [small, other, order]
    · have large : ¬ (date b).year ≤ 9999 := fun small => plain ⟨by omega, small⟩
      have earlier := day_lt_of_year (s := c) (t := b) (by have := clock.2; omega)
      have order := truncate_lt_of_day earlier
      simp only [large, false_and, iff_false]
      omega

end

/- The rows that a bound selects. -/

/-- The number of the first day of the year 0. -/
def FIRST_DAY : Int := -719528

/-- The latest creation time at which the text of a row is not after the text of the bound:
the end of its day, or none if its text has a sign. -/
def sqliteCutoff (b : DateTimeUtc) : DateTimeUtc :=
  if FourDigitYear b then (dayNumber b + 1) * 86400000000000 - 1
  else FIRST_DAY * 86400000000000 - 1

theorem first_day_le {c : Int} (clock : FourDigitYear c) : FIRST_DAY ≤ dayNumber c := by
  have first : ofDays FIRST_DAY = ⟨0, 1, 1, by decide, by decide⟩ := by decide
  by_contra early
  have before := of_days_before (show dayNumber c < FIRST_DAY by omega)
  have start := clock.1
  have month := (date c).month_bounds
  have day := (date c).day_bounds
  unfold Date.Before at before
  unfold date at start month day
  simp only [first] at before
  omega

theorem created_at_most_iff {c b : Int} (clock : FourDigitYear c) :
    createdAtMost c b = true ↔ c ≤ sqliteCutoff b := by
  have least := first_day_le clock
  have most : ∀ {b : Int}, currentTimestamp c < toRfc3339 b → createdAtMost c b = true :=
    fun h => decide_eq_true (String.not_lt.mp (String.lt_asymm h))
  have none : ∀ {b : Int}, toRfc3339 b < currentTimestamp c → createdAtMost c b = false :=
    fun h => decide_eq_false (String.not_le.mpr h)
  by_cases plain : FourDigitYear b
  · rw [sqliteCutoff, if_pos plain]
    rcases Int.lt_trichotomy (dayNumber c) (dayNumber b) with earlier | same | later
    · simp only [most (created_before clock plain earlier), true_iff]
      unfold dayNumber seconds at *
      omega
    · simp only [most (created_same_day plain same), true_iff]
      unfold dayNumber seconds at *
      omega
    · simp only [none (created_after clock plain later), Bool.false_eq_true, false_iff]
      unfold dayNumber seconds at *
      omega
  · rw [sqliteCutoff, if_neg plain]
    simp only [none (created_after_signed plain), Bool.false_eq_true, false_iff]
    unfold dayNumber seconds FIRST_DAY at *
    omega

/-- How a store compares a creation time with a bound. -/
inductive Comparison where
  | instants
  /- SQLite, which has no type for times. -/
  | texts

/-- `created_at <= b`. -/
def Comparison.selects : Comparison → DateTimeUtc → DateTimeUtc → Bool
  | .instants, c, b => c ≤ b
  | .texts, c, b => createdAtMost c b

/-- The latest creation time that the bound selects. -/
def Comparison.cutoff : Comparison → DateTimeUtc → DateTimeUtc
  | .instants, b => b
  | .texts, b => sqliteCutoff b

theorem selects_iff (compare : Comparison) {c b : Int} (clock : FourDigitYear c) :
    compare.selects c b = true ↔ c ≤ compare.cutoff b := by
  cases compare with
  | instants => exact decide_eq_true_iff
  | texts => exact created_at_most_iff clock

/-- 2024-05-01 10:00:00. -/
def mayMorning : DateTimeUtc := 1714557600000000000

/-- A bound of the day before. -/
def aprilEvening : DateTimeUtc := 1714503600500000000

example : currentTimestamp mayMorning = "2024-05-01 10:00:00" := by decide
example : toRfc3339 aprilEvening = "2024-04-30T19:00:00.500+00:00" := by decide

theorem day_before_compares : ComparesInstants mayMorning aprilEvening :=
  (stored_times_compare_iff (by decide)).mpr (by decide)

/-- A bound one hour before the creation selects the row as created before it. -/
theorem same_day_bound_misread :
    let bound := mayMorning - 3600000000000
    FourDigitYear mayMorning ∧
      createdAtMost mayMorning bound = true ∧ ¬ truncate mayMorning ≤ bound ∧
      createdAtLeast mayMorning bound = false ∧ truncate mayMorning ≥ bound := by decide

end SparkPlug
