import Mathlib.Algebra.Group.Nat.Defs
import Mathlib.Data.List.Basic

/- Decimal digits, most significant first: of a fixed width, in the lexicographic order of
   texts that begin with parts of equal length, and of an integer. -/
namespace Digits

def fixedDigits : Nat → Nat → List Char
  | 0, _ => []
  | width + 1, n => fixedDigits width (n / 10) ++ [Nat.digitChar (n % 10)]

@[simp] theorem length_fixed_digits (width n : Nat) : (fixedDigits width n).length = width := by
  induction width generalizing n with
  | zero => rfl
  | succ width ih => simp [fixedDigits, ih]

/-- A difference in parts of equal length decides. -/
theorem append_lt_append {α : Type} [LT α] {xs ys : List α} (us vs : List α)
    (length : xs.length = ys.length) (h : xs < ys) : xs ++ us < ys ++ vs := by
  induction xs generalizing ys with
  | nil =>
    cases ys with
    | nil => exact absurd h (List.not_lt_nil [])
    | cons y ys => simp at length
  | cons x xs ih =>
    cases ys with
    | nil => simp at length
    | cons y ys =>
      simp only [List.cons_append, List.cons_lt_cons_iff] at h ⊢
      simp only [List.length_cons, Nat.add_right_cancel_iff] at length
      rcases h with first | ⟨same, later⟩
      · exact Or.inl first
      · exact Or.inr ⟨same, ih length later⟩

theorem digit_char_lt {j k : Nat} (h : j < k) (small : k < 10) :
    Nat.digitChar j < Nat.digitChar k := by
  have all : ∀ k < 10, ∀ j < k, Nat.digitChar j < Nat.digitChar k := by decide
  exact all k small j h

/-- Digits of equal width are in the order of the numbers. -/
theorem fixed_digits_lt {width m n : Nat} (h : m < n) (small : n < 10 ^ width) :
    fixedDigits width m < fixedDigits width n := by
  induction width generalizing m n with
  | zero =>
    simp only [Nat.pow_zero] at small
    omega
  | succ width ih =>
    rw [Nat.pow_succ] at small
    unfold fixedDigits
    by_cases same : m / 10 = n / 10
    · rw [same]
      have last := digit_char_lt (show m % 10 < n % 10 by omega) (by omega)
      apply List.append_left_lt
      exact List.cons_lt_cons_iff.mpr (Or.inl last)
    · have leading := ih (show m / 10 < n / 10 by omega) (by omega)
      exact append_lt_append _ _ (by simp) leading

theorem digit_of_fixed_digits {width n : Nat} {c : Char} (member : c ∈ fixedDigits width n) :
    '0' ≤ c := by
  have all : ∀ k < 10, '0' ≤ Nat.digitChar k := by decide
  induction width generalizing n with
  | zero => simp [fixedDigits] at member
  | succ width ih =>
    simp only [fixedDigits, List.mem_append, List.mem_singleton] at member
    rcases member with leading | rfl
    · exact ih leading
    · exact all _ (by omega)

example : fixedDigits 4 42 = "0042".toList := by decide

/- Numbers without superfluous digits. -/

theorem decimal_digits (n : Nat) : (Nat.toDigits 10 n).all Char.isDigit = true := by
  rw [List.all_eq_true]
  intro c member
  exact Nat.isDigit_of_mem_toDigits (by decide) (by decide) member

def intText (n : Int) : List Char :=
  if n < 0 then '-' :: Nat.toDigits 10 n.natAbs else Nat.toDigits 10 n.natAbs

theorem int_text_filled (n : Int) : intText n ≠ [] := by
  unfold intText
  split
  · simp
  · exact Nat.toDigits_ne_nil

/-- A character of an integer is a digit or the sign. -/
theorem mem_int_text {n : Int} {c : Char} (member : c ∈ intText n) :
    c.isDigit = true ∨ c = '-' := by
  have digits : ∀ d ∈ Nat.toDigits 10 n.natAbs, d.isDigit = true :=
    List.all_eq_true.mp (decimal_digits n.natAbs)
  unfold intText at member
  split at member
  · rcases List.mem_cons.mp member with sign | digit
    · exact Or.inr sign
    · exact Or.inl (digits c digit)
  · exact Or.inl (digits c member)

end Digits
