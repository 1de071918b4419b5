import Mathlib.Order.WellFounded
import SparkPlug.Library.Runs

/- Infinite runs of a labelled system, and goals that they reach: the steps in question lower
   a rank, no other step raises it, and they are taken again and again. -/
namespace Runs

universe u v w
variable {S : Type u} {A : Type v}

structure Trace (step : S → A → Option S) where
  state : Nat → S
  action : Nat → A
  next : ∀ n, step (state n) (action n) = some (state (n + 1))

section
variable {step : S → A → Option S} {ok : S → A → Prop} {inv : S → Prop}

theorem trace_invariant (pres : Preserves step ok inv) (t : Trace step) (start : inv (t.state 0))
    (meets : ∀ n, ok (t.state n) (t.action n)) (n : Nat) : inv (t.state n) := by
  induction n with
  | zero => exact start
  | succ n ih => exact pres _ _ _ ih (meets n) (t.next n)

/-- Steps that can always be taken again make a trace. -/
theorem trace_exists {good : S → A → Prop} {start : S} (holds : inv start)
    (goes : ∀ s, inv s → ∃ a s', good s a ∧ step s a = some s' ∧ inv s') :
    ∃ t : Trace step, t.state 0 = start ∧ ∀ n, good (t.state n) (t.action n) := by
  choose act after taken using goes
  let run : Nat → { s // inv s } := fun n =>
    n.rec ⟨start, holds⟩ fun _ s => ⟨after s.1 s.2, (taken s.1 s.2).2.2⟩
  let t : Trace step :=
    { state := fun n => (run n).1
      action := fun n => act (run n).1 (run n).2
      next := fun n => (taken (run n).1 (run n).2).2.1 }
  exact ⟨t, rfl, fun n => (taken (run n).1 (run n).2).1⟩

/-- What a step does to the rank, unless it reaches the goal. -/
structure Ranks {R : Type w} [Preorder R] (step : S → A → Option S) (ok : S → A → Prop)
    (inv goal : S → Prop) (own : S → A → Prop) (rank : S → R) : Prop where
  lowers : ∀ s a s', inv s → ok s a → ¬ goal s → own s a → step s a = some s' →
    goal s' ∨ rank s' < rank s
  keeps : ∀ s a s', inv s → ok s a → ¬ goal s → ¬ own s a → step s a = some s' →
    goal s' ∨ rank s' ≤ rank s

variable {R : Type w} [Preorder R] {goal : S → Prop} {own : S → A → Prop} {rank : S → R}

/-- Until the goal is reached the rank does not rise. -/
theorem rank_falls (ranks : Ranks step ok inv goal own rank) (t : Trace step)
    (holds : ∀ n, inv (t.state n)) (meets : ∀ n, ok (t.state n) (t.action n))
    (never : ∀ n, ¬ goal (t.state n)) (n k : Nat) :
    rank (t.state (n + k)) ≤ rank (t.state n) := by
  induction k with
  | zero => exact le_refl _
  | succ k ih =>
    refine le_trans ?_ ih
    by_cases mine : own (t.state (n + k)) (t.action (n + k))
    · have lower := ranks.lowers _ _ _ (holds (n + k)) (meets (n + k)) (never _) mine (t.next _)
      exact le_of_lt (lower.resolve_left (never _))
    · have kept := ranks.keeps _ _ _ (holds (n + k)) (meets (n + k)) (never _) mine (t.next _)
      exact kept.resolve_left (never _)

/-- A trace on which the steps in question keep being taken reaches the goal. -/
theorem trace_reaches [WellFoundedLT R] (ranks : Ranks step ok inv goal own rank) (t : Trace step)
    (holds : ∀ n, inv (t.state n)) (meets : ∀ n, ok (t.state n) (t.action n))
    (served : ∀ n, ¬ goal (t.state n) → ∃ m, n ≤ m ∧
      (goal (t.state m) ∨ own (t.state m) (t.action m))) : ∃ n, goal (t.state n) := by
  by_contra unreached
  have never : ∀ n, ¬ goal (t.state n) := fun n reached => unreached ⟨n, reached⟩
  have none : ∀ r, ∀ n, rank (t.state n) ≠ r := by
    intro r
    induction r using WellFoundedLT.induction with
    | ind r ih =>
      rintro n rfl
      obtain ⟨m, later, reached | mine⟩ := served n (never n)
      · exact never m reached
      · have lower := ranks.lowers _ _ _ (holds m) (meets m) (never m) mine (t.next m)
        obtain ⟨k, rfl⟩ := Nat.exists_eq_add_of_le later
        have falls := rank_falls ranks t holds meets never n k
        exact ih _ (lt_of_lt_of_le (lower.resolve_left (never _)) falls) (n + k + 1) rfl
  exact none _ 0 rfl

end

end Runs
