import SparkPlug.Library.Shared
import SparkPlug.Library.Tasks

/- A ticket that the processes on a shared store draw, hold and spend. Where it can only be
   drawn unused and then stays used, no run spends it twice. -/
namespace Tickets
open Runs Shared Tasks

universe u v w
variable {G : Type u} {L : Type v} {A : Type w}

/-- How often a process holds the ticket, and how often a step of it draws and spends it. -/
structure Ticket (one : G → L → A → Option (G × L)) (fresh : L) (ok : G → L → A → Prop)
    (held : L → Nat) (drawn spent : G → L → A → Nat) (used : G → Prop) : Prop where
  balance : ∀ g l a g' l', one g l a = some (g', l') →
    held l' + spent g l a ≤ held l + drawn g l a
  single : ∀ g l a, drawn g l a ≤ 1
  unused : ∀ g l a g' l', ok g l a → one g l a = some (g', l') → drawn g l a ≠ 0 →
    ¬ used g ∧ used g'
  stays : ∀ g l a g' l', one g l a = some (g', l') → used g → used g'
  none : held fresh = 0

/-- What a move of the whole spends. -/
def spentBy (spent : G → L → A → Nat) (s : Composite G L) : Move A → Nat
  | .act i a =>
    match s.locals[i]? with
    | some l => spent s.shared l a
    | none => 0
  | .join => 0

/-- The ticket has been spent `n` times. -/
def AtMostOnce (held : L → Nat) (used : G → Prop) (s : Composite G L) (n : Nat) : Prop :=
  n + total held s.locals ≤ 1 ∧ (n + total held s.locals ≠ 0 → used s.shared)

section
variable {one : G → L → A → Option (G × L)} {fresh : L} {ok : G → L → A → Prop}
  {held : L → Nat} {drawn spent : G → L → A → Nat} {used : G → Prop}

theorem at_most_once_start (g : G) : AtMostOnce held used { shared := g, locals := [] } 0 := by
  constructor <;> simp [total]

theorem at_most_once_step (law : Ticket one fresh ok held drawn spent used) {s t : Composite G L}
    {m : Move A} {n : Nat} (before : AtMostOnce held used s n) (meets : Meets ok s m)
    (h : step one fresh s m = some t) : AtMostOnce held used t (n + spentBy spent s m) := by
  obtain ⟨bound, known⟩ := before
  rcases step_cases h with ⟨i, a, l, g', l', rfl, at_i, moved, rfl⟩ | ⟨rfl, rfl⟩
  · have balance := law.balance _ l a g' l' moved
    have changed := total_changed held at_i l'
    have spends : spentBy spent s (.act i a) = spent s.shared l a := by simp [spentBy, at_i]
    simp only [AtMostOnce, spends]
    by_cases draws : drawn s.shared l a = 0
    · have stays := law.stays _ l a g' l' moved
      refine ⟨by omega, fun some => stays (known (by omega))⟩
    · -- the ticket is drawn for the first time
      obtain ⟨unused, after⟩ := law.unused _ l a g' l' (meets l at_i) moved draws
      have before : n + total held s.locals = 0 := by
        by_contra some
        exact unused (known some)
      have single := law.single s.shared l a
      exact ⟨by omega, fun _ => after⟩
  · have spawned := total_spawned held s.locals fresh
    have empty := law.none
    have spends : spentBy spent s .join = 0 := rfl
    simp only [AtMostOnce, spends]
    exact ⟨by omega, fun some => known (by omega)⟩

end

end Tickets
