import Mathlib.Data.List.Basic

/- Lists of tasks that are addressed by their position and never removed: a task
   is spawned at the end, and changed in place. -/
namespace Tasks

universe u v
variable {T : Type u}

/-- Changing one task keeps every other one. -/
theorem kept_or_changed {tasks : List T} {n : Nat} {task new : T} (member : task ∈ tasks) :
    task ∈ tasks.set n new ∨ tasks[n]? = some task := by
  obtain ⟨k, there⟩ := List.mem_iff_getElem?.mp member
  by_cases same : k = n
  · subst k
    exact Or.inr there
  · have other : (tasks.set n new)[k]? = some task := by
      rw [List.getElem?_set_ne (Ne.symm same)]
      exact there
    exact Or.inl (List.mem_of_getElem? other)

/-- The task at a position after one task was changed. -/
theorem at_changed {tasks : List T} {n k : Nat} {task new : T}
    (there : (tasks.set n new)[k]? = some task) :
    (k = n ∧ task = new) ∨ (k ≠ n ∧ tasks[k]? = some task) := by
  by_cases same : k = n
  · subst k
    rw [List.getElem?_set_self'] at there
    obtain ⟨_, _, rfl⟩ := Option.map_eq_some_iff.mp there
    exact Or.inl ⟨rfl, rfl⟩
  · rw [List.getElem?_set_ne (Ne.symm same)] at there
    exact Or.inr ⟨same, there⟩

/-- The task at a position after a function was applied to one task. -/
theorem at_modified {tasks : List T} {f : T → T} {n k : Nat} {task : T}
    (there : (tasks.modify n f)[k]? = some task) :
    (k = n ∧ ∃ old, tasks[k]? = some old ∧ task = f old) ∨ (k ≠ n ∧ tasks[k]? = some task) := by
  by_cases same : k = n
  · subst k
    rw [List.getElem?_modify_eq] at there
    obtain ⟨old, stored, rfl⟩ := Option.map_eq_some_iff.mp there
    exact Or.inl ⟨rfl, old, stored, rfl⟩
  · rw [List.getElem?_modify_ne f _ (Ne.symm same)] at there
    exact Or.inr ⟨same, there⟩

theorem at_spawned {tasks : List T} {k : Nat} {task new : T}
    (there : (tasks ++ [new])[k]? = some task) :
    (k = tasks.length ∧ task = new) ∨ tasks[k]? = some task := by
  rw [List.getElem?_append] at there
  split at there
  · exact Or.inr there
  · rename_i past
    have bound := (List.getElem?_eq_some_iff.mp there).1
    simp only [List.length_singleton] at bound
    have last : k - tasks.length = 0 := by omega
    rw [last] at there
    simp only [List.getElem?_cons_zero, Option.some.injEq] at there
    exact Or.inl ⟨by omega, there.symm⟩

/-- A change that keeps what is read of a task keeps it for all tasks. -/
theorem map_changed {K : Type v} {tasks : List T} {n : Nat} {task new : T} (f : T → K)
    (there : tasks[n]? = some task) (same : f new = f task) :
    (tasks.set n new).map f = tasks.map f := by
  have mapped : (tasks.map f)[n]? = some (f new) := by simp [there, same]
  obtain ⟨bound, at_n⟩ := List.getElem?_eq_some_iff.mp mapped
  rw [List.map_set, ← at_n, List.set_getElem_self]

/-- A quantity summed over the tasks. -/
def total (f : T → Nat) : List T → Nat
  | [] => 0
  | task :: tasks => f task + total f tasks

/-- Changing one task changes the total by its share. -/
theorem total_changed {tasks : List T} {n : Nat} {task : T} (f : T → Nat)
    (there : tasks[n]? = some task) (new : T) :
    total f (tasks.set n new) + f task = total f tasks + f new := by
  induction tasks generalizing n with
  | nil => simp at there
  | cons first rest ih =>
    cases n with
    | zero =>
      simp only [List.getElem?_cons_zero, Option.some.injEq] at there
      subst first
      simp only [List.set_cons_zero, total]
      omega
    | succ n =>
      have later := ih (by simpa using there)
      simp only [List.set_cons_succ, total]
      omega

theorem total_spawned (f : T → Nat) (tasks : List T) (new : T) :
    total f (tasks ++ [new]) = total f tasks + f new := by
  induction tasks with
  | nil => simp [total]
  | cons first rest ih =>
    simp only [List.cons_append, total, ih]
    omega

theorem total_zero_iff (f : T → Nat) (tasks : List T) :
    total f tasks = 0 ↔ ∀ task ∈ tasks, f task = 0 := by
  induction tasks with
  | nil => simp [total]
  | cons first rest ih =>
    simp only [total, List.forall_mem_cons, ← ih]
    omega

end Tasks
