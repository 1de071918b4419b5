import Mathlib.Data.List.Basic
import Mathlib.Data.List.Nodup

/- Numbered first-in first-out queues and a log of what went in and came out.
   Queues are opened at the end of the list and never removed. -/
namespace Queues

universe u v
variable {M : Type u}

/-- The entries of a log that concern one queue, in their order. -/
def ofQueue (d : Nat) (log : List (Nat × M)) : List M :=
  (log.filter fun entry => entry.1 = d).map (·.2)

@[simp] theorem of_queue_append (d : Nat) (log later : List (Nat × M)) :
    ofQueue d (log ++ later) = ofQueue d log ++ ofQueue d later := by
  simp [ofQueue]

theorem of_queue_self (d : Nat) (m : M) : ofQueue d [(d, m)] = [m] := by simp [ofQueue]

theorem of_queue_other {d e : Nat} (m : M) (other : e ≠ d) : ofQueue d [(e, m)] = [] := by
  simp [ofQueue, other]

theorem mem_of_queue {d : Nat} {m : M} {log : List (Nat × M)} :
    m ∈ ofQueue d log ↔ (d, m) ∈ log := by
  simp [ofQueue]

theorem of_queue_sublist {d : Nat} {log whole : List (Nat × M)} (sub : log.Sublist whole) :
    (ofQueue d log).Sublist (ofQueue d whole) :=
  (sub.filter _).map _

theorem of_queue_cons (d : Nat) (entry : Nat × M) (log : List (Nat × M)) :
    ofQueue d (entry :: log) = ofQueue d [entry] ++ ofQueue d log :=
  of_queue_append d [entry] log

/-- A log repeats no entry if and only if none of its queues does. -/
theorem nodup_iff_of_queue (log : List (Nat × M)) :
    log.Nodup ↔ ∀ d, (ofQueue d log).Nodup := by
  constructor
  · intro distinct d
    refine (distinct.filter _).map_on ?_
    rintro ⟨e, m⟩ left ⟨f, n⟩ right same
    simp only [List.mem_filter, decide_eq_true_eq] at left right
    rw [left.2, right.2]
    exact Prod.ext rfl same
  · intro each
    induction log with
    | nil => exact List.nodup_nil
    | cons entry log ih =>
      obtain ⟨d, m⟩ := entry
      have rest : ∀ e, (ofQueue e log).Nodup := by
        intro e
        exact (each e).sublist (of_queue_sublist (List.sublist_cons_self _ _))
      have own := each d
      rw [of_queue_cons, of_queue_self, List.singleton_append, List.nodup_cons, mem_of_queue] at own
      exact List.nodup_cons.mpr ⟨own.1, ih rest⟩

inductive Event (M : Type u) where
  | quiet
  | arrived (d : Nat) (m : M)
  | taken (d : Nat) (m : M)

/-- What an event does to the queues. -/
inductive Move (qs : List (List M)) : List (List M) → Event M → Prop where
  | kept : Move qs qs .quiet
  | opened : Move qs (qs ++ [[]]) .quiet
  | arrived (d : Nat) (q : List M) (m : M) (there : qs[d]? = some q) :
      Move qs (qs.set d (q ++ [m])) (.arrived d m)
  | taken (d : Nat) (q : List M) (m : M) (there : qs[d]? = some (m :: q)) :
      Move qs (qs.set d q) (.taken d m)

structure Log (M : Type u) where
  arrived : List (Nat × M) := []
  taken : List (Nat × M) := []

def Log.note (log : Log M) : Event M → Log M
  | .quiet => log
  | .arrived d m => { log with arrived := log.arrived ++ [(d, m)] }
  | .taken d m => { log with taken := log.taken ++ [(d, m)] }

/-- What went into a queue is what came out of it, in that order, and what still waits. -/
def Fifo (qs : List (List M)) (log : Log M) : Prop :=
  ∀ d, ofQueue d log.arrived = ofQueue d log.taken ++ qs.getD d []

theorem waiting_set {qs : List (List M)} {d : Nat} {q : List M} (there : qs[d]? = some q)
    (q' : List M) (e : Nat) : (qs.set d q').getD e [] = if d = e then q' else qs.getD e [] := by
  have bound := (List.getElem?_eq_some_iff.mp there).1
  by_cases same : d = e
  · subst e
    simp [bound]
  · simp [same]

theorem waiting_opened (qs : List (List M)) (e : Nat) : (qs ++ [[]]).getD e [] = qs.getD e [] := by
  simp only [List.getD_eq_getElem?_getD, List.getElem?_append]
  by_cases old : e < qs.length
  · simp [old]
  · cases past : e - qs.length <;> simp [old]

theorem fifo_step {qs qs' : List (List M)} {log : Log M} {event : Event M}
    (move : Move qs qs' event) (fifo : Fifo qs log) : Fifo qs' (log.note event) := by
  intro e
  have before := fifo e
  cases move with
  | kept => exact before
  | opened =>
    rw [waiting_opened]
    exact before
  | arrived d q m there =>
    simp only [Log.note, of_queue_append, waiting_set there, before]
    by_cases same : d = e
    · subst e
      simp [of_queue_self, there]
    · simp [of_queue_other m same, same]
  | taken d q m there =>
    simp only [Log.note, of_queue_append, waiting_set there, before]
    by_cases same : d = e
    · subst e
      simp [of_queue_self, there]
    · simp [of_queue_other m same, same]

section
variable {qs : List (List M)} {log : Log M}

/-- A message went in if and only if it came out or still waits. -/
theorem arrived_iff (fifo : Fifo qs log) (d : Nat) (m : M) :
    (d, m) ∈ log.arrived ↔ (d, m) ∈ log.taken ∨ m ∈ qs.getD d [] := by
  rw [← mem_of_queue, fifo d, List.mem_append, mem_of_queue]

theorem taken_in_order (fifo : Fifo qs log) (d : Nat) :
    (ofQueue d log.taken).Sublist (ofQueue d log.arrived) := by
  rw [fifo d]
  exact List.sublist_append_left _ _

variable {K : Type v} {key : M → K}

/-- Messages that are told apart by their keys come out at most once. -/
theorem taken_once (fifo : Fifo qs log) (distinct : (log.arrived.map (key ·.2)).Nodup) :
    (log.taken.map (key ·.2)).Nodup := by
  have whole : log.arrived.Nodup := List.Nodup.of_map _ distinct
  have part : log.taken.Nodup := by
    rw [nodup_iff_of_queue] at whole ⊢
    intro d
    exact (whole d).sublist (taken_in_order fifo d)
  refine part.map_on ?_
  intro x hx y hy same
  have arrived : ∀ z ∈ log.taken, z ∈ log.arrived := by
    rintro ⟨d, m⟩ member
    exact (arrived_iff fifo d m).mpr (Or.inl member)
  exact List.inj_on_of_nodup_map distinct (arrived x hx) (arrived y hy) same

/-- A message that still waits shares its key with none that came out. -/
theorem waiting_not_taken (fifo : Fifo qs log) (distinct : (log.arrived.map (key ·.2)).Nodup)
    {d : Nat} {m : M} (waits : m ∈ qs.getD d []) : key m ∉ log.taken.map (key ·.2) := by
  intro member
  obtain ⟨⟨e, n⟩, out, same⟩ := List.mem_map.mp member
  have left := (arrived_iff fifo e n).mpr (Or.inl out)
  have right := (arrived_iff fifo d m).mpr (Or.inr waits)
  cases List.inj_on_of_nodup_map distinct left right same
  have once := (nodup_iff_of_queue log.arrived).mp (List.Nodup.of_map _ distinct) d
  rw [fifo d, List.nodup_append] at once
  exact once.2.2 m (mem_of_queue.mpr out) m waits rfl

end

end Queues
