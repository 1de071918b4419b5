import Mathlib.Data.List.Basic
import Mathlib.Data.List.Nodup

/- Tables with an integer primary key that the table hands out itself and never
   hands out twice. Row order is insertion order. -/
namespace KeyedTable

/- The well-formedness of a table is carried by its type: keys are distinct and
   below the next one. -/
structure Table (Row : Type) (key : Row → Int) where
  rows : List Row
  next : Int
  below : ∀ r ∈ rows, key r < next
  distinct : (rows.map key).Nodup

namespace Table
variable {Row : Type} {key : Row → Int}

def empty (start : Int) : Table Row key := ⟨[], start, by simp, by simp⟩

/-- The row stored under a key. -/
def find (t : Table Row key) (i : Int) : Option Row := t.rows.find? fun r => key r = i

/-- One row that satisfies a filter, the oldest. -/
def first (t : Table Row key) (p : Row → Bool) : Option Row := t.rows.find? p

def select (t : Table Row key) (p : Row → Bool) : List Row := t.rows.filter p

def affected (t : Table Row key) (p : Row → Bool) : Nat := (t.select p).length

def insert (t : Table Row key) (row : Int → Row) (keyed : ∀ i, key (row i) = i) :
    Table Row key where
  rows := t.rows ++ [row t.next]
  next := t.next + 1
  below := by
    intro r member
    rcases List.mem_append.mp member with old | new
    · have := t.below r old
      omega
    · rw [List.mem_singleton.mp new, keyed]
      omega
  distinct := by
    rw [List.map_append, List.nodup_append]
    refine ⟨t.distinct, by simp, ?_⟩
    intro k old l new
    obtain ⟨r, member, rfl⟩ := List.mem_map.mp old
    have bound := t.below r member
    simp only [List.map_cons, List.map_nil, List.mem_singleton, keyed] at new
    omega

def change (f : Row → Row) (p : Row → Bool) (r : Row) : Row := if p r then f r else r

theorem key_change {f : Row → Row} (keeps : ∀ r, key (f r) = key r) (p : Row → Bool) (r : Row) :
    key (change f p r) = key r := by
  unfold change
  split
  · exact keeps r
  · rfl

def update (t : Table Row key) (p : Row → Bool) (f : Row → Row)
    (keeps : ∀ r, key (f r) = key r) : Table Row key where
  rows := t.rows.map (change f p)
  next := t.next
  below := by
    intro r member
    obtain ⟨old, stored, rfl⟩ := List.mem_map.mp member
    rw [key_change keeps]
    exact t.below old stored
  distinct := by
    have same : (t.rows.map (change f p)).map key = t.rows.map key := by
      simp [Function.comp_def, key_change keeps]
    rw [same]
    exact t.distinct

def delete (t : Table Row key) (p : Row → Bool) : Table Row key where
  rows := t.rows.filter fun r => !p r
  next := t.next
  below := fun r member => t.below r (List.mem_filter.mp member).1
  distinct := (List.filter_sublist.map key).nodup t.distinct

theorem find_some {t : Table Row key} {i : Int} {r : Row} (h : t.find i = some r) :
    r ∈ t.rows ∧ key r = i :=
  ⟨List.mem_of_find?_eq_some h, by simpa using List.find?_some h⟩

theorem first_some {t : Table Row key} {p : Row → Bool} {r : Row} (h : t.first p = some r) :
    r ∈ t.rows ∧ p r = true :=
  ⟨List.mem_of_find?_eq_some h, List.find?_some h⟩

theorem same_key {t : Table Row key} {r s : Row} (hr : r ∈ t.rows) (hs : s ∈ t.rows)
    (same : key r = key s) : r = s :=
  List.inj_on_of_nodup_map t.distinct hr hs same

theorem find_mem {t : Table Row key} {r : Row} (member : r ∈ t.rows) :
    t.find (key r) = some r := by
  cases h : t.find (key r) with
  | none =>
    have absent := List.find?_eq_none.mp h r member
    simp at absent
  | some s =>
    obtain ⟨stored, same⟩ := find_some h
    rw [same_key stored member same]

theorem find_none_iff {t : Table Row key} {i : Int} :
    t.find i = none ↔ ∀ r ∈ t.rows, key r ≠ i := by
  simp [find]

theorem find_lt {t : Table Row key} {i : Int} {r : Row} (h : t.find i = some r) : i < t.next := by
  obtain ⟨member, rfl⟩ := find_some h
  exact t.below r member

theorem find_insert (t : Table Row key) (row : Int → Row) (keyed : ∀ i, key (row i) = i)
    (i : Int) : (t.insert row keyed).find i =
      if i = t.next then some (row t.next) else t.find i := by
  by_cases eq : i = t.next
  · have absent : t.rows.find? (fun r => key r = i) = none := by
      refine List.find?_eq_none.mpr fun r member => ?_
      have := t.below r member
      simp only [decide_eq_true_eq]
      omega
    simp only [find, insert, List.find?_append, absent]
    simp [keyed, eq]
  · have other : t.next ≠ i := Ne.symm eq
    simp [find, insert, List.find?_append, keyed, eq, other]

theorem find_update (t : Table Row key) (p : Row → Bool) (f : Row → Row)
    (keeps : ∀ r, key (f r) = key r) (i : Int) :
    (t.update p f keeps).find i = (t.find i).map (change f p) := by
  have same : (fun r => decide (key r = i)) ∘ change f p = fun r => decide (key r = i) := by
    funext r
    exact congrArg (fun k => decide (k = i)) (key_change keeps p r)
  simp only [find, update, List.find?_map, same]

theorem find_delete (t : Table Row key) (p : Row → Bool) (i : Int) :
    (t.delete p).find i = (t.find i).filter fun r => !p r := by
  cases h : t.find i with
  | none =>
    refine find_none_iff.mpr fun r member => ?_
    exact find_none_iff.mp h r (List.mem_filter.mp member).1
  | some r =>
    obtain ⟨member, rfl⟩ := find_some h
    cases hit : p r with
    | false =>
      have kept : r ∈ (t.delete p).rows := List.mem_filter.mpr ⟨member, by simp [hit]⟩
      simp only [find_mem kept, Option.filter_some, hit, Bool.not_false, ↓reduceIte]
    | true =>
      simp only [Option.filter_some, hit]
      refine find_none_iff.mpr fun s stays same => ?_
      obtain ⟨stored, kept⟩ := List.mem_filter.mp stays
      rw [same_key stored member same, hit] at kept
      simp at kept

theorem affected_pos {t : Table Row key} {p : Row → Bool} :
    0 < t.affected p ↔ ∃ r ∈ t.rows, p r = true := by
  simp [affected, select, List.length_pos_iff_exists_mem]

end Table
end KeyedTable
