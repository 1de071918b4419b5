import Mathlib.Data.List.Basic

/- String functions of the Rust standard library, read as functions on the list of
   characters. -/
namespace Text

/-- `str::split_once` on the characters. -/
def splitOnceChars (c : Char) : List Char → Option (List Char × List Char)
  | [] => none
  | d :: ds =>
    if d = c then some ([], ds)
    else (splitOnceChars c ds).map fun (before, after) => (d :: before, after)

def splitOnce (c : Char) (s : String) : Option (String × String) :=
  (splitOnceChars c s.toList).map fun (before, after) => (String.ofList before, String.ofList after)

/-- `str::split` at every occurrence of one character. -/
def split (c : Char) (s : String) : List String := (s.toList.splitOn c).map String.ofList

/-- `char::is_whitespace`, the Unicode property White_Space. -/
def isWhitespace (c : Char) : Bool :=
  (9 ≤ c.toNat && c.toNat ≤ 13) || (0x2000 ≤ c.toNat && c.toNat ≤ 0x200A) ||
    [0x20, 0x85, 0xA0, 0x1680, 0x2028, 0x2029, 0x202F, 0x205F, 0x3000].contains c.toNat

def trimChars (l : List Char) : List Char :=
  ((l.dropWhile isWhitespace).reverse.dropWhile isWhitespace).reverse

def trim (s : String) : String := String.ofList (trimChars s.toList)

def startsWith (s pattern : String) : Bool := pattern.toList.isPrefixOf s.toList

def containsChars (pattern : List Char) : List Char → Bool
  | [] => pattern.isPrefixOf []
  | c :: cs => pattern.isPrefixOf (c :: cs) || containsChars pattern cs

def contains (s pattern : String) : Bool := containsChars pattern.toList s.toList

/-- The characters before the first occurrence of a pattern. -/
def beforeFirst (pattern : List Char) : List Char → Option (List Char)
  | [] => if pattern.isPrefixOf [] then some [] else none
  | c :: cs =>
    if pattern.isPrefixOf (c :: cs) then some []
    else (beforeFirst pattern cs).map fun before => c :: before

theorem contains_chars_iff (pattern l : List Char) :
    containsChars pattern l = true ↔ (beforeFirst pattern l).isSome = true := by
  induction l with
  | nil => simp [containsChars, beforeFirst]
  | cons c cs ih =>
    unfold containsChars beforeFirst
    by_cases here : pattern.isPrefixOf (c :: cs) = true
    · simp [here]
    · simp [here, ih]

theorem before_first_some {pattern l before : List Char} (h : beforeFirst pattern l = some before) :
    ∃ after, l = before ++ pattern ++ after := by
  induction l generalizing before with
  | nil =>
    unfold beforeFirst at h
    split at h
    · rename_i here
      cases h
      obtain ⟨after, eq⟩ := List.isPrefixOf_iff_prefix.mp here
      exact ⟨after, by simpa using eq.symm⟩
    · simp at h
  | cons c cs ih =>
    unfold beforeFirst at h
    split at h
    · rename_i here
      cases h
      obtain ⟨after, eq⟩ := List.isPrefixOf_iff_prefix.mp here
      exact ⟨after, by simpa using eq.symm⟩
    · obtain ⟨front, found, rfl⟩ := Option.map_eq_some_iff.mp h
      obtain ⟨after, eq⟩ := ih found
      exact ⟨after, by simp [eq]⟩

/-- A front without the first character of the pattern ends at the first occurrence. -/
theorem before_first_at {c : Char} {pattern before : List Char} (after : List Char)
    (absent : c ∉ before) :
    beforeFirst (c :: pattern) (before ++ (c :: pattern) ++ after) = some before := by
  induction before with
  | nil => simp [beforeFirst]
  | cons d before ih =>
    simp only [List.mem_cons, not_or] at absent
    have other : (c :: pattern).isPrefixOf (d :: (before ++ (c :: pattern) ++ after)) = false := by
      simp [List.isPrefixOf, absent.1]
    simp only [List.cons_append, beforeFirst, other]
    simpa using ih absent.2

theorem split_once_chars_at (c : Char) (before after : List Char) (absent : c ∉ before) :
    splitOnceChars c (before ++ c :: after) = some (before, after) := by
  induction before with
  | nil => simp [splitOnceChars]
  | cons d ds ih =>
    simp only [List.mem_cons, not_or] at absent
    simp [splitOnceChars, Ne.symm absent.1, ih absent.2]

theorem split_once_chars_none {c : Char} {l : List Char} (absent : c ∉ l) :
    splitOnceChars c l = none := by
  induction l with
  | nil => rfl
  | cons d ds ih =>
    simp only [List.mem_cons, not_or] at absent
    simp [splitOnceChars, Ne.symm absent.1, ih absent.2]

theorem split_once_chars_some {c : Char} {l before after : List Char}
    (h : splitOnceChars c l = some (before, after)) :
    c ∉ before ∧ l = before ++ c :: after := by
  induction l generalizing before with
  | nil => simp [splitOnceChars] at h
  | cons d ds ih =>
    unfold splitOnceChars at h
    split at h
    · rename_i eq
      simp only [Option.some.injEq, Prod.mk.injEq] at h
      obtain ⟨rfl, rfl⟩ := h
      simp [eq]
    · rename_i ne
      simp only [Option.map_eq_some_iff, Prod.exists, Prod.mk.injEq] at h
      obtain ⟨front, _, found, rfl, rfl⟩ := h
      obtain ⟨absent, rest⟩ := ih found
      exact ⟨by simp [absent, Ne.symm ne], by simp [rest]⟩

theorem split_once_at (c : Char) (before after : String) (absent : c ∉ before.toList) :
    splitOnce c (before ++ String.singleton c ++ after) = some (before, after) := by
  simp [splitOnce, split_once_chars_at c _ _ absent]

/-- The part before the split never contains the character split at. -/
theorem split_once_before {c : Char} {s before after : String}
    (h : splitOnce c s = some (before, after)) : c ∉ before.toList := by
  simp only [splitOnce, Option.map_eq_some_iff, Prod.exists, Prod.mk.injEq] at h
  obtain ⟨front, back, found, rfl, rfl⟩ := h
  simpa using (split_once_chars_some found).1

/-- No part of a split contains the character split at. -/
theorem mem_split_on {c : Char} {l part : List Char} (member : part ∈ l.splitOn c) : c ∉ part := by
  induction l generalizing part with
  | nil =>
    have only : part = [] := by simpa using member
    simp [only]
  | cons d l ih =>
    rw [List.splitOn_cons_eq_if_modifyHead] at member
    split at member
    · rcases List.mem_cons.mp member with rfl | later
      · simp
      · exact ih later
    · rename_i other
      obtain ⟨first, rest, parts⟩ := List.exists_cons_of_ne_nil (List.splitOn_ne_nil c l)
      rw [parts, List.modifyHead_cons] at member
      rcases List.mem_cons.mp member with rfl | later
      · have plain := ih (parts ▸ List.mem_cons_self)
        have ne : c ≠ d := fun same => other (beq_iff_eq.mpr same.symm)
        simp [plain, ne]
      · exact ih (parts ▸ List.mem_cons_of_mem first later)

example : splitOnce ' ' "Bearer a b" = some ("Bearer", "a b") := by decide

end Text
