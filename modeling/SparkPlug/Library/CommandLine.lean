import SparkPlug.Library.Text

/- Command lines of options, each followed by its operand, and operands that set a
   key to a value. Reading stops at the first argument that is not an option. -/
namespace CommandLine
open Text

def isOption (arg : String) : Bool := startsWith arg "-"

def readOptions : List String → Option (List (String × String) × List String)
  | [] => some ([], [])
  | [arg] => if isOption arg then none else some ([], [arg])
  | arg :: operand :: rest =>
    if isOption arg then
      (readOptions rest).map fun (options, others) => ((arg, operand) :: options, others)
    else some ([], arg :: operand :: rest)

def render (options : List (String × String)) : List String :=
  options.flatMap fun o => [o.1, o.2]

/-- The settings made by the operands of one option; none if an operand sets nothing. -/
def readSettings (flag : String) (separator : Char) :
    List (String × String) → Option (List (String × String))
  | [] => some []
  | (name, operand) :: rest =>
    if name = flag then
      match splitOnce separator operand, readSettings flag separator rest with
      | some setting, some settings => some (setting :: settings)
      | _, _ => none
    else readSettings flag separator rest

def assign (separator : Char) (entry : String × String) : String :=
  entry.1 ++ String.singleton separator ++ entry.2

theorem render_append (first second : List (String × String)) :
    render (first ++ second) = render first ++ render second := List.flatMap_append

theorem read_render (options : List (String × String)) (others : List String)
    (names : ∀ o ∈ options, isOption o.1 = true) :
    readOptions (render options ++ others) =
      (readOptions others).map fun read => (options ++ read.1, read.2) := by
  induction options with
  | nil => simp [render]
  | cons o options ih =>
    have first := names o (by simp)
    have rest := ih fun p hp => names p (by simp [hp])
    simp only [render, List.flatMap_cons, List.cons_append, List.nil_append] at rest ⊢
    simp only [readOptions, first, ↓reduceIte, rest, Option.map_map]
    rfl

theorem read_one (arg : String) :
    readOptions [arg] = if isOption arg then none else some ([], [arg]) := rfl

theorem settings_append (flag : String) (separator : Char) (xs ys : List (String × String)) :
    readSettings flag separator (xs ++ ys) =
      (readSettings flag separator xs).bind fun first =>
        (readSettings flag separator ys).map fun second => first ++ second := by
  induction xs with
  | nil => simp [readSettings]
  | cons x xs ih =>
    obtain ⟨name, operand⟩ := x
    simp only [List.cons_append, readSettings, ih]
    split
    · cases splitOnce separator operand <;> cases readSettings flag separator xs <;>
        cases readSettings flag separator ys <;> simp
    · rfl

/-- Operands of other options set nothing. -/
theorem settings_others (flag : String) (separator : Char) (options : List (String × String))
    (others : ∀ o ∈ options, o.1 ≠ flag) : readSettings flag separator options = some [] := by
  induction options with
  | nil => rfl
  | cons o options ih =>
    have first := others o (by simp)
    have rest := ih fun p hp => others p (by simp [hp])
    simp [readSettings, first, rest]

theorem settings_assign (flag : String) (separator : Char) (entries : List (String × String))
    (keys : ∀ e ∈ entries, separator ∉ e.1.toList) :
    readSettings flag separator (entries.map fun e => (flag, assign separator e)) =
      some entries := by
  induction entries with
  | nil => rfl
  | cons e entries ih =>
    have first := split_once_at separator e.1 e.2 (keys e (by simp))
    have rest := ih fun f hf => keys f (by simp [hf])
    simp only [List.map_cons, readSettings, assign, ↓reduceIte, first]
    simp only [assign] at rest
    rw [rest]

/-- No key that is read contains the separator, whatever was written. -/
theorem settings_key {flag : String} {separator : Char} {options settings : List (String × String)}
    (h : readSettings flag separator options = some settings) :
    ∀ e ∈ settings, separator ∉ e.1.toList := by
  induction options generalizing settings with
  | nil =>
    cases h
    simp
  | cons o options ih =>
    obtain ⟨name, operand⟩ := o
    simp only [readSettings] at h
    split at h
    · split at h
      · rename_i setting rest first others
        cases h
        intro e member
        rcases List.mem_cons.mp member with eq | later
        · subst e
          exact split_once_before first
        · exact ih others e later
      · simp at h
    · exact ih h

end CommandLine
