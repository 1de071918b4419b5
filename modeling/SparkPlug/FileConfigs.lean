import SparkPlug.SubmitCommand

/-!
What the check of the file configs lets through. It looks for "://" anywhere in an
element and for one spelling of the file scheme at its start.
-/
namespace SparkPlug
open Text

/-- A scheme of RFC 3986. -/
def isScheme : List Char → Bool
  | [] => false
  | c :: cs => c.isAlpha && cs.all fun d => d.isAlphanum || d = '+' || d = '-' || d = '.'

def lowerCase (l : List Char) : List Char := l.map Char.toLower

def separator : List Char := "://".toList

def fileScheme : List Char := "file".toList

/-- The text begins with an explicit scheme that is not the one of local files. -/
def RemoteUri (element : String) : Prop :=
  ∃ scheme rest, element.toList = scheme ++ separator ++ rest ∧ isScheme scheme = true ∧
    lowerCase scheme ≠ fileScheme

/-- The elements of the file configs that are not blank, trimmed. -/
def fileElements (configs : HashMap) : List String :=
  fileConfigKeys.flatMap fun key =>
    (((configs.lookup key).elim [] (split ',')).map trim).filter fun element => !element.isEmpty

def AdmitsNoLocalFile (configs : HashMap) : Prop :=
  ∀ element ∈ fileElements configs, RemoteUri element

/-- There is no "://", or the element starts with "file://". -/
def Rejected (element : String) : Prop :=
  contains element "://" = false ∨ startsWith element "file://" = true

instance (element : String) : Decidable (Rejected element) :=
  inferInstanceAs (Decidable (contains element "://" = false ∨ startsWith element "file://" = true))

/-- What stands before the first "://" is no scheme, or the file scheme in another case. -/
def Slips (element : String) : Prop :=
  ∃ front ∈ beforeFirst separator element.toList, isScheme front = false ∨
    (lowerCase front = fileScheme ∧ front ≠ fileScheme)

instance (element : String) : Decidable (Slips element) :=
  inferInstanceAs (Decidable (∃ front ∈ beforeFirst separator element.toList,
    isScheme front = false ∨ (lowerCase front = fileScheme ∧ front ≠ fileScheme)))

/- One element. -/

theorem scheme_no_colon {scheme : List Char} (h : isScheme scheme = true) : ':' ∉ scheme := by
  cases scheme with
  | nil => simp
  | cons c cs =>
    simp only [isScheme, Bool.and_eq_true, List.all_eq_true] at h
    intro member
    rcases List.mem_cons.mp member with rfl | later
    · exact absurd h.1 (by decide)
    · exact absurd (h.2 ':' later) (by decide)

theorem scheme_before_separator {scheme rest : List Char} (h : isScheme scheme = true) :
    beforeFirst separator (scheme ++ separator ++ rest) = some scheme :=
  before_first_at rest (scheme_no_colon h)

theorem contains_iff (element : String) :
    contains element "://" = true ↔ ∃ front, beforeFirst separator element.toList = some front := by
  unfold contains
  rw [contains_chars_iff, Option.isSome_iff_exists]
  rfl

theorem starts_file_iff (element : String) :
    startsWith element "file://" = true ↔
      beforeFirst separator element.toList = some fileScheme := by
  unfold startsWith
  rw [List.isPrefixOf_iff_prefix]
  constructor
  · rintro ⟨rest, eq⟩
    rw [← eq]
    have scheme : isScheme fileScheme = true := by decide
    exact scheme_before_separator scheme
  · intro first
    obtain ⟨rest, eq⟩ := before_first_some first
    exact ⟨rest, eq.symm⟩

/-- A remote URI is accepted, and an accepted element is one unless it slips through. -/
theorem remote_uri_iff (element : String) :
    RemoteUri element ↔ ¬ Rejected element ∧ ¬ Slips element := by
  constructor
  · rintro ⟨scheme, rest, eq, valid, remote⟩
    have first : beforeFirst separator element.toList = some scheme := by
      rw [eq]
      exact scheme_before_separator valid
    constructor
    · rintro (plain | file)
      · have there := (contains_iff element).mpr ⟨scheme, first⟩
        simp [plain] at there
      · rw [starts_file_iff, first] at file
        cases file
        exact remote (by decide)
    · rintro ⟨front, found, slip⟩
      cases first.symm.trans found
      rcases slip with invalid | ⟨same, _⟩
      · simp [valid] at invalid
      · exact remote same
  · rintro ⟨accepted, sound⟩
    simp only [Rejected, not_or, Bool.not_eq_false] at accepted
    obtain ⟨front, first⟩ := (contains_iff element).mp accepted.1
    obtain ⟨rest, eq⟩ := before_first_some first
    have valid : isScheme front = true := by
      by_contra invalid
      exact sound ⟨front, first, Or.inl (by simpa using invalid)⟩
    refine ⟨front, rest, eq, valid, fun same => ?_⟩
    have file : front = fileScheme := by
      by_contra other
      exact sound ⟨front, first, Or.inr ⟨same, other⟩⟩
    rw [file] at first
    exact accepted.2 ((starts_file_iff element).mpr first)

/- A whole map. -/

theorem for_each_ok {α ε : Type} (l : List α) (f : α → Except ε Unit) :
    l.forM f = .ok () ↔ ∀ x ∈ l, f x = .ok () := by
  induction l with
  | nil => simp [pure, Except.pure]
  | cons x l ih =>
    have unrolled : (x :: l).forM f = (f x >>= fun _ => l.forM f) := rfl
    rw [unrolled]
    cases first : f x with
    | error e => simp [bind, Except.bind, first]
    | ok => simpa [bind, Except.bind, first] using ih

theorem validate_file_path_ok (key filePath : String) :
    validateFilePath key filePath = .ok () ↔
      (trim filePath).isEmpty = true ∨ ¬ Rejected (trim filePath) := by
  unfold validateFilePath Rejected
  by_cases blank : (trim filePath).isEmpty = true
  · simp [blank]
  · cases separated : contains (trim filePath) "://" with
    | false => simp [blank, separated]
    | true =>
      cases file : startsWith (trim filePath) "file://" with
      | false => simp [blank, separated, file]
      | true => simp [blank, separated, file]

theorem validate_file_configs_ok (configs : HashMap) :
    validateFileConfigs configs = .ok () ↔
      ∀ element ∈ fileElements configs, ¬ Rejected element := by
  unfold validateFileConfigs
  rw [for_each_ok]
  simp only [fileElements, List.mem_flatMap, List.mem_filter, List.mem_map]
  constructor
  · rintro valid element ⟨key, listed, ⟨filePath, there, rfl⟩, filled⟩
    have checked := valid key listed
    cases stored : configs.lookup key with
    | none => simp [stored] at there
    | some value =>
      simp only [stored, for_each_ok, validate_file_path_ok] at checked
      simp only [stored, Option.elim_some] at there
      rcases checked filePath there with blank | accepted
      · simp [blank] at filled
      · exact accepted
  · intro accepted key listed
    cases stored : configs.lookup key with
    | none => rfl
    | some value =>
      simp only [for_each_ok, validate_file_path_ok]
      intro filePath there
      by_cases blank : (trim filePath).isEmpty = true
      · exact Or.inl blank
      · have element : filePath ∈ (configs.lookup key).elim [] (split ',') := by
          rw [stored]
          exact there
        exact Or.inr (accepted _ ⟨key, listed, ⟨filePath, element, rfl⟩, by simp [blank]⟩)

/-- The check accepts exactly the maps without local files, unless every element passes and
one of them slips through. -/
theorem file_configs_law_iff (configs : HashMap) :
    (validateFileConfigs configs = .ok () ↔ AdmitsNoLocalFile configs) ↔
      (∀ element ∈ fileElements configs, ¬ Slips element) ∨
        ∃ element ∈ fileElements configs, Rejected element := by
  rw [validate_file_configs_ok]
  unfold AdmitsNoLocalFile
  constructor
  · intro law
    by_cases accepted : ∀ element ∈ fileElements configs, ¬ Rejected element
    · refine Or.inl fun element member => ?_
      exact ((remote_uri_iff element).mp (law.mp accepted element member)).2
    · refine Or.inr ?_
      by_contra none
      exact accepted fun element member rejected => none ⟨element, member, rejected⟩
  · intro condition
    constructor
    · intro accepted element member
      rcases condition with sound | ⟨other, listed, rejected⟩
      · exact (remote_uri_iff element).mpr ⟨accepted element member, sound element member⟩
      · exact absurd rejected (accepted other listed)
    · intro remote element member
      exact ((remote_uri_iff element).mp (remote element member)).1

example : ¬ Slips "s3a://bucket/env.tgz#env" := by decide
example : Slips "FILE:///etc/passwd" := by decide

/-- A plain path with "://" in its fragment. -/
def aliasedPath : HashMap := (∅ : HashMap).insert "spark.files" "/etc/passwd#a://b"

theorem aliased_path_accepted :
    validateFileConfigs aliasedPath = .ok () ∧
      "/etc/passwd#a://b" ∈ fileElements aliasedPath ∧ ¬ AdmitsNoLocalFile aliasedPath := by
  have listed : "/etc/passwd#a://b" ∈ fileElements aliasedPath := by decide
  refine ⟨by decide, listed, fun remote => ?_⟩
  have sound := ((remote_uri_iff _).mp (remote _ listed)).2
  revert sound
  decide

end SparkPlug
