import SparkPlug.ConfigLayers

/-!
Values that are lists with a comma between the entries. Two loops of a launch append
to such a value, and only the later one looks whether it is empty.
-/
namespace SparkPlug
open Text

/-- The entries of a value. An empty value has none, as has an absent one. -/
def entriesOf (value : Option String) : List String :=
  match value with
  | none => []
  | some value => if value = "" then [] else split ',' value

/-- What was there before with the entries to merge behind it, unless it is overridden. -/
def layeredEntries (base merge override : Option String) : List String :=
  match override with
  | some value => entriesOf (some value)
  | none => entriesOf base ++ entriesOf merge

def venvArchive (venvTarball : Option String) : Option String :=
  venvTarball.map fun venvTarball => venvTarball ++ "#environment"

/-- The value of a key that the merge loop finds. -/
def baseConfig (version : SparkVersion) (userConfig : HashMap) (key : String) : Option String :=
  (userConfig.lookup key).or (version.default key)

/-- No empty value meets another one in the merge loop, unless both are overridden. -/
def MergesFilled (version : SparkVersion) (userConfig : HashMap) : Prop :=
  ∀ key existing appended, baseConfig version userConfig key = some existing →
    version.merge key = some appended → version.override key = none →
      existing ≠ "" ∧ appended ≠ ""

/-- `built` and `final` are the map of the layers and the one that is submitted. -/
structure AppendsLists (version : SparkVersion) (userConfig : HashMap)
    (venvTarball : Option String) (built final : HashMap) : Prop where
  merged : ∀ key, entriesOf (built.lookup key) =
    layeredEntries (baseConfig version userConfig key) (version.merge key) (version.override key)
  archived : entriesOf (final.lookup ARCHIVES_CONFIG) =
    entriesOf (built.lookup ARCHIVES_CONFIG) ++ entriesOf (venvArchive venvTarball)
  sequence : entriesOf (final.lookup ARCHIVES_CONFIG) =
    layeredEntries (baseConfig version userConfig ARCHIVES_CONFIG)
      (version.merge ARCHIVES_CONFIG) (version.override ARCHIVES_CONFIG) ++
        entriesOf (venvArchive venvTarball)
  emptyMerged : ∀ key appended, baseConfig version userConfig key = some "" →
    version.merge key = some appended → version.override key = none →
      built.lookup key = some appended
  emptyArchived : ∀ archive, built.lookup ARCHIVES_CONFIG = some "" →
    venvArchive venvTarball = some archive → final.lookup ARCHIVES_CONFIG = some archive
  noneEmpty : ∀ key, "" ∈ entriesOf (built.lookup key) →
    "" ∈ entriesOf (baseConfig version userConfig key) ∨ "" ∈ entriesOf (version.merge key) ∨
      "" ∈ entriesOf (version.override key)
  noArchiveEmpty : "" ∈ entriesOf (final.lookup ARCHIVES_CONFIG) →
    "" ∈ entriesOf (built.lookup ARCHIVES_CONFIG) ∨ "" ∈ entriesOf (venvArchive venvTarball)

/- One append. -/

theorem split_comma (existing appended : String) :
    split ',' (existing ++ "," ++ appended) = split ',' existing ++ split ',' appended := by
  unfold split
  have chars : (existing ++ "," ++ appended).toList =
      existing.toList ++ ',' :: appended.toList := by simp
  rw [chars, List.splitOn_append_cons_self, List.map_append]

theorem split_filled (value : String) : 0 < (split ',' value).length := by
  unfold split
  rw [List.length_map]
  exact List.length_pos_of_ne_nil (List.splitOn_ne_nil ',' value.toList)

theorem entries_filled {value : String} (filled : value ≠ "") :
    entriesOf (some value) = split ',' value := by
  unfold entriesOf
  exact if_neg filled

theorem entries_length (value : String) :
    (entriesOf (some value)).length ≤ (split ',' value).length := by
  by_cases empty : value = ""
  · simp [entriesOf, empty]
  · rw [entries_filled empty]

theorem joined_filled (existing appended : String) : existing ++ "," ++ appended ≠ "" := by
  intro empty
  have length := congrArg String.length empty
  simp at length

/-- Joining two values at a comma joins their lists exactly when neither is empty. -/
theorem joined_entries_iff (existing appended : String) :
    entriesOf (some (existing ++ "," ++ appended)) =
        entriesOf (some existing) ++ entriesOf (some appended) ↔
      existing ≠ "" ∧ appended ≠ "" := by
  rw [entries_filled (joined_filled existing appended), split_comma]
  constructor
  · intro same
    have lengths := congrArg List.length same
    simp only [List.length_append] at lengths
    have before := entries_length existing
    have behind := entries_length appended
    constructor
    · intro empty
      have slot := split_filled existing
      have gone : (entriesOf (some existing)).length = 0 := by simp [entriesOf, empty]
      omega
    · intro empty
      have slot := split_filled appended
      have gone : (entriesOf (some appended)).length = 0 := by simp [entriesOf, empty]
      omega
  · intro filled
    rw [entries_filled filled.1, entries_filled filled.2]

/- The merge loop. -/

theorem append_config_entries {base merge : Option String}
    (filled : ∀ existing appended, base = some existing → merge = some appended →
      existing ≠ "" ∧ appended ≠ "") :
    entriesOf (appendConfig base merge) = entriesOf base ++ entriesOf merge := by
  cases merge with
  | none => simp [appendConfig, entriesOf]
  | some appended =>
    cases base with
    | none => simp [appendConfig, entriesOf]
    | some existing =>
      exact (joined_entries_iff existing appended).mpr (filled existing appended rfl rfl)

theorem build_conf_entries (o : IterationOrder) {version : SparkVersion} {userConfig : HashMap}
    (filled : MergesFilled version userConfig) (key : String) :
    entriesOf ((buildConf o version userConfig).lookup key) =
      layeredEntries (baseConfig version userConfig key) (version.merge key)
        (version.override key) := by
  rw [build_conf_lookup]
  unfold layered layeredEntries
  cases overridden : version.override key with
  | some value => rfl
  | none =>
    rw [Option.none_or]
    apply append_config_entries
    intro existing appended base merge
    exact filled key existing appended base merge overridden

/-- The law on one key tells what the merge loop has met there. -/
theorem build_conf_filled (o : IterationOrder) {version : SparkVersion} {userConfig : HashMap}
    {key existing appended : String}
    (law : entriesOf ((buildConf o version userConfig).lookup key) =
      layeredEntries (baseConfig version userConfig key) (version.merge key)
        (version.override key))
    (base : baseConfig version userConfig key = some existing)
    (merge : version.merge key = some appended) (plain : version.override key = none) :
    existing ≠ "" ∧ appended ≠ "" := by
  rw [build_conf_lookup] at law
  unfold baseConfig at base
  simp only [layered, layeredEntries, baseConfig, base, merge, plain, Option.none_or] at law
  exact (joined_entries_iff existing appended).mp law

theorem layered_empty_entry {base merge override : Option String}
    (member : "" ∈ layeredEntries base merge override) :
    "" ∈ entriesOf base ∨ "" ∈ entriesOf merge ∨ "" ∈ entriesOf override := by
  unfold layeredEntries at member
  cases override with
  | some value => exact Or.inr (Or.inr member)
  | none =>
    rcases List.mem_append.mp member with base | merge
    · exact Or.inl base
    · exact Or.inr (Or.inl merge)

/- The archive of the environment. -/

theorem archive_filled (venvTarball : String) : venvTarball ++ "#environment" ≠ "" := by
  intro empty
  have length := congrArg String.length empty
  have archive : "#environment".length = 12 := rfl
  rw [String.length_append, archive] at length
  simp at length

theorem set_venv_lookup (configs : HashMap) (venvTarball : String) :
    (setVenv configs (some venvTarball)).lookup ARCHIVES_CONFIG =
      if (configs.lookup ARCHIVES_CONFIG).getD "" = "" then some (venvTarball ++ "#environment")
      else appendConfig (configs.lookup ARCHIVES_CONFIG)
        (some (venvTarball ++ "#environment")) := by
  have other : ARCHIVES_CONFIG ≠ PYTHON_CONFIG := by decide
  unfold setVenv
  rw [AList.lookup_insert_ne other, AList.lookup_insert]
  cases configs.lookup ARCHIVES_CONFIG with
  | none => rfl
  | some archives =>
    by_cases empty : archives = ""
    · simp [empty]
    · simp [empty, appendConfig]

theorem set_venv_entries (configs : HashMap) (venvTarball : Option String) :
    entriesOf ((setVenv configs venvTarball).lookup ARCHIVES_CONFIG) =
      entriesOf (configs.lookup ARCHIVES_CONFIG) ++ entriesOf (venvArchive venvTarball) := by
  cases venvTarball with
  | none => simp [setVenv, venvArchive, entriesOf]
  | some venvTarball =>
    rw [set_venv_lookup]
    cases configs.lookup ARCHIVES_CONFIG with
    | none => simp [venvArchive, entriesOf]
    | some archives =>
      by_cases empty : archives = ""
      · simp [empty, venvArchive, entriesOf]
      · rw [if_neg (by simpa using empty)]
        exact (joined_entries_iff archives _).mpr ⟨empty, archive_filled venvTarball⟩

/-- Nothing between the layers and the environment writes the archives. -/
theorem submit_archives (o : IterationOrder) (self : SparkLauncher) (version : SparkVersion)
    (sessionId : Int) (appName : Option String) (token : String) (userConfig : HashMap) :
    (extend (setAppName (buildConf o version userConfig) sessionId appName)
      (internalConfigs self token)).lookup ARCHIVES_CONFIG =
        (buildConf o version userConfig).lookup ARCHIVES_CONFIG := by
  have foreign : ARCHIVES_CONFIG ∉ (internalConfigs self token).map (·.1) := by
    simp only [internalConfigs, List.map_cons, List.map_nil]
    decide
  have other : ARCHIVES_CONFIG ≠ APP_NAME_CONFIG := by decide
  rw [lookup_extend_other _ _ foreign]
  unfold setAppName
  cases appName with
  | some appName => exact AList.lookup_insert_ne other
  | none =>
    by_cases named : APP_NAME_CONFIG ∈ buildConf o version userConfig
    · rw [if_pos named]
    · rw [if_neg named, AList.lookup_insert_ne other]

/-- Both appends join the lists exactly when the merge loop meets no empty value. -/
theorem appends_lists_iff (o : IterationOrder) (self : SparkLauncher) (version : SparkVersion)
    (sessionId : Int) (appName : Option String) (token : String) (userConfig : HashMap)
    (venvTarball : Option String) :
    AppendsLists version userConfig venvTarball (buildConf o version userConfig)
        (submitConfigs o self version sessionId appName token userConfig venvTarball) ↔
      MergesFilled version userConfig := by
  constructor
  · intro law key existing appended base merge plain
    exact build_conf_filled o (law.merged key) base merge plain
  · intro filled
    have merged := build_conf_entries o filled
    have archived := set_venv_entries
      (extend (setAppName (buildConf o version userConfig) sessionId appName)
        (internalConfigs self token)) venvTarball
    rw [submit_archives] at archived
    refine ⟨merged, archived, ?_, ?_, ?_, ?_, ?_⟩
    · rw [← merged ARCHIVES_CONFIG]
      exact archived
    · intro key appended base merge plain
      exact absurd rfl (filled key "" appended base merge plain).1
    · intro archive empty given
      obtain ⟨venvTarball, rfl, rfl⟩ := Option.map_eq_some_iff.mp given
      unfold submitConfigs
      rw [set_venv_lookup, submit_archives, empty]
      rfl
    · intro key member
      rw [merged key] at member
      exact layered_empty_entry member
    · intro member
      have joined : "" ∈ entriesOf ((buildConf o version userConfig).lookup ARCHIVES_CONFIG) ++
          entriesOf (venvArchive venvTarball) := by
        rw [← archived]
        exact member
      exact List.mem_append.mp joined

def archivesUserConfig : HashMap := (∅ : HashMap).insert ARCHIVES_CONFIG ""

def archivesVersion : SparkVersion :=
  { home := "/opt/spark"
    mergeConfigs := some ((∅ : HashMap).insert ARCHIVES_CONFIG "s3a://bucket/common.tgz") }

/-- The merge loop leaves an empty entry in front, where the environment would not. -/
theorem empty_archives_merged : ∃ path args,
    buildSubmitCommand insertionOrder testLauncher archivesVersion 1 none "alice" "abcd"
      archivesUserConfig (some "/tmp/env.tgz") = .ok (path, args) ∧
    "spark.archives=,s3a://bucket/common.tgz,/tmp/env.tgz#environment" ∈ args ∧
    ¬ AppendsLists archivesVersion archivesUserConfig (some "/tmp/env.tgz")
      (buildConf insertionOrder archivesVersion archivesUserConfig)
      (submitConfigs insertionOrder testLauncher archivesVersion 1 none "abcd" archivesUserConfig
        (some "/tmp/env.tgz")) := by
  refine ⟨_, _, rfl, by decide, fun law => ?_⟩
  have sequence := law.sequence
  revert sequence
  decide

end SparkPlug
