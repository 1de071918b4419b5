import SparkPlug.ConfigLayers

/-!
The override configs of a version are written after the layers of the user, but
before the name of the application and the virtual environment.
-/
namespace SparkPlug
open CommandLine

/-- The arguments of a command that sets the entries of a map, in some order. -/
def Emits (launcher : SparkLauncher) (version : SparkVersion) (username : String)
    (configs : HashMap) (args : List String) : Prop :=
  ∃ entries : List Entry, entries.Perm configs.entries ∧
    args = render (submitOptions version username entries) ++ [launcher.pluginPath]

/-- What is written after the overrides leaves this one alone. -/
structure Untouched (key value : String) (appName venvTarball : Option String) : Prop where
  name : key = APP_NAME_CONFIG → ∀ name ∈ appName, name = value
  archives : key = ARCHIVES_CONFIG → venvTarball = none
  python : key = PYTHON_CONFIG → venvTarball = none ∨ value = "../environment/bin/python"

theorem untouched_archives {value : String} {appName venvTarball : Option String} :
    Untouched ARCHIVES_CONFIG value appName venvTarball ↔ venvTarball = none := by
  have unnamed : ARCHIVES_CONFIG ≠ APP_NAME_CONFIG := by decide
  constructor
  · intro untouched
    exact untouched.archives rfl
  · intro plain
    exact ⟨fun same => absurd same unnamed, fun _ => plain, fun _ => Or.inl plain⟩

theorem untouched_python {value : String} {appName venvTarball : Option String} :
    Untouched PYTHON_CONFIG value appName venvTarball ↔
      venvTarball = none ∨ value = "../environment/bin/python" := by
  have unnamed : PYTHON_CONFIG ≠ APP_NAME_CONFIG := by decide
  have other : PYTHON_CONFIG ≠ ARCHIVES_CONFIG := by decide
  constructor
  · intro untouched
    exact untouched.python rfl
  · intro kept
    exact ⟨fun same => absurd same unnamed, fun same => absurd same other, fun _ => kept⟩

theorem untouched_other {key value : String} {appName : Option String}
    (venvTarball : Option String) (archives : key ≠ ARCHIVES_CONFIG)
    (python : key ≠ PYTHON_CONFIG) :
    Untouched key value appName venvTarball ↔
      (if key = APP_NAME_CONFIG then appName.getD value else value) = value := by
  constructor
  · intro untouched
    by_cases name : key = APP_NAME_CONFIG
    · cases appName with
      | none => simp
      | some asked => simp [name, untouched.name name asked rfl]
    · simp [name]
  · intro kept
    refine ⟨fun name asked given => ?_, fun same => absurd same archives,
      fun same => absurd same python⟩
    rw [Option.mem_def] at given
    simpa [name, given] using kept

theorem build_conf_override (o : IterationOrder) {version : SparkVersion} (userConfig : HashMap)
    {override : HashMap} {key value : String} (configured : version.overrideConfigs = some override)
    (bound : override.lookup key = some value) :
    (buildConf o version userConfig).lookup key = some value := by
  rw [build_conf_lookup]
  simp [layered, SparkVersion.override, configured, bound]

theorem set_app_name_lookup {configs : HashMap} {key value : String} (sessionId : Int)
    (appName : Option String) (bound : configs.lookup key = some value) :
    (setAppName configs sessionId appName).lookup key =
      some (if key = APP_NAME_CONFIG then appName.getD value else value) := by
  have member : key ∈ configs := AList.lookup_isSome.mp (by simp [bound])
  unfold setAppName
  cases appName with
  | some name =>
    by_cases named : key = APP_NAME_CONFIG
    · subst named
      simp
    · simp [named, AList.lookup_insert_ne, bound]
  | none =>
    by_cases named : key = APP_NAME_CONFIG
    · subst named
      simp [member, bound]
    · by_cases there : APP_NAME_CONFIG ∈ configs
      · simp [there, named, bound]
      · simp [there, named, AList.lookup_insert_ne, bound]

/-- An archive of the environment is appended, so that the value gets longer. -/
theorem set_venv_archives {configs : HashMap} {value : String} (venvTarball : Option String)
    (bound : configs.lookup ARCHIVES_CONFIG = some value) :
    (setVenv configs venvTarball).lookup ARCHIVES_CONFIG = some value ↔ venvTarball = none := by
  cases venvTarball with
  | none => simp [setVenv, bound]
  | some venvTarball =>
    have other : ARCHIVES_CONFIG ≠ PYTHON_CONFIG := by decide
    simp only [setVenv, AList.lookup_insert_ne other, AList.lookup_insert, bound, reduceCtorEq,
      iff_false]
    intro same
    have length := congrArg (fun value => (value.getD "").length) same
    have appended : "#environment".length = 12 := rfl
    by_cases empty : value.isEmpty = true
    · simp_all
    · simp [empty] at length
      omega

theorem set_venv_python {configs : HashMap} {value : String} (venvTarball : Option String)
    (bound : configs.lookup PYTHON_CONFIG = some value) :
    (setVenv configs venvTarball).lookup PYTHON_CONFIG = some value ↔
      venvTarball = none ∨ value = "../environment/bin/python" := by
  cases venvTarball with
  | none => simp [setVenv, bound]
  | some venvTarball =>
    simp only [setVenv, AList.lookup_insert, Option.some.injEq, reduceCtorEq, false_or]
    exact eq_comm

section
variable {o : IterationOrder} {self : SparkLauncher} {version : SparkVersion} {sessionId : Int}
  {appName : Option String} {username token : String} {userConfig : HashMap}
  {venvTarball : Option String} {path : String} {args : List String}

theorem submit_command_emits
    (h : buildSubmitCommand o self version sessionId appName username token userConfig
      venvTarball = .ok (path, args)) :
    Emits self version username
      (submitConfigs o self version sessionId appName token userConfig venvTarball) args :=
  ⟨_, o.perm .submitArgs _, command_args h⟩

/-- The value of an override just before the environment is added. -/
theorem named_override (o : IterationOrder) (sessionId : Int) (appName : Option String)
    (userConfig : HashMap) {override : HashMap} {key value : String}
    (configured : version.overrideConfigs = some override)
    (bound : override.lookup key = some value)
    (foreign : key ∉ (internalConfigs self token).map (·.1)) :
    (extend (setAppName (buildConf o version userConfig) sessionId appName)
      (internalConfigs self token)).lookup key =
        some (if key = APP_NAME_CONFIG then appName.getD value else value) := by
  rw [lookup_extend_other _ _ foreign]
  exact set_app_name_lookup sessionId appName (build_conf_override o userConfig configured bound)

/-- An override reaches the command exactly when neither the name of the request nor its
virtual environment writes the same key. -/
theorem override_wins_iff
    (h : buildSubmitCommand o self version sessionId appName username token userConfig
      venvTarball = .ok (path, args))
    {override : HashMap} {key value : String} (configured : version.overrideConfigs = some override)
    (bound : override.lookup key = some value)
    (foreign : key ∉ (internalConfigs self token).map (·.1)) :
    Emits self version username
        (submitConfigs o self version sessionId appName token userConfig venvTarball) args ∧
      ((submitConfigs o self version sessionId appName token userConfig venvTarball).lookup key =
        some value ↔ Untouched key value appName venvTarball) := by
  refine ⟨submit_command_emits h, ?_⟩
  have named := named_override o sessionId appName userConfig configured bound foreign
  unfold submitConfigs
  by_cases archives : key = ARCHIVES_CONFIG
  · subst archives
    rw [if_neg (by decide)] at named
    rw [set_venv_archives venvTarball named, untouched_archives]
  · by_cases python : key = PYTHON_CONFIG
    · subst python
      rw [if_neg (by decide)] at named
      rw [set_venv_python venvTarball named, untouched_python]
    · rw [lookup_set_venv venvTarball archives python, named, Option.some.injEq,
        untouched_other venvTarball archives python]

end

def overrideConfigs : HashMap := (∅ : HashMap).insert APP_NAME_CONFIG "managed"

def overridingVersion : SparkVersion :=
  { home := "/opt/spark", overrideConfigs := some overrideConfigs }

/-- An unnamed request with a virtual environment keeps the configured name. -/
theorem unnamed_request_overridden : ∃ path args,
    buildSubmitCommand insertionOrder testLauncher overridingVersion 1 none "alice" "abcd"
      testUserConfig (some "/tmp/env.tgz") = .ok (path, args) ∧
    (submitConfigs insertionOrder testLauncher overridingVersion 1 none "abcd" testUserConfig
      (some "/tmp/env.tgz")).lookup APP_NAME_CONFIG = some "managed" := by
  obtain ⟨path, args, built⟩ : ∃ path args,
      buildSubmitCommand insertionOrder testLauncher overridingVersion 1 none "alice" "abcd"
        testUserConfig (some "/tmp/env.tgz") = .ok (path, args) := ⟨_, _, rfl⟩
  have bound : overrideConfigs.lookup APP_NAME_CONFIG = some "managed" := by decide
  have foreign : APP_NAME_CONFIG ∉ (internalConfigs testLauncher "abcd").map (·.1) := by decide
  refine ⟨path, args, built, (override_wins_iff built rfl bound foreign).2.mpr ?_⟩
  exact ⟨by simp, by decide, by decide⟩

/-- The name of a request replaces the one that the administrator has set. -/
theorem request_renames_override : ∃ path args,
    buildSubmitCommand insertionOrder testLauncher overridingVersion 1 (some "mine") "alice" "abcd"
      testUserConfig none = .ok (path, args) ∧
    overridingVersion.overrideConfigs = some overrideConfigs ∧
    overrideConfigs.lookup APP_NAME_CONFIG = some "managed" ∧
    APP_NAME_CONFIG ∉ (internalConfigs testLauncher "abcd").map (·.1) ∧
    "spark.app.name=mine" ∈ args ∧
    (submitConfigs insertionOrder testLauncher overridingVersion 1 (some "mine") "abcd"
      testUserConfig none).lookup APP_NAME_CONFIG ≠ some "managed" :=
  ⟨_, _, rfl, rfl, rfl, by decide, by decide, by decide⟩

end SparkPlug
