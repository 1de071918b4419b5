import SparkPlug.Launcher

/-!
What spark-submit reads from the arguments of a launch. A key that contains '='
is split inside the key, so that it sets another key than the one configured.
-/
namespace SparkPlug
open Text CommandLine

def optionName (name : String) (operand : Option String) : List String :=
  (operand.map fun _ => name).toList

/-- The options that the server means to pass, by name. -/
def optionNames (version : SparkVersion) (configs : HashMap) : List String :=
  optionName "--master" version.master ++ optionName "--deploy-mode" version.deployMode ++
    List.replicate configs.entries.length "--conf" ++ ["--class"] ++
    if version.proxyUser.getD false then ["--proxy-user"] else []

def pairs (configs : HashMap) : List (String × String) := configs.entries.map fun e => (e.1, e.2)

/-- The arguments read as `options` that make `settings`, which are exactly `configs`. -/
structure Reading (launcher : SparkLauncher) (version : SparkVersion) (token : String)
    (configs : HashMap) (args : List String) (options settings : List (String × String)) :
    Prop where
  parsed : readOptions args = some (options, [launcher.pluginPath])
  last : args.getLast? = some launcher.pluginPath
  names : options.map (·.1) = optionNames version configs
  set : readSettings "--conf" '=' options = some settings
  same : settings.Perm (pairs configs)
  once : (settings.map (·.1)).Nodup
  internal : ∀ e ∈ internalConfigs launcher token, (e.1, e.2) ∈ settings

def ReadsBack (launcher : SparkLauncher) (version : SparkVersion) (token : String)
    (configs : HashMap) (args : List String) : Prop :=
  ∃ options settings, Reading launcher version token configs args options settings

/-- The keys of every map of configs that a launch starts from. -/
def configKeys (version : SparkVersion) (userConfig : HashMap) : List String :=
  (version.defaultConfigs.getD ∅).keys ++ userConfig.keys ++
    (version.mergeConfigs.getD ∅).keys ++ (version.overrideConfigs.getD ∅).keys

/- The keys of the assembled map. -/

theorem mem_extend (entries : List Entry) (configs : HashMap) (key : String) :
    key ∈ extend configs entries ↔ key ∈ configs ∨ key ∈ entries.map (·.1) := by
  unfold extend
  induction entries generalizing configs with
  | nil => simp
  | cons e entries ih =>
    rw [List.foldl_cons, ih, AList.mem_insert, List.map_cons, List.mem_cons]
    tauto

theorem mem_merge_config (configs : HashMap) (e : Entry) (key : String) :
    key ∈ mergeConfig configs e ↔ key = e.1 ∨ key ∈ configs := by
  unfold mergeConfig
  split
  · exact AList.mem_insert configs
  · exact AList.mem_insert configs

theorem mem_merge (entries : List Entry) (configs : HashMap) (key : String) :
    key ∈ entries.foldl mergeConfig configs ↔ key ∈ configs ∨ key ∈ entries.map (·.1) := by
  induction entries generalizing configs with
  | nil => simp
  | cons e entries ih =>
    rw [List.foldl_cons, ih, mem_merge_config, List.map_cons, List.mem_cons]
    tauto

theorem mem_order (o : IterationOrder) (loop : MapLoop) (configs : HashMap) (key : String) :
    key ∈ (o.order loop configs.entries).map (·.1) ↔ key ∈ configs :=
  ((o.perm loop configs.entries).map (·.1)).mem_iff

theorem mem_build_conf (o : IterationOrder) (version : SparkVersion) (userConfig : HashMap)
    (key : String) :
    key ∈ buildConf o version userConfig ↔ key ∈ configKeys version userConfig := by
  unfold buildConf configKeys
  cases version.mergeConfigs <;> cases version.overrideConfigs <;>
    simp [mem_extend, mem_merge, mem_order, ← AList.mem_keys, or_assoc]

theorem set_app_name_keeps {configs : HashMap} {key : String} (sessionId : Int)
    (appName : Option String) (member : key ∈ configs) :
    key ∈ setAppName configs sessionId appName := by
  unfold setAppName
  cases appName with
  | some appName => exact (AList.mem_insert configs).mpr (Or.inr member)
  | none =>
    by_cases named : APP_NAME_CONFIG ∈ configs
    · simpa [named] using member
    · simp [named, member]

theorem set_venv_keeps {configs : HashMap} {key : String} (venvTarball : Option String)
    (member : key ∈ configs) : key ∈ setVenv configs venvTarball := by
  cases venvTarball with
  | none => exact member
  | some venvTarball => simp [setVenv, member]

theorem config_key_set (o : IterationOrder) (self : SparkLauncher) (version : SparkVersion)
    (sessionId : Int) (appName : Option String) (token : String) (userConfig : HashMap)
    (venvTarball : Option String) {key : String} (member : key ∈ configKeys version userConfig) :
    key ∈ submitConfigs o self version sessionId appName token userConfig venvTarball := by
  have built := (mem_build_conf o version userConfig key).mpr member
  have named := set_app_name_keeps sessionId appName built
  exact set_venv_keeps venvTarball ((mem_extend _ _ _).mpr (Or.inl named))

theorem set_app_name_key {configs : HashMap} {key : String} {sessionId : Int}
    {appName : Option String} (member : key ∈ setAppName configs sessionId appName) :
    key = APP_NAME_CONFIG ∨ key ∈ configs := by
  unfold setAppName at member
  cases appName with
  | some appName => exact (AList.mem_insert configs).mp member
  | none =>
    by_cases named : APP_NAME_CONFIG ∈ configs
    · exact Or.inr (by simpa [named] using member)
    · simpa [named] using member

theorem set_venv_key {configs : HashMap} {key : String} {venvTarball : Option String}
    (member : key ∈ setVenv configs venvTarball) :
    key = PYTHON_CONFIG ∨ key = ARCHIVES_CONFIG ∨ key ∈ configs := by
  cases venvTarball with
  | none => exact Or.inr (Or.inr member)
  | some venvTarball => simpa [setVenv] using member

/-- The keys that the server adds itself can be read back. -/
theorem submit_key_readable (o : IterationOrder) (self : SparkLauncher) (version : SparkVersion)
    (sessionId : Int) (appName : Option String) (token : String) (userConfig : HashMap)
    (venvTarball : Option String)
    (readable : ∀ key ∈ configKeys version userConfig, '=' ∉ key.toList)
    {key : String}
    (member : key ∈ submitConfigs o self version sessionId appName token userConfig venvTarball) :
    '=' ∉ key.toList := by
  unfold submitConfigs at member
  rcases set_venv_key member with rfl | rfl | member
  · decide
  · decide
  · rcases (mem_extend _ _ _).mp member with member | internal
    · rcases set_app_name_key member with rfl | built
      · decide
      · exact readable key ((mem_build_conf o version userConfig key).mp built)
    · have plain : ∀ key ∈ (internalConfigs self token).map (·.1), '=' ∉ key.toList := by
        simp only [internalConfigs, List.map_cons, List.map_nil]
        decide
      exact plain key internal

/- The values of the internal configs. -/

theorem lookup_extend_other (entries : List Entry) (configs : HashMap) {key : String}
    (absent : key ∉ entries.map (·.1)) :
    (extend configs entries).lookup key = configs.lookup key := by
  unfold extend
  induction entries generalizing configs with
  | nil => rfl
  | cons e entries ih =>
    simp only [List.map_cons, List.mem_cons, not_or] at absent
    rw [List.foldl_cons, ih _ absent.2, AList.lookup_insert_ne absent.1]

theorem lookup_extend (entries : List Entry) (configs : HashMap)
    (distinct : (entries.map (·.1)).Nodup) {e : Entry} (member : e ∈ entries) :
    (extend configs entries).lookup e.1 = some e.2 := by
  induction entries generalizing configs with
  | nil => simp at member
  | cons first entries ih =>
    simp only [List.map_cons, List.nodup_cons] at distinct
    rcases List.mem_cons.mp member with eq | later
    · subst e
      have same := lookup_extend_other entries (configs.insert first.1 first.2) distinct.1
      exact same.trans (AList.lookup_insert configs)
    · exact ih (configs.insert first.1 first.2) distinct.2 later

theorem lookup_set_venv {configs : HashMap} {key : String} (venvTarball : Option String)
    (archives : key ≠ ARCHIVES_CONFIG) (python : key ≠ PYTHON_CONFIG) :
    (setVenv configs venvTarball).lookup key = configs.lookup key := by
  cases venvTarball with
  | none => rfl
  | some venvTarball =>
    unfold setVenv
    rw [AList.lookup_insert_ne python, AList.lookup_insert_ne archives]

theorem internal_lookup (o : IterationOrder) (self : SparkLauncher) (version : SparkVersion)
    (sessionId : Int) (appName : Option String) (token : String) (userConfig : HashMap)
    (venvTarball : Option String) {e : Entry} (member : e ∈ internalConfigs self token) :
    (submitConfigs o self version sessionId appName token userConfig venvTarball).lookup e.1 =
      some e.2 := by
  have distinct : ((internalConfigs self token).map (·.1)).Nodup := by
    simp only [internalConfigs, List.map_cons, List.map_nil]
    decide
  have foreign : ∀ key ∈ (internalConfigs self token).map (·.1),
      key ≠ ARCHIVES_CONFIG ∧ key ≠ PYTHON_CONFIG := by
    simp only [internalConfigs, List.map_cons, List.map_nil]
    decide
  have other := foreign e.1 (List.mem_map.mpr ⟨e, member, rfl⟩)
  have set := lookup_extend (internalConfigs self token)
    (setAppName (buildConf o version userConfig) sessionId appName) distinct member
  exact (lookup_set_venv venvTarball other.1 other.2).trans set

/- The argument list. -/

def optionPair (name : String) (operand : Option String) : List (String × String) :=
  (operand.map fun operand => (name, operand)).toList

/-- The options of the command, in their order. -/
def submitOptions (version : SparkVersion) (username : String) (entries : List Entry) :
    List (String × String) :=
  optionPair "--master" version.master ++ optionPair "--deploy-mode" version.deployMode ++
    (entries.map fun e => ("--conf", assign '=' (e.1, e.2))) ++ [("--class", SERVER_CLASS)] ++
    if version.proxyUser.getD false then [("--proxy-user", username)] else []

theorem render_option_pair (name : String) (operand : Option String) :
    render (optionPair name operand) = option name operand := by
  cases operand <;> rfl

theorem command_args {o : IterationOrder} {self : SparkLauncher} {version : SparkVersion}
    {sessionId : Int} {appName : Option String} {username token : String} {userConfig : HashMap}
    {venvTarball : Option String} {path : String} {args : List String}
    (h : buildSubmitCommand o self version sessionId appName username token userConfig
      venvTarball = .ok (path, args)) :
    args = render (submitOptions version username (o.order .submitArgs
      (submitConfigs o self version sessionId appName token userConfig venvTarball).entries)) ++
        [self.pluginPath] := by
  unfold buildSubmitCommand at h
  cases valid : validateFileConfigs userConfig with
  | error e =>
    rw [valid] at h
    simp [bind, Except.bind] at h
  | ok =>
    rw [valid] at h
    simp only [bind, Except.bind, pure, Except.pure, Except.ok.injEq, Prod.mk.injEq] at h
    obtain ⟨_, rfl⟩ := h
    simp only [submitOptions, render_append, render_option_pair]
    by_cases proxy : version.proxyUser.getD false = true
    · simp [proxy, render, assign, List.flatMap_map]
    · simp [proxy, render, assign, List.flatMap_map]

theorem option_pair_name {name : String} {operand : Option String} :
    ∀ o ∈ optionPair name operand, o.1 = name := by
  cases operand <;> simp [optionPair]

/-- Nothing but the names of the server stands in option position. -/
theorem submit_option_name (version : SparkVersion) (username : String) (entries : List Entry) :
    ∀ o ∈ submitOptions version username entries, isOption o.1 = true := by
  intro o member
  have names : ∀ name ∈ ["--master", "--deploy-mode", "--conf", "--class", "--proxy-user"],
      isOption name = true := by decide
  apply names
  simp only [submitOptions, List.mem_append, List.mem_map, List.mem_singleton] at member
  rcases member with (((master | deploy) | ⟨e, _, rfl⟩) | rfl) | proxy
  · simp [option_pair_name o master]
  · simp [option_pair_name o deploy]
  · simp
  · simp
  · by_cases asked : version.proxyUser.getD false = true
    · simp only [asked, ↓reduceIte, List.mem_singleton] at proxy
      simp [proxy]
    · simp [asked] at proxy

theorem submit_option_names (version : SparkVersion) (username : String) (configs : HashMap)
    {entries : List Entry} (same : entries.Perm configs.entries) :
    (submitOptions version username entries).map (·.1) = optionNames version configs := by
  have pair : ∀ name operand, (optionPair name operand).map (·.1) = optionName name operand := by
    intro name operand
    cases operand <;> rfl
  have confs : (entries.map fun e => ("--conf", assign '=' (e.1, e.2))).map (·.1) =
      List.replicate configs.entries.length "--conf" := by
    rw [List.map_map, ← same.length_eq]
    exact List.map_const'
  simp only [submitOptions, List.map_append, pair, confs, optionNames]
  by_cases asked : version.proxyUser.getD false = true
  · simp [asked]
  · simp [asked]

theorem submit_settings (version : SparkVersion) (username : String) (entries : List Entry)
    (readable : ∀ e ∈ entries, '=' ∉ e.1.toList) :
    readSettings "--conf" '=' (submitOptions version username entries) =
      some (entries.map fun e => (e.1, e.2)) := by
  have pair : ∀ name operand, name ≠ "--conf" →
      readSettings "--conf" '=' (optionPair name operand) = some [] := by
    intro name operand other
    apply settings_others
    intro o member
    rw [option_pair_name o member]
    exact other
  have confs := settings_assign "--conf" '=' (entries.map fun e => (e.1, e.2)) (by
    intro e member
    obtain ⟨entry, stored, rfl⟩ := List.mem_map.mp member
    exact readable entry stored)
  rw [List.map_map] at confs
  have master := pair "--master" version.master (by decide)
  have deploy := pair "--deploy-mode" version.deployMode (by decide)
  unfold Function.comp at confs
  by_cases asked : version.proxyUser.getD false = true
  · simp [submitOptions, settings_append, master, deploy, confs, asked, readSettings]
  · simp [submitOptions, settings_append, master, deploy, confs, asked, readSettings]

section
variable {o : IterationOrder} {self : SparkLauncher} {version : SparkVersion} {sessionId : Int}
  {appName : Option String} {username token : String} {userConfig : HashMap}
  {venvTarball : Option String} {path : String} {args : List String}

theorem readable_reading
    (h : buildSubmitCommand o self version sessionId appName username token userConfig
      venvTarball = .ok (path, args))
    (readable : ∀ key ∈ configKeys version userConfig, '=' ∉ key.toList)
    (plugin : isOption self.pluginPath = false) :
    ReadsBack self version token
      (submitConfigs o self version sessionId appName token userConfig venvTarball) args := by
  generalize built : submitConfigs o self version sessionId appName token userConfig venvTarball =
    configs
  have rendered := command_args h
  rw [built] at rendered
  have same := o.perm .submitArgs configs.entries
  generalize o.order .submitArgs configs.entries = entries at rendered same
  have keys : ∀ e ∈ entries, '=' ∉ e.1.toList := by
    intro e member
    apply submit_key_readable o self version sessionId appName token userConfig venvTarball readable
    rw [built]
    exact List.mem_map.mpr ⟨e, same.mem_iff.mp member, rfl⟩
  refine ⟨submitOptions version username entries, entries.map fun e => (e.1, e.2), ?_⟩
  constructor
  · rw [rendered, read_render _ _ (submit_option_name version username entries), read_one, plugin]
    simp
  · simp [rendered]
  · exact submit_option_names version username configs same
  · exact submit_settings version username entries keys
  · exact same.map _
  · have distinct : (configs.entries.map (·.1)).Nodup := configs.nodupKeys
    rw [List.map_map]
    exact (same.map (·.1)).nodup_iff.mpr distinct
  · intro e member
    have found := internal_lookup o self version sessionId appName token userConfig venvTarball
      member
    rw [built] at found
    have stored := AList.mem_lookup_iff.mp found
    exact List.mem_map.mpr ⟨e, same.mem_iff.mpr stored, rfl⟩

theorem reading_readable
    (h : buildSubmitCommand o self version sessionId appName username token userConfig
      venvTarball = .ok (path, args))
    (read : ReadsBack self version token
      (submitConfigs o self version sessionId appName token userConfig venvTarball) args) :
    (∀ key ∈ configKeys version userConfig, '=' ∉ key.toList) ∧
      isOption self.pluginPath = false := by
  obtain ⟨options, settings, reading⟩ := read
  constructor
  · intro key member
    have set := config_key_set o self version sessionId appName token userConfig venvTarball member
    obtain ⟨e, stored, rfl⟩ := List.mem_map.mp set
    have there : (e.1, e.2) ∈ settings :=
      reading.same.mem_iff.mpr (List.mem_map.mpr ⟨e, stored, rfl⟩)
    exact settings_key reading.set _ there
  · by_contra dashed
    have rendered := command_args h
    have parsed := reading.parsed
    rw [rendered, read_render _ _ (submit_option_name version username _), read_one] at parsed
    simp [dashed] at parsed

/-- The arguments read back as the assembled map exactly when no key contains '='
and the plugin path does not look like an option. -/
theorem submit_command_reads_back
    (h : buildSubmitCommand o self version sessionId appName username token userConfig
      venvTarball = .ok (path, args)) :
    ReadsBack self version token
        (submitConfigs o self version sessionId appName token userConfig venvTarball) args ↔
      (∀ key ∈ configKeys version userConfig, '=' ∉ key.toList) ∧
        isOption self.pluginPath = false := by
  constructor
  · exact reading_readable h
  · intro conditions
    exact readable_reading h conditions.1 conditions.2

end

def insertionOrder : IterationOrder := ⟨fun _ entries => entries, fun _ _ => List.Perm.refl _⟩

def testLauncher : SparkLauncher :=
  { callbackAddr := "http://localhost:8100", sessionTimeout := 60, pluginPath := "/path/to/plugin" }

/-- Configs of every kind, with '=' in a value. -/
def testVersion : SparkVersion :=
  { home := "/opt/spark", master := some "k8s://cluster", proxyUser := some true
    defaultConfigs := some ((∅ : HashMap).insert "spark.executor.cores" "2")
    mergeConfigs := some ((∅ : HashMap).insert "spark.driver.extraJavaOptions" "-Da=b")
    overrideConfigs := some ((∅ : HashMap).insert "spark.ui.enabled" "false") }

def testUserConfig : HashMap :=
  ((∅ : HashMap).insert "spark.executor.cores" "4").insert "spark.driver.extraJavaOptions" "-Dc=d"

theorem test_command_reads_back : ∃ path args,
    buildSubmitCommand insertionOrder testLauncher testVersion 1 none "alice" "abcd"
      testUserConfig (some "/tmp/env.tgz") = .ok (path, args) ∧
    ReadsBack testLauncher testVersion "abcd"
      (submitConfigs insertionOrder testLauncher testVersion 1 none "abcd" testUserConfig
        (some "/tmp/env.tgz")) args := by
  refine ⟨_, _, rfl, (submit_command_reads_back rfl).mpr ⟨?_, ?_⟩⟩
  · decide
  · decide

/-- The key ends in an assignment of its own. -/
def tokenUserConfig : HashMap :=
  (∅ : HashMap).insert "spark.connect.authenticate.token=mine" "x"

/-- The user sets the token a second time. -/
theorem user_sets_token : ∃ path args options settings,
    buildSubmitCommand insertionOrder testLauncher testVersion 1 none "alice" "abcd"
      tokenUserConfig none = .ok (path, args) ∧
    readOptions args = some (options, [testLauncher.pluginPath]) ∧
    readSettings "--conf" '=' options = some settings ∧
    (TOKEN_CONFIG, "abcd") ∈ settings ∧ (TOKEN_CONFIG, "mine=x") ∈ settings ∧
    ¬ ReadsBack testLauncher testVersion "abcd"
      (submitConfigs insertionOrder testLauncher testVersion 1 none "abcd" tokenUserConfig none)
      args := by
  refine ⟨_, _, _, _, rfl, rfl, rfl, by decide, by decide, fun read => ?_⟩
  have readable := (reading_readable rfl read).1
  revert readable
  decide

end SparkPlug
