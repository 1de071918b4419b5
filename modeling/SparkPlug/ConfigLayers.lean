import SparkPlug.SubmitCommand

/-!
The four layers of configs, key by key. What is written for one key depends on
the layers alone, in whatever order their maps are iterated.
-/
namespace SparkPlug
open Text

/- The value of a key before the merge loop and what the merge loop appends to it. -/
def appendConfig (base appended : Option String) : Option String :=
  match appended with
  | none => base
  | some appended =>
    match base with
    | some existing => some (existing ++ "," ++ appended)
    | none => some appended

/-- What the layers say together about one key. -/
def layered (fallback user merge override : Option String) : Option String :=
  override.or (appendConfig (user.or fallback) merge)

/- A loop over a map visits every key once, with the value bound to it. -/

theorem order_distinct (o : IterationOrder) (loop : MapLoop) (configs : HashMap) :
    ((o.order loop configs.entries).map (·.1)).Nodup := by
  have keys : (configs.entries.map (·.1)).Nodup := configs.nodupKeys
  exact ((o.perm loop configs.entries).map (·.1)).nodup_iff.mpr keys

theorem order_bound (o : IterationOrder) (loop : MapLoop) {configs : HashMap} {key value : String}
    (bound : configs.lookup key = some value) :
    (⟨key, value⟩ : Entry) ∈ o.order loop configs.entries :=
  (o.perm loop configs.entries).mem_iff.mpr (AList.mem_lookup_iff.mp bound)

theorem order_absent (o : IterationOrder) (loop : MapLoop) {configs : HashMap} {key : String}
    (absent : configs.lookup key = none) : key ∉ (o.order loop configs.entries).map (·.1) := by
  rw [mem_order]
  exact AList.lookup_eq_none.mp absent

theorem lookup_extend_order (o : IterationOrder) (loop : MapLoop) (configs layer : HashMap)
    (key : String) : (extend configs (o.order loop layer.entries)).lookup key =
      (layer.lookup key).or (configs.lookup key) := by
  cases bound : layer.lookup key with
  | none =>
    rw [lookup_extend_other _ _ (order_absent o loop bound), Option.none_or]
  | some value =>
    have member := order_bound o loop bound
    rw [lookup_extend _ _ (order_distinct o loop layer) member, Option.some_or]

/- The merge loop. -/

theorem lookup_merge_config (configs : HashMap) (e : Entry) :
    (mergeConfig configs e).lookup e.1 = appendConfig (configs.lookup e.1) (some e.2) := by
  unfold mergeConfig appendConfig
  cases configs.lookup e.1 with
  | none => exact AList.lookup_insert configs
  | some existing => exact AList.lookup_insert configs

theorem lookup_merge_config_other (configs : HashMap) {e : Entry} {key : String}
    (other : key ≠ e.1) : (mergeConfig configs e).lookup key = configs.lookup key := by
  unfold mergeConfig
  cases configs.lookup e.1 with
  | none => exact AList.lookup_insert_ne other
  | some existing => exact AList.lookup_insert_ne other

theorem lookup_merge_other (entries : List Entry) (configs : HashMap) {key : String}
    (absent : key ∉ entries.map (·.1)) :
    (entries.foldl mergeConfig configs).lookup key = configs.lookup key := by
  induction entries generalizing configs with
  | nil => rfl
  | cons e entries ih =>
    simp only [List.map_cons, List.mem_cons, not_or] at absent
    rw [List.foldl_cons, ih _ absent.2, lookup_merge_config_other configs absent.1]

/-- The round of a key finds the value from before the loop, and no later round changes it. -/
theorem lookup_merge (entries : List Entry) (configs : HashMap)
    (distinct : (entries.map (·.1)).Nodup) {e : Entry} (member : e ∈ entries) :
    (entries.foldl mergeConfig configs).lookup e.1 =
      appendConfig (configs.lookup e.1) (some e.2) := by
  induction entries generalizing configs with
  | nil => simp at member
  | cons first entries ih =>
    simp only [List.map_cons, List.nodup_cons] at distinct
    rw [List.foldl_cons]
    rcases List.mem_cons.mp member with eq | later
    · subst e
      rw [lookup_merge_other entries _ distinct.1, lookup_merge_config]
    · have other : e.1 ≠ first.1 := by
        intro same
        apply distinct.1
        rw [← same]
        exact List.mem_map.mpr ⟨e, later, rfl⟩
      rw [ih _ distinct.2 later, lookup_merge_config_other configs other]

theorem lookup_merge_order (o : IterationOrder) (loop : MapLoop) (configs layer : HashMap)
    (key : String) : ((o.order loop layer.entries).foldl mergeConfig configs).lookup key =
      appendConfig (configs.lookup key) (layer.lookup key) := by
  cases bound : layer.lookup key with
  | none => exact lookup_merge_other _ _ (order_absent o loop bound)
  | some value => exact lookup_merge _ _ (order_distinct o loop layer) (order_bound o loop bound)

/- All layers. -/

def SparkVersion.default (version : SparkVersion) (key : String) : Option String :=
  (version.defaultConfigs.getD ∅).lookup key

def SparkVersion.merge (version : SparkVersion) (key : String) : Option String :=
  (version.mergeConfigs.getD ∅).lookup key

def SparkVersion.override (version : SparkVersion) (key : String) : Option String :=
  (version.overrideConfigs.getD ∅).lookup key

theorem build_conf_lookup (o : IterationOrder) (version : SparkVersion) (userConfig : HashMap)
    (key : String) : (buildConf o version userConfig).lookup key =
      layered (version.default key) (userConfig.lookup key) (version.merge key)
        (version.override key) := by
  unfold buildConf layered SparkVersion.default SparkVersion.merge SparkVersion.override
  cases version.mergeConfigs with
  | none =>
    cases version.overrideConfigs with
    | none => simp [lookup_extend_order, appendConfig]
    | some override => simp [lookup_extend_order, appendConfig]
  | some merge =>
    cases version.overrideConfigs with
    | none => simp [lookup_extend_order, lookup_merge_order]
    | some override => simp [lookup_extend_order, lookup_merge_order]

/-- Every key has the value of its layers, and the keys are those of the layers. -/
theorem build_conf_layered (o : IterationOrder) (version : SparkVersion) (userConfig : HashMap) :
    (∀ key, (buildConf o version userConfig).lookup key =
      layered (version.default key) (userConfig.lookup key) (version.merge key)
        (version.override key)) ∧
    ∀ key, key ∈ buildConf o version userConfig ↔ key ∈ configKeys version userConfig := by
  constructor
  · intro key
    exact build_conf_lookup o version userConfig key
  · intro key
    exact mem_build_conf o version userConfig key

example : (buildConf insertionOrder testVersion testUserConfig).lookup
    "spark.driver.extraJavaOptions" = some "-Dc=d,-Da=b" := by decide

end SparkPlug
