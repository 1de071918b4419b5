import Mathlib.Data.List.AList
import SparkPlug.Library.CommandLine

/-!
The spark-submit command of a launch. Hash maps are association lists without
repeated keys; the order in which a map is iterated is left open.
-/
namespace SparkPlug
open Text CommandLine

abbrev HashMap := AList fun _ : String => String

abbrev Entry := Sigma fun _ : String => String

/- The loops over a map in buildConf and buildSubmitCommand. -/
inductive MapLoop where
  | userConfig
  | mergeConfigs
  | overrideConfigs
  | submitArgs
  deriving DecidableEq

/-- An order for every loop over a map. -/
structure IterationOrder where
  order : MapLoop → List Entry → List Entry
  perm : ∀ loop entries, (order loop entries).Perm entries

def APP_NAME_CONFIG : String := "spark.app.name"
def TOKEN_CONFIG : String := "spark.connect.authenticate.token"
def CALLBACK_CONFIG : String := "spark.plug.callback"
def TIMEOUT_CONFIG : String := "spark.plug.idle.timeout"
def LISTENER_CONFIG : String := "spark.extraListeners"
def INTERCEPTOR_CONFIG : String := "spark.connect.grpc.interceptor.classes"
def GRPC_PORT_CONFIG : String := "spark.connect.grpc.binding.port"

def LISTENER_CLASS : String := "org.apache.spark.sql.sparkplug.SparkPlugListener"
def INTERCEPTOR_CLASS : String := "org.apache.spark.sql.sparkplug.SparkPlugInterceptor"
def SERVER_CLASS : String := "org.apache.spark.sql.sparkplug.SparkPlugServer"

def ARCHIVES_CONFIG : String := "spark.archives"
def PYTHON_CONFIG : String := "spark.sql.execution.pyspark.python"

structure SparkVersion where
  home : String
  master : Option String := none
  deployMode : Option String := none
  proxyUser : Option Bool := none
  defaultConfigs : Option HashMap := none
  mergeConfigs : Option HashMap := none
  overrideConfigs : Option HashMap := none

structure SparkLauncher where
  callbackAddr : String
  sessionTimeout : Nat
  pluginPath : String

inductive ErrorKind where
  | invalidInput
  | permissionDenied
  deriving DecidableEq, Repr

structure IoError where
  kind : ErrorKind
  message : String
  deriving DecidableEq, Repr

def extend (configs : HashMap) (entries : List Entry) : HashMap :=
  entries.foldl (fun configs e => configs.insert e.1 e.2) configs

/-- One round of the merge loop of buildConf. -/
def mergeConfig (configs : HashMap) (e : Entry) : HashMap :=
  match configs.lookup e.1 with
  | some existing => configs.insert e.1 (existing ++ "," ++ e.2)
  | none => configs.insert e.1 e.2

def buildConf (o : IterationOrder) (version : SparkVersion) (userConfig : HashMap) : HashMap :=
  let configs := version.defaultConfigs.getD ∅
  let configs := extend configs (o.order .userConfig userConfig.entries)
  let configs :=
    match version.mergeConfigs with
    | some merge => (o.order .mergeConfigs merge.entries).foldl mergeConfig configs
    | none => configs
  match version.overrideConfigs with
  | some override => extend configs (o.order .overrideConfigs override.entries)
  | none => configs

def validateFilePath (key filePath : String) : Except IoError Unit :=
  let trimmed := trim filePath
  if trimmed.isEmpty then .ok ()
  else if !contains trimmed "://" then
    .error ⟨.invalidInput,
      "Config " ++ key ++ " contains file path without protocol: " ++ trimmed⟩
  else if startsWith trimmed "file://" then
    .error ⟨.permissionDenied, "Config " ++ key ++ " cannot use file:// protocol: " ++ trimmed⟩
  else .ok ()

def fileConfigKeys : List String := ["spark.files", "spark.archives", "spark.submit.pyFiles"]

def validateFileConfigs (configs : HashMap) : Except IoError Unit :=
  fileConfigKeys.forM fun key =>
    match configs.lookup key with
    | some value => (split ',' value).forM (validateFilePath key)
    | none => .ok ()

/-- `PathBuf::join` with a relative path. -/
def join (path component : String) : String :=
  if path.isEmpty then component
  else if path.toList.getLast? = some '/' then path ++ component
  else path ++ "/" ++ component

def setAppName (configs : HashMap) (sessionId : Int) (appName : Option String) : HashMap :=
  match appName with
  | some appName => configs.insert APP_NAME_CONFIG appName
  | none =>
    if APP_NAME_CONFIG ∈ configs then configs
    else configs.insert APP_NAME_CONFIG ("spark-plug-session-" ++ toString sessionId)

/-- The configs of the server itself, in the order in which they are set. -/
def internalConfigs (self : SparkLauncher) (token : String) : List Entry :=
  [⟨TOKEN_CONFIG, token⟩, ⟨CALLBACK_CONFIG, self.callbackAddr⟩,
   ⟨TIMEOUT_CONFIG, toString self.sessionTimeout⟩, ⟨LISTENER_CONFIG, LISTENER_CLASS⟩,
   ⟨INTERCEPTOR_CONFIG, INTERCEPTOR_CLASS⟩, ⟨GRPC_PORT_CONFIG, "0"⟩]

def setVenv (configs : HashMap) (venvTarball : Option String) : HashMap :=
  match venvTarball with
  | some venvTarball =>
    let venvArchive := venvTarball ++ "#environment"
    let archives :=
      match configs.lookup ARCHIVES_CONFIG with
      | some archives => if archives.isEmpty then venvArchive else archives ++ "," ++ venvArchive
      | none => venvArchive
    (configs.insert ARCHIVES_CONFIG archives).insert PYTHON_CONFIG "../environment/bin/python"
  | none => configs

/-- The map that buildSubmitCommand has assembled when it turns it into arguments. -/
def submitConfigs (o : IterationOrder) (self : SparkLauncher) (version : SparkVersion)
    (sessionId : Int) (appName : Option String) (token : String) (userConfig : HashMap)
    (venvTarball : Option String) : HashMap :=
  let configs := buildConf o version userConfig
  let configs := setAppName configs sessionId appName
  let configs := extend configs (internalConfigs self token)
  setVenv configs venvTarball

def option (name : String) (operand : Option String) : List String :=
  match operand with
  | some operand => [name, operand]
  | none => []

def buildSubmitCommand (o : IterationOrder) (self : SparkLauncher) (version : SparkVersion)
    (sessionId : Int) (appName : Option String) (username token : String) (userConfig : HashMap)
    (venvTarball : Option String) : Except IoError (String × List String) := do
  validateFileConfigs userConfig
  let configs := submitConfigs o self version sessionId appName token userConfig venvTarball
  let submitPath := join (join version.home "bin") "spark-submit"
  let args := option "--master" version.master ++ option "--deploy-mode" version.deployMode
  let args := args ++ (o.order .submitArgs configs.entries).flatMap fun e =>
    ["--conf", e.1 ++ "=" ++ e.2]
  let args := args ++ ["--class", SERVER_CLASS]
  let args := if version.proxyUser.getD false then args ++ ["--proxy-user", username] else args
  return (submitPath, args ++ [self.pluginPath])

end SparkPlug
