import SparkPlug.Library.Scripts
import SparkPlug.SubmitCommand
import SparkPlug.World

/-!
A launch as the script of external commands that it runs: the virtual environment, if
packages are asked for, and then spark-submit, which is started and left alone.
-/
namespace SparkPlug
open Scripts

/-- Errors of `io::Error`; `system` is what the operating system has answered. -/
inductive LaunchErrorKind where
  | notFound
  | other
  | config (kind : ErrorKind)
  | system
  deriving DecidableEq

structure LaunchError where
  kind : LaunchErrorKind
  message : String
  deriving DecidableEq

def LaunchError.ofIoError (error : IoError) : LaunchError := ⟨.config error.kind, error.message⟩

/-- `status` awaits the exit of a command, `spawn` only starts it. -/
inductive Command where
  | status (program : String) (args : List String)
  | spawn (program : String) (args : List String) (env : HashMap)

/-- What the machine makes of a launch. -/
structure Machine where
  tempdir : Except LaunchError String
  status : String → List String → Except LaunchError Bool
  spawn : String → List String → HashMap → Except LaunchError Unit

namespace Machine

/-- The command exits successfully, or can be started. -/
def succeeds (machine : Machine) : Command → Bool
  | .status program args =>
    match machine.status program args with
    | .ok success => success
    | .error _ => false
  | .spawn program args env =>
    match machine.spawn program args env with
    | .ok _ => true
    | .error _ => false

/-- Run a command, and give `failure` where it exits without success. -/
def run (machine : Machine) (program : String) (args : List String) (failure : LaunchError) :
    Script Command LaunchError Unit :=
  exec (.status program args)
    (match machine.status program args with
      | .ok true => .ok ()
      | .ok false => .error failure
      | .error error => .error error)

def start (machine : Machine) (program : String) (args : List String) (env : HashMap) :
    Script Command LaunchError Unit :=
  exec (.spawn program args env) (machine.spawn program args env)

end Machine

/-- A version with what only the launch itself needs. -/
structure NamedVersion extends SparkVersion where
  name : String
  env : Option HashMap := none
  pythonExecutable : Option String := none

/-- The launcher with its versions, of which there is at least one. -/
structure VersionedLauncher extends SparkLauncher where
  versions : List NamedVersion
  versioned : versions ≠ []

namespace VersionedLauncher

def getVersions (self : VersionedLauncher) : List String := self.versions.map (·.name)

def version (self : VersionedLauncher) : Option String → Except LaunchError NamedVersion
  | some name =>
    match self.versions.find? fun v => v.name = name with
    | some version => .ok version
    | none => .error ⟨.notFound, "Version named " ++ name ++ " not found"⟩
  | none => .ok (self.versions.head self.versioned)

end VersionedLauncher

/- The commands of buildPythonVenv. -/

def uvVenvArgs (python venvPath : String) : List String := ["venv", "--python", python, venvPath]

def installArgs (venvPath : String) (packages : List String) : List String :=
  ["pip", "install", "--python", venvPath ++ "/bin/python"] ++ ["venv-pack"] ++ packages

def venvPackArgs (venvPath : String) : List String :=
  ["-p", venvPath, "-o", venvPath ++ ".tgz", "--exclude", "*/venv-pack/*"]

def venvCommands (python venvPath : String) (packages : List String) : List Command :=
  [.status "uv" (uvVenvArgs python venvPath), .status "uv" (installArgs venvPath packages),
   .status (venvPath ++ "/bin/venv-pack") (venvPackArgs venvPath)]

def installFailed : LaunchError := ⟨.other, "Failed to install packages in virtual environment"⟩

def buildPythonVenv (machine : Machine) (pythonExecutable : Option String)
    (packages : List String) : Script Command LaunchError String :=
  match pythonExecutable with
  | none => fail ⟨.notFound, "No python executable specified for creating virtual environment"⟩
  | some python => do
    let venvPath ← lift machine.tempdir
    machine.run "uv" (uvVenvArgs python venvPath)
      ⟨.other, "Failed to create virtual environment with uv using " ++ python⟩
    machine.run "uv" (installArgs venvPath packages) installFailed
    machine.run (venvPath ++ "/bin/venv-pack") (venvPackArgs venvPath) installFailed
    return venvPath ++ ".tgz"

/-- The environment of spark-submit on top of that of the server. -/
def submitEnv (version : NamedVersion) : HashMap :=
  (version.env.getD ∅).insert "SPARK_HOME" version.home

/-- No packages, no environment. -/
def venvTarball (machine : Machine) (version : NamedVersion)
    (pythonPackages : Option (List String)) : Script Command LaunchError (Option String) :=
  match pythonPackages with
  | some packages =>
    if packages.isEmpty then pure none
    else do
      let tarball ← buildPythonVenv machine version.pythonExecutable packages
      return some tarball
  | none => pure none

/-- The arguments of `launch`. -/
structure LaunchRequest where
  versionName : Option String := none
  sessionId : Int
  appName : Option String := none
  username : String
  token : String
  userConfig : HashMap := ∅
  pythonPackages : Option (List String) := none

def submitCommand (o : IterationOrder) (self : VersionedLauncher) (version : NamedVersion)
    (request : LaunchRequest) (tarball : Option String) :
    Except LaunchError (String × List String) :=
  (buildSubmitCommand o self.toSparkLauncher version.toSparkVersion request.sessionId
    request.appName request.username request.token request.userConfig tarball).mapError .ofIoError

def launch (machine : Machine) (o : IterationOrder) (self : VersionedLauncher)
    (request : LaunchRequest) : Script Command LaunchError Unit := do
  let version ← lift (self.version request.versionName)
  let tarball ← venvTarball machine version request.pythonPackages
  let (submitPath, args) ← lift (submitCommand o self version request tarball)
  machine.start submitPath args (submitEnv version)

/-- The plan of a launch, and whether it ends in a started spark-submit. -/
inductive Planned (machine : Machine) (o : IterationOrder) (self : VersionedLauncher)
    (request : LaunchRequest) : List Command → Bool → Prop where
  | unknown {error : LaunchError} (unknown : self.version request.versionName = .error error) :
      Planned machine o self request [] false
  | plain {version : NamedVersion} {program : String} {args : List String}
      (known : self.version request.versionName = .ok version)
      (none : request.pythonPackages.getD [] = [])
      (command : submitCommand o self version request .none = .ok (program, args)) :
      Planned machine o self request [.spawn program args (submitEnv version)] true
  | plainRefused {version : NamedVersion} {error : LaunchError}
      (known : self.version request.versionName = .ok version)
      (none : request.pythonPackages.getD [] = [])
      (command : submitCommand o self version request .none = .error error) :
      Planned machine o self request [] false
  | noPython {version : NamedVersion} (known : self.version request.versionName = .ok version)
      (packages : request.pythonPackages.getD [] ≠ [])
      (executable : version.pythonExecutable = none) : Planned machine o self request [] false
  | noDirectory {version : NamedVersion} {python : String} {error : LaunchError}
      (known : self.version request.versionName = .ok version)
      (packages : request.pythonPackages.getD [] ≠ [])
      (executable : version.pythonExecutable = some python)
      (dir : machine.tempdir = .error error) : Planned machine o self request [] false
  | packed {version : NamedVersion} {python venvPath program : String} {args : List String}
      (known : self.version request.versionName = .ok version)
      (packages : request.pythonPackages.getD [] ≠ [])
      (executable : version.pythonExecutable = some python)
      (dir : machine.tempdir = .ok venvPath)
      (command : submitCommand o self version request (some (venvPath ++ ".tgz")) =
        .ok (program, args)) :
      Planned machine o self request
        (venvCommands python venvPath (request.pythonPackages.getD []) ++
          [.spawn program args (submitEnv version)]) true
  /- The arguments of spark-submit are refused only once the environment is there. -/
  | packedRefused {version : NamedVersion} {python venvPath : String} {error : LaunchError}
      (known : self.version request.versionName = .ok version)
      (packages : request.pythonPackages.getD [] ≠ [])
      (executable : version.pythonExecutable = some python)
      (dir : machine.tempdir = .ok venvPath)
      (command : submitCommand o self version request (some (venvPath ++ ".tgz")) =
        .error error) :
      Planned machine o self request
        (venvCommands python venvPath (request.pythonPackages.getD [])) false

theorem obeys_run (machine : Machine) (program : String) (args : List String)
    (failure : LaunchError) :
    Obeys machine.succeeds [.status program args] true (machine.run program args failure) := by
  refine obeys_exec ?_
  cases answer : machine.status program args with
  | error error => simp [Machine.succeeds, answer]
  | ok success => cases success <;> simp [Machine.succeeds, answer]

theorem obeys_start (machine : Machine) (program : String) (args : List String)
    (env : HashMap) :
    Obeys machine.succeeds [.spawn program args env] true (machine.start program args env) := by
  refine obeys_exec ?_
  cases answer : machine.spawn program args env with
  | error error => simp [Machine.succeeds, answer]
  | ok done => simp [Machine.succeeds, answer]

/-- The three commands, one after the other. -/
theorem build_python_venv_obeys {machine : Machine} {venvPath : String} (python : String)
    (packages : List String) (dir : machine.tempdir = .ok venvPath) :
    Obeys machine.succeeds (venvCommands python venvPath packages) true
        (buildPythonVenv machine (some python) packages) ∧
      ∀ tarball, (buildPythonVenv machine (some python) packages).result = .ok tarball →
        tarball = venvPath ++ ".tgz" := by
  simp only [buildPythonVenv, dir]
  rw [lift_bind]
  constructor
  · refine obeys_bind (obeys_run ..) fun _ _ => ?_
    refine obeys_bind (obeys_run ..) fun _ _ => ?_
    exact obeys_lift_bind (obeys_run ..)
  · intro tarball ok
    obtain ⟨_, _, ok⟩ := result_bind.mp ok
    obtain ⟨_, _, ok⟩ := result_bind.mp ok
    obtain ⟨_, _, ok⟩ := result_bind.mp ok
    exact (Except.ok.inj ok).symm

/-- Without packages nothing is run and there is no tarball. -/
theorem venv_tarball_none {machine : Machine} {version : NamedVersion}
    {pythonPackages : Option (List String)} (none : pythonPackages.getD [] = []) :
    venvTarball machine version pythonPackages = lift (.ok .none) := by
  cases pythonPackages with
  | none => rfl
  | some packages =>
    have empty : packages = [] := none
    rw [empty]
    rfl

theorem venv_tarball_some {machine : Machine} {version : NamedVersion}
    {pythonPackages : Option (List String)} (some : pythonPackages.getD [] ≠ []) :
    venvTarball machine version pythonPackages =
      buildPythonVenv machine version.pythonExecutable (pythonPackages.getD []) >>=
        fun tarball => lift (.ok (.some tarball)) := by
  cases pythonPackages with
  | none => exact absurd rfl some
  | some packages =>
    have full : packages.isEmpty = false := by simpa using some
    simp only [venvTarball, full]
    rfl

/-- The last part of a launch. -/
def submit (machine : Machine) (o : IterationOrder) (self : VersionedLauncher)
    (version : NamedVersion) (request : LaunchRequest) (tarball : Option String) :
    Script Command LaunchError Unit := do
  let (submitPath, args) ← lift (submitCommand o self version request tarball)
  machine.start submitPath args (submitEnv version)

section
variable {machine : Machine} {o : IterationOrder} {self : VersionedLauncher}
variable {version : NamedVersion} {request : LaunchRequest} {tarball : Option String}

theorem launch_of_unknown {error : LaunchError}
    (unknown : self.version request.versionName = .error error) :
    launch machine o self request = fail error := by
  unfold launch
  rw [unknown]
  exact fail_bind error _

theorem launch_of_version (known : self.version request.versionName = .ok version) :
    launch machine o self request =
      venvTarball machine version request.pythonPackages >>=
        fun tarball => submit machine o self version request tarball := by
  unfold launch
  rw [known, lift_bind]
  rfl

theorem submit_refused {error : LaunchError}
    (command : submitCommand o self version request tarball = .error error) :
    submit machine o self version request tarball = fail error := by
  unfold submit
  rw [command]
  exact fail_bind error _

theorem submit_obeys {program : String} {args : List String}
    (command : submitCommand o self version request tarball = .ok (program, args)) :
    Obeys machine.succeeds [.spawn program args (submitEnv version)] true
      (submit machine o self version request tarball) := by
  unfold submit
  rw [command, lift_bind]
  exact obeys_start ..

/-- The script of a launch without packages. -/
theorem plain_obeys (known : self.version request.versionName = .ok version)
    (none : request.pythonPackages.getD [] = []) :
    ∃ plan starts, Planned machine o self request plan starts ∧
      Obeys machine.succeeds plan starts (launch machine o self request) := by
  rw [launch_of_version known, venv_tarball_none none, lift_bind]
  cases command : submitCommand o self version request .none with
  | error error =>
    rw [submit_refused command]
    exact ⟨_, _, .plainRefused known none command, obeys_fail error⟩
  | ok command' => exact ⟨_, _, .plain known none command, submit_obeys command⟩

/-- The script of a launch that asks for packages. -/
theorem packed_obeys (known : self.version request.versionName = .ok version)
    (packages : request.pythonPackages.getD [] ≠ []) :
    ∃ plan starts, Planned machine o self request plan starts ∧
      Obeys machine.succeeds plan starts (launch machine o self request) := by
  rw [launch_of_version known, venv_tarball_some packages]
  cases executable : version.pythonExecutable with
  | none =>
    simp only [buildPythonVenv]
    rw [fail_bind, fail_bind]
    exact ⟨_, _, .noPython known packages executable, obeys_fail _⟩
  | some python =>
    cases dir : machine.tempdir with
    | error error =>
      have failed : buildPythonVenv machine (some python) (request.pythonPackages.getD []) =
          fail error := by
        simp only [buildPythonVenv, dir]
        exact fail_bind error _
      rw [failed, fail_bind, fail_bind]
      exact ⟨_, _, .noDirectory known packages executable dir, obeys_fail _⟩
    | ok venvPath =>
      obtain ⟨built, path⟩ :=
        build_python_venv_obeys python (request.pythonPackages.getD []) dir
      have first := obeys_lift_bind (g := some) built
      have named : ∀ tarball, (buildPythonVenv machine (some python)
          (request.pythonPackages.getD []) >>= fun tarball => lift (.ok (some tarball))).result =
            .ok tarball → tarball = some (venvPath ++ ".tgz") := by
        intro tarball ok
        obtain ⟨packed, made, same⟩ := result_bind.mp ok
        rw [← Except.ok.inj same, path packed made]
      cases command : submitCommand o self version request (some (venvPath ++ ".tgz")) with
      | error error =>
        have whole := obeys_bind (f := submit machine o self version request) first
          fun tarball ok => by
            rw [named tarball ok, submit_refused command]
            exact obeys_fail error
        rw [List.append_nil] at whole
        exact ⟨_, _, .packedRefused known packages executable dir command, whole⟩
      | ok command' =>
        have whole := obeys_bind (f := submit machine o self version request) first
          fun tarball ok => by
            rw [named tarball ok]
            exact submit_obeys command
        exact ⟨_, _, .packed known packages executable dir command, whole⟩

end

theorem launch_obeys (machine : Machine) (o : IterationOrder) (self : VersionedLauncher)
    (request : LaunchRequest) :
    ∃ plan starts, Planned machine o self request plan starts ∧
      Obeys machine.succeeds plan starts (launch machine o self request) := by
  cases known : self.version request.versionName with
  | error error =>
    rw [launch_of_unknown known]
    exact ⟨_, _, .unknown known, obeys_fail error⟩
  | ok version =>
    by_cases none : request.pythonPackages.getD [] = []
    · exact plain_obeys known none
    · exact packed_obeys known none

/-- Every launch runs its plan up to the first command that fails, and gives a driver to
watch exactly if all of the plan has succeeded and ends in spark-submit. -/
theorem launch_runs_its_plan (machine : Machine) (o : IterationOrder) (self : VersionedLauncher)
    (request : LaunchRequest) :
    ∃ plan starts, Planned machine o self request plan starts ∧
      (launch machine o self request).commands = upTo machine.succeeds plan ∧
      ((launch machine o self request).result = .ok () ↔
        starts = true ∧ ∀ command ∈ plan, machine.succeeds command = true) := by
  obtain ⟨plan, starts, planned, obeys⟩ := launch_obeys machine o self request
  refine ⟨plan, starts, planned, obeys.commands, fun ok => obeys.result.mp ⟨(), ok⟩, ?_⟩
  intro all
  obtain ⟨_, ok⟩ := obeys.result.mpr all
  exact ok

/- The drivers that a launch leaves running. -/

def Command.driver (machine : Machine) : Command → Option (String × List String)
  | .spawn program args env =>
    if machine.succeeds (.spawn program args env) then some (program, args) else none
  | .status _ _ => none

def drivers (machine : Machine) (commands : List Command) : List (String × List String) :=
  commands.filterMap (·.driver machine)

theorem drivers_append (machine : Machine) (first second : List Command) :
    drivers machine (first ++ second) = drivers machine first ++ drivers machine second :=
  List.filterMap_append

theorem venv_commands_drivers {machine : Machine} {python venvPath : String}
    {packages : List String} {commands : List Command}
    (inside : ∀ c ∈ commands, c ∈ venvCommands python venvPath packages) :
    drivers machine commands = [] := by
  refine List.filterMap_eq_nil_iff.mpr fun c member => ?_
  have planned := inside c member
  simp only [venvCommands, List.mem_cons, List.not_mem_nil, or_false] at planned
  rcases planned with rfl | rfl | rfl <;> rfl

theorem spawn_drivers {machine : Machine} {program : String} {args : List String} {env : HashMap} :
    drivers machine [.spawn program args env] =
      if machine.succeeds (.spawn program args env) = true then [(program, args)] else [] := by
  unfold drivers
  by_cases started : machine.succeeds (.spawn program args env) = true
  · simp [Command.driver, started]
  · simp [Command.driver, started]

/-- A launch that succeeds leaves one driver running, and one that fails leaves none. -/
theorem launch_drivers (machine : Machine) (o : IterationOrder) (self : VersionedLauncher)
    (request : LaunchRequest) :
    ((launch machine o self request).result = .ok () ∧ ∃ version tarball program args,
      self.version request.versionName = .ok version ∧
      submitCommand o self version request tarball = .ok (program, args) ∧
      drivers machine (launch machine o self request).commands = [(program, args)]) ∨
    ((launch machine o self request).result ≠ .ok () ∧
      drivers machine (launch machine o self request).commands = []) := by
  obtain ⟨plan, starts, planned, obeys⟩ := launch_obeys machine o self request
  have ended : (launch machine o self request).result = .ok () ↔
      starts = true ∧ ∀ c ∈ plan, machine.succeeds c = true := by
    rw [← obeys.result]
    constructor
    · intro ok
      exact ⟨(), ok⟩
    · intro found
      obtain ⟨_, ok⟩ := found
      exact ok
  simp only [obeys.commands, ne_eq, ended]
  cases planned with
  | unknown | plainRefused | noPython | noDirectory => exact Or.inr ⟨by simp, rfl⟩
  | @plain version program args known none command =>
    have run : upTo machine.succeeds [Command.spawn program args (submitEnv version)] =
        [.spawn program args (submitEnv version)] := by simp [upTo]
    rw [run, spawn_drivers]
    by_cases started : machine.succeeds (.spawn program args (submitEnv version)) = true
    · exact Or.inl ⟨by simp [started], version, _, program, args, known, command, if_pos started⟩
    · exact Or.inr ⟨by simp [started], if_neg started⟩
  | @packed version python venvPath program args known packages executable dir command =>
    by_cases built : ∀ c ∈ venvCommands python venvPath (request.pythonPackages.getD []),
        machine.succeeds c = true
    · have run : upTo machine.succeeds
          (venvCommands python venvPath (request.pythonPackages.getD []) ++
            [.spawn program args (submitEnv version)]) =
          venvCommands python venvPath (request.pythonPackages.getD []) ++
            [.spawn program args (submitEnv version)] := by
        rw [up_to_append_ok built]
        simp [upTo]
      have quiet : drivers machine
          (venvCommands python venvPath (request.pythonPackages.getD [])) = [] :=
        venv_commands_drivers fun _ member => member
      rw [run, drivers_append, quiet, List.nil_append, spawn_drivers]
      by_cases started : machine.succeeds (.spawn program args (submitEnv version)) = true
      · have all : ∀ c ∈ venvCommands python venvPath (request.pythonPackages.getD []) ++
            [.spawn program args (submitEnv version)], machine.succeeds c = true := by
          intro c member
          rcases List.mem_append.mp member with first | last
          · exact built c first
          · rwa [List.mem_singleton.mp last]
        exact Or.inl ⟨⟨rfl, all⟩, version, _, program, args, known, command, if_pos started⟩
      · exact Or.inr ⟨fun all => started (all.2 _ (by simp)), if_neg started⟩
    · -- spark-submit is not reached
      have failed : ∃ c ∈ venvCommands python venvPath (request.pythonPackages.getD []),
          machine.succeeds c = false := by simpa using built
      rw [up_to_append_failed failed]
      refine Or.inr ⟨fun all => built ?_, venv_commands_drivers fun _ member =>
        mem_of_up_to member⟩
      exact fun c member => all.2 c (List.mem_append_left _ member)
  | packedRefused known packages executable dir command =>
    exact Or.inr ⟨by simp, venv_commands_drivers fun _ member => mem_of_up_to member⟩

end SparkPlug
