import FeatureChoice.Seed.Load
import FeatureChoice.Settings.Basic
import FeatureChoice.Settings.EnvFile
/-!
Deployments: a host in its process, with files, environment, settings, the facility that sets up the
log, and the process-wide cache.
-/

namespace FeatureChoice

/-- The settings of a process: not asked for yet, asked for in vain, or known. -/
inductive SettingsSlot where
  | absent
  | blank
  | ready (s : Settings)
  deriving DecidableEq, Repr

/-- A logger object of the facility. -/
structure LoggerId where
  index : Nat
  deriving DecidableEq, Repr

/-- The facility that sets up the log. It has at most one object at a time, which is set up once,
and remembers the one that was handed out last. -/
structure LogFacility where
  made : Nat
  single : Option LoggerId
  isSetUp : Bool
  handedOut : Option LoggerId
  deriving DecidableEq, Repr

/-- A host in its process. `loader` reads the documents, `terminal` is where a new console of the
log writes to, and `day` the date in the names of log files. -/
structure Deployment where
  loader : Yaml.Loader
  host : Host
  files : Files.Tree
  environment : Environment
  settings : SettingsSlot
  facility : LogFacility
  shared : Option CacheId
  terminal : Log.Terminal
  day : String

instance : Hosted Deployment := ⟨Deployment.host, fun h d => { d with host := h }⟩

namespace Deployment

def start (loader : Yaml.Loader) (files : Files.Tree) (environment : Environment) (day : String) :
    Deployment where
  loader := loader
  host := .empty
  files := files
  environment := environment
  settings := .absent
  facility := ⟨0, none, false, none⟩
  shared := none
  terminal := ⟨0⟩
  day := day

def changeFiles (f : Files.Tree → Files.Tree × Option Files.FileError) : Run Deployment Unit := do
  let d ← get
  let (files, error) := f d.files
  set { d with files := files }
  if let some e := error then Run.fail (.file e)

def setVariable (name value : String) : Run Deployment Unit := do
  let d ← get
  match d.environment.set name value with
  | .ok environment => set { d with environment := environment }
  | .error e => Run.fail (.environment e)

end Deployment

end FeatureChoice
