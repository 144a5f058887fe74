import FeatureChoice.Deployment.State
/-!
The settings of a process. They are read when they are first asked for: environment files are
loaded, which changes the environment for good, and then the environment is read. Later changes of
files or environment count only after a reload.
-/

namespace FeatureChoice.Deployment

/-- The environment file that is always loaded. -/
def usualEnvFile : String := ".env"

def loadEnvFile (name : String) : Run Deployment Unit := do
  let d ← get
  let path := Files.Path.ofString name
  match d.files.exists? path with
  | .error errno => Run.fail (.file ⟨errno, path.toText⟩)
  | .ok false => return
  | .ok true =>
    if EnvFile.isDisabled d.environment then return
    if let .ok bytes := d.files.read path then
      match Text.decodeUtf8 bytes with
      | .error e => Run.fail (.encoding e)
      | .ok text =>
        let text := Text.unifyLineEnds text
        for line in EnvFile.badLines text do
          (Host.change (·.log ⟨.warning, EnvFile.logger, EnvFile.badLineWarning line⟩)).onHost
        let (environment, error) := EnvFile.load text d.environment
        modify fun d => { d with environment := environment }
        if let some e := error then Run.fail (.environment e)

/-- Read the settings anew, after loading the usual environment file and a further one. -/
def readSettings (envFile : String) : Run Deployment Settings := do
  modify fun d => { d with settings := .blank }
  loadEnvFile usualEnvFile
  loadEnvFile envFile
  let d ← get
  let s := Settings.ofEnvironment d.environment
  set { d with settings := .ready s }
  return s

def settingsWith (envFile : String) : Run Deployment Settings := do
  match (← get).settings with
  | .ready s => return s
  | _ => readSettings envFile

def currentSettings : Run Deployment Settings := settingsWith usualEnvFile

def reloadSettings (envFile : String) : Run Deployment Settings := do
  let _ ← currentSettings
  readSettings envFile

def settingsDoubts : Run Deployment (List String) := do
  let s ← currentSettings
  match s.doubts (← get).files with
  | .ok doubts => return doubts
  | .error e => Run.fail (.file e)

end FeatureChoice.Deployment
