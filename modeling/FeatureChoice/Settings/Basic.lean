import FeatureChoice.Files.Tree
import FeatureChoice.Log.Level
import FeatureChoice.Settings.Environment
import FeatureChoice.Text.Blank
import FeatureChoice.Value
/-!
Settings: what the environment says about the log, the seed of the process-wide cache and the
debug trace. A variable that is missing has a usual value; blanks around a value do not count.
Doubtful settings are reported and used all the same.
-/

namespace FeatureChoice

/-- The settings of a process. -/
structure Settings where
  level : String
  logDirectory : String
  seedFile : String
  registerDefaults : Bool
  debug : Bool
  deriving DecidableEq, Repr

namespace Settings

/-- The variables that settings are read from. -/
def levelVariable : String := "HASCOND_LOG_LEVEL"
def logDirectoryVariable : String := "HASCOND_LOG_DIR"
def seedFileVariable : String := "HASCOND_SEED_FILE"
def registerDefaultsVariable : String := "HASCOND_REGISTER_DEFAULTS"
def debugVariable : String := "HASCOND_DEBUG"

/-- The words for true; every other word is false. -/
def trueWords : List String := ["1", "true", "yes"]

def setting (env : Environment) (name usual : String) : String :=
  Text.trim ((env.get? name).getD usual)

def flag (env : Environment) (name usual : String) : Bool :=
  trueWords.contains (Text.toSmalls (setting env name usual))

def ofEnvironment (env : Environment) : Settings where
  level := Text.toCapitals (setting env levelVariable "INFO")
  logDirectory := setting env logDirectoryVariable ""
  seedFile := setting env seedFileVariable ""
  registerDefaults := flag env registerDefaultsVariable "true"
  debug := flag env debugVariable "false"

def logsToFile (s : Settings) : Bool := s.logDirectory ≠ ""

def seedPath (s : Settings) : Option Files.Path :=
  if s.seedFile = "" then none else some (.ofString s.seedFile)

def levelDoubt (s : Settings) : List String :=
  if Log.levelNames.contains s.level then []
  else [s!"{levelVariable} '{s.level}' is not one of " ++ ", ".intercalate Log.levelNames]

/-- What is doubtful about the settings, given the files. -/
def doubts (s : Settings) (files : Files.Tree) : Except Files.FileError (List String) :=
  match s.seedPath with
  | none => .ok s.levelDoubt
  | some path =>
    match files.isFile? path with
    | .error errno => .error ⟨errno, path.toText⟩
    | .ok true => .ok s.levelDoubt
    | .ok false => .ok (s.levelDoubt ++ [s!"{seedFileVariable} '{path.toText}' does not exist"])

/-- A setting in words; a dash stands for an empty one. -/
def orDash (s : String) : String := if s = "" then "-" else s

def summary (s : Settings) : String :=
  s!"log_level={s.level} log_dir={orDash s.logDirectory} seed_file={orDash s.seedFile} " ++
    s!"register_defaults={Value.displayBool s.registerDefaults} debug={Value.displayBool s.debug}"

end Settings

end FeatureChoice
