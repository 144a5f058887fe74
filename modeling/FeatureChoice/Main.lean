import FeatureChoice.Command.Run
import FeatureChoice.Yaml.Data
import Std.Time.Zoned
/-!
The command line program. It looks at the files below the working directory that a command can
need, runs the command, and then shows what was printed and writes what was logged.
-/

namespace FeatureChoice.Main

/-- To what depth probes may call each other. -/
def depth : Nat := 1000

/-- The variables of the environment that settings are read from. -/
def settingsVariables : List String :=
  [Settings.levelVariable, Settings.logDirectoryVariable, Settings.seedFileVariable,
    Settings.registerDefaultsVariable, Settings.debugVariable, EnvFile.disablingVariable]

/-- The variables that the values of an environment file refer to. -/
def mentioned (text : List Char) : List String :=
  (EnvFile.bindings text).flatMap fun b => EnvFile.references (b.value.getD "")

/-- A tree with what stands at a path of the file system. -/
def survey (t : Files.Tree) (name : String) : IO Files.Tree := do
  let path := Files.Path.ofString name
  if path.parts.isEmpty then return t
  try
    let bytes ← IO.FS.readBinFile path.toText
    return (t.put path bytes.toList).1
  catch
    | .noFileOrDirectory .. => return t
    | _ => return (t.makeDirectories path).1

/-- The environment of the process, as far as it can matter. -/
def processEnvironment (t : Files.Tree) : IO Environment := do
  let text := match t.read (.ofString Deployment.usualEnvFile) with
    | .ok bytes => (Text.decodeUtf8 bytes).toOption.getD []
    | .error _ => []
  let mut env : Environment := .empty
  for name in settingsVariables ++ mentioned text do
    if let some value ← IO.getEnv name then env := env.insert name value
  return env

def digits (count n : Nat) : String :=
  let s := toString n
  "".pushn '0' (count - s.length) ++ s

/-- The date and the time of day, with a mark between the numbers of each. -/
def clock (t : Std.Time.PlainDateTime) (dateMark timeMark : String) : String × String :=
  (dateMark.intercalate [digits 4 t.year.toInt.toNat, digits 2 t.month.val.toNat,
      digits 2 t.day.val.toNat],
    timeMark.intercalate [digits 2 t.hour.val.toNat, digits 2 t.minute.val.toNat,
      digits 2 t.second.val.toNat])

/-- Write what was logged to the console and to the log files. -/
def writeLog (d : Deployment) : IO Unit := do
  let (date, time) := clock (← Std.Time.PlainDateTime.now) "-" ":"
  for note in d.host.journal.notes do
    if !Log.isOwn note.row.logger then IO.eprintln note.row.message
    for destination in note.destinations do
      match destination with
      | .console _ => IO.eprintln (time ++ " | " ++ note.row.consoleText)
      | .file file =>
        IO.FS.createDirAll file.parent.toText
        IO.FS.withFile file.toText .append fun h =>
          h.putStrLn (date ++ " " ++ time ++ " | " ++ note.row.fileText)

def runArguments (a : Command.Arguments) : IO UInt32 := do
  let (day, _) := clock (← Std.Time.PlainDateTime.now) "" ""
  let files ← survey .empty Deployment.usualEnvFile
  let start := Deployment.start Yaml.load files (← processEnvironment files) day
  let mut files := files
  if let (.ok s, _) := Deployment.currentSettings.outcome start then
    let logFile := (Files.Path.ofString s.logDirectory).child (Deployment.logFileName day)
    files ← survey (← survey (← survey files s.logDirectory) logFile.toText) s.seedFile
  if let some seed := a.supply.stock.seed then files ← survey files seed
  let (result, d) := (Command.run depth a).outcome { start with files := files }
  writeLog d
  match result with
  | .ok outcome =>
    for line in outcome.lines do IO.println line
    return UInt32.ofNat outcome.code
  | .error (.fault f) =>
    IO.eprintln f.message
    return 1
  | .error .unfinished =>
    IO.eprintln "probes call each other without end"
    return 1

end FeatureChoice.Main

def main (texts : List String) : IO UInt32 := do
  match FeatureChoice.Command.readArguments texts with
  | .ok a => FeatureChoice.Main.runArguments a
  | .error halt =>
    IO.eprintln halt.report
    return UInt32.ofNat halt.code
