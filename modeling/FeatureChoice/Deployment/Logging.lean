import FeatureChoice.Deployment.State
import FeatureChoice.Log.Template
/-!
Setting up the log. A logger object that is made sets up the threshold, the console and, if it is
given a directory, a dated log file there, unless that was done before. What was installed before is
removed. The directory is made first, so nothing has been set up if that fails; the file is opened
last, so the console is there if that fails.
-/

namespace FeatureChoice.Deployment

def logFileName (day : String) : String := "hascond_" ++ day ++ ".log"

def changeJournal (f : Log.Journal → Log.Journal) : Run Deployment Unit :=
  modify fun d => { d with host := { d.host with journal := f d.host.journal } }

def journal : Run Deployment Log.Journal := return (← get).host.journal

/-- Open the log file of the day in a directory; a log file that is there is continued. -/
def openLogFile (directory : Files.Path) : Run Deployment Unit := do
  let d ← get
  let name := logFileName d.day
  match d.files.openAt directory name with
  | .ok (files, path) =>
    set { d with files := files }
    changeJournal (·.install (.file path))
  | .error errno => Run.fail (.file ⟨errno, (directory.child name).toText⟩)

def threshold (level : String) : Run Deployment Nat :=
  match Log.thresholdOf level with
  | .ok n => return n
  | .error e => Run.fail (.noLevel e)

def setUpLog (directory : Option String) (level : String) : Run Deployment Unit := do
  let path := (directory.filter (· ≠ "")).map Files.Path.ofString
  if let some p := path then changeFiles fun t => t.makeDirectories p
  let n ← threshold level
  changeJournal fun j => { j with threshold := n }
  let terminal := (← get).terminal
  changeJournal fun j => j.clear.install (.console terminal)
  if let some p := path then openLogFile p

/-- Make a logger object: the one there is, or a new one; it is set up if none was. -/
def makeLogger (directory : Option String) (level : String) : Run Deployment LoggerId := do
  let d ← get
  let id := d.facility.single.getD ⟨d.facility.made⟩
  let made := if d.facility.single.isNone then d.facility.made + 1 else d.facility.made
  set { d with facility := { d.facility with single := some id, made := made } }
  if !d.facility.isSetUp then
    setUpLog directory level
    modify fun d => { d with facility := { d.facility with isSetUp := true } }
  return id

def handOut (id : LoggerId) : Run Deployment Unit :=
  modify fun d => { d with facility := { d.facility with handedOut := some id } }

/-- The logger object that was handed out last, or a new one. -/
def getLogger (directory : Option String) (level : String) : Run Deployment LoggerId := do
  match (← get).facility.handedOut with
  | some id => return id
  | none =>
    let id ← makeLogger directory level
    handOut id
    return id

def setupLogger (directory : Option String) (level : String) : Run Deployment LoggerId := do
  modify fun d => { d with facility := { d.facility with single := none, isSetUp := false } }
  let id ← makeLogger directory level
  handOut id
  return id

/-- The level of a logger object that none was given for. -/
def usualLevel : String := "INFO"

def setLevel (level : String) : Run Deployment Unit := do
  let _ ← getLogger none usualLevel
  let n ← threshold level
  changeJournal fun j => { j with threshold := n }

/-- Offer a message to the log. Its values are filled in only if it is let through. -/
def log (row : Log.Row) (values : List Value) : Run Deployment Unit := do
  let j ← journal
  if j.accepts row then
    match Log.fill row.message values with
    | .ok message => changeJournal fun j => j.emit { row with message := message }
    | .error e => Run.fail (.template e)

/-- Switch the debug trace on or off; on, every message passes the threshold. -/
def enableDebug (enabled : Bool) : Run Deployment Unit := do
  modify fun d => { d with host := { d.host with tracing := enabled } }
  if enabled then changeJournal fun j => { j with threshold := Log.Severity.debug.number }

def logLines (j : Log.Journal) (path : Files.Path) : List String :=
  (Log.Journal.writtenTo path j.notes).flatMap fun row => Text.splitAtFeeds row.fileText

end FeatureChoice.Deployment
