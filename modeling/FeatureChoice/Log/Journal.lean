import FeatureChoice.Files.Path
import FeatureChoice.Log.Level
/-!
The log of the library. It has a threshold and a list of installed destinations, which are consoles
and files; a message that reaches the threshold is noted once, together with the destinations of
that moment, each of which it is written to. What a console or a file shows is read off the notes.

Main statements: a message below the threshold leaves no trace (`emit_of_not_accepts`), and one
that reaches it is the one new note (`notes_emit`), so that it is shown as often as its destination
is installed (`copies_emit`).
-/

namespace FeatureChoice.Log

def rootLogger : String := "hascond"

def moduleLogger (name : String) : String :=
  if name.startsWith rootLogger then name else rootLogger ++ "." ++ name

/-- Whether a logger hands its messages to the library's own logger. -/
def isOwn (logger : String) : Bool :=
  logger = rootLogger || logger.startsWith (rootLogger ++ ".")

/-- A message. -/
structure Row where
  severity : Severity
  logger : String
  message : String
  deriving DecidableEq, Repr

/-- A console that messages can be written to. -/
structure Terminal where
  index : Nat
  deriving DecidableEq, Repr

/-- Where messages are written to. -/
inductive Destination where
  | console (terminal : Terminal)
  | file (path : Files.Path)
  deriving DecidableEq, Repr

/-- A message with the destinations it was written to. -/
structure Note where
  row : Row
  destinations : List Destination
  deriving DecidableEq, Repr

/-- The state of the log. A threshold of zero is none of its own. A message is written to every
destination that is installed, as often as it is. -/
structure Journal where
  threshold : Nat
  installed : List Destination
  notes : List Note
  deriving DecidableEq, Repr

namespace Journal

/-- The threshold that holds where a logger has none. -/
def inherited : Nat := Severity.warning.number

def empty : Journal := ⟨0, [], []⟩

/-- The threshold in force. -/
def effective (j : Journal) : Nat := if j.threshold = 0 then inherited else j.threshold

/-- Whether a message is written: those of other loggers are judged by the inherited threshold. -/
def accepts (j : Journal) (row : Row) : Bool :=
  (if isOwn row.logger then j.effective else inherited) ≤ row.severity.number

def clear (j : Journal) : Journal := { j with installed := [] }

def install (j : Journal) (d : Destination) : Journal := { j with installed := j.installed ++ [d] }

def emit (j : Journal) (row : Row) : Journal :=
  if j.accepts row then
    { j with notes := j.notes ++ [⟨row, if isOwn row.logger then j.installed else []⟩] }
  else j

def destinations (j : Journal) : Nat := j.installed.length

/-- The messages that notes write to a destination, each as often as it was written there. -/
def copies (d : Destination) (notes : List Note) : List Row :=
  notes.flatMap fun note => List.replicate (note.destinations.count d) note.row

def shownOn (terminal : Terminal) (notes : List Note) : List Row := copies (.console terminal) notes

def writtenTo (path : Files.Path) (notes : List Note) : List Row := copies (.file path) notes

/-- A message that does not pass the threshold leaves no trace. -/
theorem emit_of_not_accepts {j : Journal} {row : Row} (h : j.accepts row = false) :
    j.emit row = j := by
  simp [emit, h]

/-- A message that passes is noted after all others. -/
theorem notes_emit {j : Journal} {row : Row} (h : j.accepts row = true) :
    ∃ note : Note, note.row = row ∧ (j.emit row).notes = j.notes ++ [note] :=
  ⟨⟨row, if isOwn row.logger then j.installed else []⟩, rfl, by simp [emit, h]⟩

@[simp] theorem installed_emit (j : Journal) (row : Row) :
    (j.emit row).installed = j.installed := by
  unfold emit
  split <;> rfl

@[simp] theorem threshold_emit (j : Journal) (row : Row) :
    (j.emit row).threshold = j.threshold := by
  unfold emit
  split <;> rfl

end Journal

/-! ### Lines -/

def Severity.color : Severity → String
  | .debug => "\x1b[96m"
  | .info => "\x1b[92m"
  | .warning => "\x1b[93m"
  | .error => "\x1b[91m"
  | .critical => "\x1b[1m\x1b[91m"

def colorEnd : String := "\x1b[0m"

def Row.consoleText (row : Row) : String :=
  row.severity.color ++ row.severity.name ++ colorEnd ++ " | " ++ row.message

def Row.fileText (row : Row) : String :=
  row.severity.name ++ " | " ++ row.logger ++ " | " ++ row.message

end FeatureChoice.Log
