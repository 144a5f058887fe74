import FeatureChoice.Text.Case
import FeatureChoice.Text.Quoted
/-!
Severities of log messages, and the words by which a threshold can be named. A word is taken in
capital letters; a word that names nothing stands for `INFO`, and one that names something else than
a level is refused.
-/

namespace FeatureChoice.Log

/-- How serious a message is. -/
inductive Severity where
  | debug
  | info
  | warning
  | error
  | critical
  deriving DecidableEq, Repr

namespace Severity

def number : Severity → Nat
  | .debug => 10
  | .info => 20
  | .warning => 30
  | .error => 40
  | .critical => 50

def name : Severity → String
  | .debug => "DEBUG"
  | .info => "INFO"
  | .warning => "WARNING"
  | .error => "ERROR"
  | .critical => "CRITICAL"

def all : List Severity := [.debug, .info, .warning, .error, .critical]

end Severity

def thresholds : List (String × Nat) :=
  [("CRITICAL", 50), ("FATAL", 50), ("ERROR", 40), ("WARNING", 30), ("WARN", 30), ("INFO", 20),
   ("DEBUG", 10), ("NOTSET", 0)]

/-- A word names something of the log that is no level. -/
inductive NoLevel where
  /-- The layout of messages where none is set up. -/
  | layout
  /-- The table of the styles in which layouts can be written. -/
  | styles
  deriving DecidableEq, Repr

def otherWords : List (String × NoLevel) := [("BASIC_FORMAT", .layout), ("_STYLES", .styles)]

/-- The styles of layouts: the mark of a style, its name and the usual layout in it. -/
def layoutStyles : List (String × String × String) :=
  [("%", "PercentStyle", "%(levelname)s:%(name)s:%(message)s"),
   ("\x7b", "StrFormatStyle", "\x7blevelname\x7d:\x7bname\x7d:\x7bmessage\x7d"),
   ("$", "StringTemplateStyle", "$\x7blevelname\x7d:$\x7bname\x7d:$\x7bmessage\x7d")]

def displayStyle : String × String × String → String
  | (mark, name, layout) =>
    Text.quoted mark ++ ": (<class 'logging." ++ name ++ "'>, " ++ Text.quoted layout ++ ")"

def NoLevel.message : NoLevel → String
  | .layout => "Unknown level: " ++ Text.quoted "%(levelname)s:%(name)s:%(message)s"
  | .styles =>
    "Level not an integer or a valid string: \x7b" ++
      ", ".intercalate (layoutStyles.map displayStyle) ++ "\x7d"

def thresholdOf (word : String) : Except NoLevel Nat :=
  let w := Text.toCapitals word
  match otherWords.lookup w with
  | some other => .error other
  | none => .ok ((thresholds.lookup w).getD Severity.info.number)

/-- The names that a configuration may use for a level, in alphabetical order. -/
def levelNames : List String := ["CRITICAL", "DEBUG", "ERROR", "INFO", "WARNING"]

end FeatureChoice.Log
