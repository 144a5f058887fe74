import FeatureChoice.Command.Assignment
import FeatureChoice.Text.Lines
import FeatureChoice.Text.Quoted
/-!
Errors of command lines. Each one is reported by the program or by one of its commands.
-/

namespace FeatureChoice.Command

/-- What is wrong with a command line. -/
inductive UsageError where
  /-- An abbreviation stands for several options. -/
  | ambiguous (text : String) (candidates : List String)
  /-- A required argument is missing. -/
  | missing (label : String)
  /-- There are arguments left over. -/
  | leftOver (texts : List String)
  /-- An option that takes no value was given one. -/
  | needless (label value : String)
  /-- An option has no value. -/
  | noValue (label : String)
  /-- Two options exclude each other. -/
  | conflict (label other : String)
  /-- A word is none of those that can stand here. -/
  | badChoice (label word : String) (choices : List String)
  /-- An assignment is bad. -/
  | badAssignment (label : String) (e : BadWord)
  deriving DecidableEq, Repr

def aboutArgument (label message : String) : String := "argument " ++ label ++ ": " ++ message

def UsageError.message : UsageError → String
  | .ambiguous text candidates =>
    "ambiguous option: " ++ text ++ " could match " ++ ", ".intercalate candidates
  | .missing label => "the following arguments are required: " ++ label
  | .leftOver texts => "unrecognized arguments: " ++ " ".intercalate texts
  | .needless label value =>
    aboutArgument label ("ignored explicit argument " ++ Text.quoted value)
  | .noValue label => aboutArgument label "expected one argument"
  | .conflict label other => aboutArgument label ("not allowed with argument " ++ other)
  | .badChoice label word choices =>
    aboutArgument label ("invalid choice: " ++ Text.quoted word ++
      " (choose from " ++ ", ".intercalate (choices.map Text.quoted) ++ ")")
  | .badAssignment label e => aboutArgument label e.message

/-- Why a command line has no arguments. -/
inductive Halt where
  /-- It asks for help. -/
  | help
  /-- It is wrong, which this program or command reports. -/
  | error (program : String) (e : UsageError)
  deriving DecidableEq, Repr

def Halt.code : Halt → Nat
  | .help => 0
  | .error .. => 2

def Halt.report : Halt → String
  | .help => ""
  | .error program e => program ++ ": error: " ++ e.message

def Halt.lastLine (h : Halt) : String := (Text.splitAtFeeds (Text.trimFeeds h.report)).getLastD ""

end FeatureChoice.Command
