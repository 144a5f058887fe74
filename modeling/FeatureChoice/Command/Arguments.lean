import FeatureChoice.Command.Assignment
/-!
What a command line asks for: how much to report, what to do, and the cache to do it on.
-/

namespace FeatureChoice.Command

/-- How much to report. -/
inductive Verbosity where
  | usual
  | quiet
  | verbose
  | debug
  deriving DecidableEq, Repr

/-- The commands. -/
inductive Verb where
  | resolve
  | explain
  | features
  deriving DecidableEq, Repr

def Verb.word : Verb → String
  | .resolve => "resolve"
  | .explain => "explain"
  | .features => "features"

def Verb.all : List Verb := [.resolve, .explain, .features]

def Verb.ofWord (word : String) : Option Verb := Verb.all.find? fun v => v.word = word

/-- The word for a command stands for it. -/
theorem Verb.ofWord_word (v : Verb) : Verb.ofWord v.word = some v := by cases v <;> rfl

/-- What to do. -/
inductive Task where
  /-- Evaluate an expression and print the selection, as JSON or in words. -/
  | resolve (expression : String) (json : Bool)
  /-- Print the tokens of an expression and its tree. -/
  | explain (expression : String)
  /-- List the features, after running pending probes if they are to be evaluated. -/
  | features (evaluate : Bool)
  deriving DecidableEq, Repr

def Task.verb : Task → Verb
  | .resolve .. => .resolve
  | .explain _ => .explain
  | .features _ => .features

/-- What is given to a switch that takes a value. Two dashes alone, joined to the switch, are as
good as no value. -/
inductive Given (α : Type) where
  | nothing
  | value (a : α)
  deriving DecidableEq, Repr

def Given.toOption {α : Type} : Given α → Option α
  | .nothing => .none
  | .value a => some a

/-- What a command line says about the cache. -/
structure Supply where
  features : List (Given Assignment)
  seed : Option (Given String)
  noDefaults : Bool
  deriving DecidableEq, Repr

def Supply.none : Supply := ⟨[], .none, false⟩

/-- What a command line asks for. -/
structure Arguments where
  verbosity : Verbosity
  task : Task
  supply : Supply
  deriving DecidableEq, Repr

end FeatureChoice.Command
