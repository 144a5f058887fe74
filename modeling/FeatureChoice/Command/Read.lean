import FeatureChoice.Command.Arguments
import FeatureChoice.Command.Switch
/-!
Reading a command line. Switches about verbosity come before the command, all others after it. What
is left over is an error of the whole command line, and only if nothing else is.

Main statement: the task that is read after a command is a task of that command
(`verb_eq_of_task`).
-/

namespace FeatureChoice.Command

def program : String := "hascond"

/-! ### The switches -/

def helpSwitch : Switch := ⟨["-h", "--help"], false⟩

def quietSwitch : Switch := ⟨["-q", "--quiet"], false⟩

def verboseSwitch : Switch := ⟨["-v", "--verbose"], false⟩

def debugSwitch : Switch := ⟨["--debug"], false⟩

def jsonSwitch : Switch := ⟨["--json"], false⟩

def evaluateSwitch : Switch := ⟨["--evaluate"], false⟩

def featureSwitch : Switch := ⟨["-f", "--feature"], true⟩

def seedSwitch : Switch := ⟨["--seed"], true⟩

def noDefaultsSwitch : Switch := ⟨["--no-defaults"], false⟩

def outerSwitches : List Switch := [helpSwitch, quietSwitch, verboseSwitch, debugSwitch]

def Verbosity.switch : Verbosity → Option Switch
  | .usual => none
  | .quiet => some quietSwitch
  | .verbose => some verboseSwitch
  | .debug => some debugSwitch

def Verbosity.ofSwitch (s : Switch) : Option Verbosity :=
  [Verbosity.quiet, .verbose, .debug].find? fun v => v.switch = some s

def Verb.ownSwitches : Verb → List Switch
  | .resolve => [jsonSwitch]
  | .explain => []
  | .features => [evaluateSwitch]

def Verb.switches (v : Verb) : List Switch :=
  helpSwitch :: v.ownSwitches ++ [featureSwitch, seedSwitch, noDefaultsSwitch]

def Verb.subject : Verb → Subject
  | .features => .nothing
  | _ => .oneWord

def Verb.program (v : Verb) : String := Command.program ++ " " ++ v.word

/-! ### After the command -/

/-- What was read after a command. -/
structure Order where
  supply : Supply
  marked : Bool
  expression : Option String
  leftOver : List String
  deriving DecidableEq, Repr

def Order.empty : Order := ⟨.none, false, none, []⟩

/-- What the text after a switch gives it. -/
def givenText (text : String) : Given String :=
  if text = dividerText then .nothing else .value text

def readGiven {α ε : Type} (read : String → Except ε α) (text : String) : Except ε (Given α) :=
  match givenText text with
  | .nothing => .ok .nothing
  | .value text => (read text).map .value

def Order.read (v : Verb) (o : Order) : Found → Except Halt Order
  | .surplus text => .ok { o with leftOver := o.leftOver ++ [text] }
  | .words ws => .ok { o with expression := ws.head? }
  | .use s value =>
    if s = helpSwitch then .error .help
    else if s = featureSwitch then
      match readGiven Assignment.ofString (value.getD "") with
      | .ok a => .ok { o with supply := { o.supply with features := o.supply.features ++ [a] } }
      | .error e => .error (.error v.program (.badAssignment s.label e))
    else if s = seedSwitch then
      .ok { o with supply := { o.supply with seed := some (givenText (value.getD "")) } }
    else if s = noDefaultsSwitch then
      .ok { o with supply := { o.supply with noDefaults := true } }
    else .ok { o with marked := true }

/-- The task of an order. -/
def Order.task (v : Verb) (o : Order) : Except Halt Task :=
  match v, o.expression with
  | .features, _ => .ok (.features o.marked)
  | .resolve, some e => .ok (.resolve e o.marked)
  | .explain, some e => .ok (.explain e)
  | _, none => .error (.error v.program (.missing "expression"))

def readOrder (v : Verb) (texts : List String) : Except Halt (Task × Order) := do
  let ps ← (pieces v.switches texts).mapError (.error v.program)
  let fs := findings v.switches v.subject ps
  let o ← fs.found.foldlM (Order.read v) .empty
  if let some e := fs.error then throw (.error v.program e)
  return (← o.task v, o)

/-! ### The whole command line -/

/-- What was read of a whole command line. -/
structure Outer where
  verbosity : Verbosity
  order : Option (Task × Order)
  leftOver : List String
  deriving DecidableEq, Repr

def Outer.empty : Outer := ⟨.usual, none, []⟩

/-- An error that the program itself reports. -/
def refuse {α : Type} (e : UsageError) : Except Halt α := .error (.error program e)

/-- Read a switch about verbosity. -/
def Outer.readVerbosity (o : Outer) (s : Switch) (v : Verbosity) : Except Halt Outer :=
  match o.verbosity.switch with
  | some other => if other = s then .ok o else refuse (.conflict s.label other.label)
  | none => .ok { o with verbosity := v }

def Outer.read (o : Outer) : Found → Except Halt Outer
  | .surplus text => .ok { o with leftOver := o.leftOver ++ [text] }
  | .words [] => .ok o
  | .words (word :: texts) =>
    match Verb.ofWord word with
    | none => refuse (.badChoice "command" word (Verb.all.map Verb.word))
    | some v => do
      let order ← readOrder v texts
      return { o with order := some order }
  | .use s _ =>
    match Verbosity.ofSwitch s with
    | some v => o.readVerbosity s v
    | none => .error .help

def readArguments (texts : List String) : Except Halt Arguments := do
  let ps ← (pieces outerSwitches texts).mapError (.error program)
  let fs := findings outerSwitches .everything ps
  let o ← fs.found.foldlM Outer.read .empty
  if let some e := fs.error then refuse e
  match o.order with
  | none => refuse (.missing "command")
  | some (task, order) =>
    match o.leftOver ++ order.leftOver with
    | [] => return ⟨o.verbosity, task, order.supply⟩
    | leftOver => refuse (.leftOver leftOver)

/-- The task that is read after a command is a task of that command. -/
theorem verb_eq_of_task {v : Verb} {o : Order} {t : Task} (h : o.task v = .ok t) :
    t.verb = v := by
  cases v <;> cases eq : o.expression <;> simp_all [Order.task] <;> subst h <;> rfl

end FeatureChoice.Command
