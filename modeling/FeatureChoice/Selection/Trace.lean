import FeatureChoice.Log.Journal
import FeatureChoice.Selection.Decision
import FeatureChoice.Value
/-!
Rows of the debug trace. Each row starts with the expression being evaluated, shortened if it is
long, so that the decisions of nested evaluations can be told apart.
-/

namespace FeatureChoice.Trace

/-- The number of characters up to which an expression is shown whole. -/
def displayLength : Nat := 40

/-- What stands for the part that is left out. -/
def ellipsis : String := "..."

def shorten : Option String → String
  | none => "--"
  | some expression =>
    let cs := expression.toList
    if cs.isEmpty then "\"\""
    else if displayLength < cs.length then
      String.ofList (cs.take (displayLength - ellipsis.length)) ++ ellipsis
    else expression

def opening (expression : Option String) : String := "[expr:" ++ shorten expression ++ "]"

/-- The number of items up to which a list is shown whole. -/
def displayItems : Nat := 8

/-- A list in words, or the number of its items if they are many. -/
def summarize (count : Nat) (whole : String) : String :=
  if displayItems < count then s!"[{count} items]" else whole

def value : Value → String
  | .list items => summarize items.length (Value.list items).display
  | v => v.display

def leaf (name : Option String) : String := value (name.elim .none .text)

def decisions (ds : List Decision) : String := summarize ds.length (displayDecisions ds)

def row (expression : Option String) (message : String) (fields : List (String × String)) :
    Log.Row :=
  let shown := fields.map fun field => field.1 ++ "=" ++ field.2
  let full := if fields.isEmpty then message else message ++ ": " ++ ", ".intercalate shown
  ⟨.debug, Log.rootLogger, opening expression ++ " " ++ full⟩

/-- The names that a row has for its own parts. -/
def ownNames : List String := ["expression", "message"]

/-- A field goes by the name of one of the row's own parts. -/
structure TakenName where
  name : String
  deriving DecidableEq, Repr

def TakenName.message (e : TakenName) : String :=
  s!"debug_log() got multiple values for argument '{e.name}'"

def rowWith (expression : Option String) (message : String) (fields : List (String × String)) :
    Except TakenName Log.Row :=
  match fields.find? fun field => ownNames.contains field.1 with
  | some (name, _) => .error ⟨name⟩
  | none => .ok (row expression message fields)

def guardRow (expression : String) (d : Decision) : Log.Row :=
  row expression "guard" [("feature", Text.quoted d.feature), ("value", Value.displayBool d.value)]

def selectedRow (s : Selection) : Log.Row :=
  row s.expression "selected" [("value", leaf s.value), ("guards", decisions s.decisions)]

/-- A row shows at most so many characters of its expression. -/
theorem length_shorten_le (expression : String) :
    (shorten (some expression)).length ≤ displayLength := by
  have three : ellipsis.length = 3 := by decide
  simp only [shorten]
  split
  · decide
  · split
    · rw [String.length_append, String.length_ofList, List.length_take, three]
      simp only [displayLength]
      omega
    · next h => rw [← String.length_toList]; omega

end FeatureChoice.Trace
