import FeatureChoice.Expression.Term
/-!
Decisions and selections: the guards that were asked with their answers, and the outcome of
evaluating an expression with the decisions that led to it.
-/

namespace FeatureChoice

/-- A guard that was asked, and the answer. -/
structure Decision where
  feature : String
  value : Bool
  deriving DecidableEq, Repr

def Decision.display (d : Decision) : String := d.feature ++ (if d.value then "=T" else "=F")

def displayDecisions (ds : List Decision) : String :=
  "[" ++ ", ".intercalate (ds.map Decision.display) ++ "]"

/-- The outcome of evaluating an expression: the name at the chosen leaf and the decisions. -/
structure Selection where
  expression : String
  value : Option String
  decisions : List Decision
  deriving DecidableEq, Repr

namespace Selection

/-- The selected identifier; an absent or empty leaf selects nothing. -/
def identifier (s : Selection) : Option String := s.value.filter fun name => name ≠ ""

def selected (s : Selection) : Bool := s.identifier.isSome

def queried (s : Selection) : List String := s.decisions.map Decision.feature

/-- Something was selected exactly if the leaf that was reached chooses something. -/
theorem selected_iff (s : Selection) :
    s.selected = true ↔ Expression.Term.chooses s.value = true := by
  cases h : s.value <;> simp [selected, identifier, h, Expression.Term.chooses]

end Selection

end FeatureChoice
