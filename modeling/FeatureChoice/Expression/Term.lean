/-!
Terms of conditional expressions as trees: a leaf names what is chosen, a guarded term picks one
of two terms by a feature.

A leaf without a name is an absent term (a dangling branch mark, or text that ends too soon); a
leaf with the empty name is an empty one. Neither chooses anything.
-/

namespace FeatureChoice.Expression

/-- A parsed expression. -/
inductive Term where
  | leaf (name : Option String)
  | guarded (feature : String) (whenTrue whenFalse : Term)
  deriving DecidableEq, Repr, Inhabited

namespace Term

/-- The absent term. -/
def absent : Term := .leaf none

def render : Term → String
  | .leaf name => name.getD ""
  | .guarded feature t u => feature ++ "?" ++ t.render ++ ":" ++ u.render

/-- The guards, in the order in which the text names them; repetitions are kept. -/
def guards : Term → List String
  | .leaf _ => []
  | .guarded feature t u => feature :: (t.guards ++ u.guards)

/-- The guarded subterms, in the order in which the text names them. -/
def guardedTerms : Term → List Term
  | .leaf _ => []
  | t@(.guarded _ whenTrue whenFalse) => t :: (whenTrue.guardedTerms ++ whenFalse.guardedTerms)

def leaves : Term → List (Option String)
  | .leaf name => [name]
  | .guarded _ t u => t.leaves ++ u.leaves

/-- The names of guards and leaves, in the order in which the text has them. -/
def names : Term → List String
  | .leaf name => name.toList
  | .guarded feature t u => feature :: (t.names ++ u.names)

/-- Whether a leaf with this name chooses something. -/
def chooses : Option String → Bool
  | none => false
  | some name => name ≠ ""

/-- Every name that the term can choose, from left to right. -/
def candidates (t : Term) : List String :=
  t.leaves.filterMap fun name => if chooses name then name else none

/-- A term has one more leaf than guards. -/
theorem length_leaves (t : Term) : t.leaves.length = t.guards.length + 1 := by
  induction t with
  | leaf => rfl
  | guarded f t u iht ihu => simp [leaves, guards, iht, ihu]; omega

end Term

end FeatureChoice.Expression
