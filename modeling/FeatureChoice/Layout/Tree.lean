import FeatureChoice.Layout.Wrap
/-!
Trees of texts, drawn with guides. Every line of a branch stands behind a guide of its own; the
guide of a last branch ends at the first line of the branch.

Main statement: a branch has as many lines behind its guides as it has without them
(`length_hang`).
-/

namespace FeatureChoice.Layout

/-- A tree of texts. -/
inductive Tree where
  | node (label : String) (branches : List Tree)

/-- Lines behind a guide, whose first line differs from the others. -/
def hang (first rest : List Char) : List (List Char) → List (List Char)
  | [] => []
  | l :: ls => (first ++ l) :: ls.map (rest ++ ·)

/-- The guide of a branch that others follow, at its first line and below. -/
def forkGuide : List Char × List Char := ("├── ".toList, "│   ".toList)

/-- The guide of a last branch, at its first line and below. -/
def endGuide : List Char × List Char := ("└── ".toList, "    ".toList)

def guideWidth : Nat := 4

namespace Tree

mutual

/-- The lines of a tree. Where no width is left, nothing is drawn. -/
def lines (limit : Nat) : Tree → List (List Char)
  | .node label branches =>
    (if limit = 0 then [] else wrap limit .fold (shown label)) ++
      branchLines (limit - guideWidth) branches

def branchLines (limit : Nat) : List Tree → List (List Char)
  | [] => []
  | t :: ts =>
    let guide := if ts.isEmpty then endGuide else forkGuide
    hang guide.1 guide.2 (lines limit t) ++ branchLines limit ts

end

end Tree

@[simp] theorem length_hang (first rest : List Char) (ls : List (List Char)) :
    (hang first rest ls).length = ls.length := by
  cases ls <;> simp [hang]

end FeatureChoice.Layout
