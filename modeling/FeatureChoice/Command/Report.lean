import FeatureChoice.Data.OrderedMap
import FeatureChoice.Expression.Token
import FeatureChoice.Host.Fault
import FeatureChoice.Layout.Table
import FeatureChoice.Layout.Tree
import FeatureChoice.Selection.Decision
import FeatureChoice.Selection.Explain
import FeatureChoice.Text.JsonText
/-!
What the commands print: a selection in words or as JSON, an explanation as a tree, and the features
of a cache as a table. The terminal has a fixed width.

Main statement: where the entries of a cache can be sorted, none is lost (`length_sortedEntries`).
-/

namespace FeatureChoice.Command

def terminalWidth : Nat := 120

/-- A text on the lines that it takes. -/
def textLines (s : String) : List String :=
  (Layout.wrap terminalWidth .fold (Layout.shown s)).map String.ofList

def displayTruth (b : Bool) : String := if b then "true" else "false"

/-! ### Selections -/

def decisionText (d : Decision) : String := "  " ++ d.feature ++ " = " ++ displayTruth d.value

def selectionTexts (s : Selection) : List String :=
  (match s.identifier with
    | some name => "selected " ++ name
    | none => "no selection") :: s.decisions.map decisionText

def decisionJson (d : Decision) : JsonText.Document :=
  JsonText.object [("feature", JsonText.text d.feature), ("value", JsonText.bool d.value)]

def selectionJson (s : Selection) : JsonText.Document :=
  JsonText.object [("expression", JsonText.text s.expression),
    ("identifier", s.identifier.elim JsonText.null JsonText.text),
    ("selected", JsonText.bool s.selected),
    ("decisions", JsonText.array (s.decisions.map decisionJson))]

/-! ### Explanations -/

def leafText : Option String → String
  | none => "(none)"
  | some "" => "(empty)"
  | some name => name

/-- The mark of the leaf that is reached. -/
def resultMark : String := "  <- result"

def leafLabel (name : Option String) (reached : Bool) : String :=
  leafText name ++ if reached then resultMark else ""

def guardLabel (feature : String) (answer : Option Bool) : String :=
  "guard " ++ feature ++ answer.elim " (skipped)" fun b => " = " ++ displayTruth b

/-- An explanation as a tree, with something in front of its label. -/
def explanationTree (lead : String) : Explanation → Layout.Tree
  | .leaf name reached => .node (lead ++ leafLabel name reached) []
  | .guarded feature answer t u =>
    .node (lead ++ guardLabel feature answer) [explanationTree "? " t, explanationTree ": " u]

def tokensText (expression : String) : String :=
  "tokens: " ++ " ".intercalate ((Expression.tokenize expression).map Text.quoted)

def expressionTree (expression : String) (e : Explanation) : Layout.Tree :=
  .node ("expression " ++ Text.quoted expression) [explanationTree "" e]

def explanationLines (expression : String) (e : Explanation) : List String :=
  textLines (tokensText expression) ++
    (Layout.Tree.lines terminalWidth (expressionTree expression e)).map String.ofList

/-! ### Features -/

def textEntry {α : Type} : Key × α → Option (String × α)
  | (.text s, a) => some (s, a)
  | _ => none

/-- Entries in the alphabetical order of their keys, which have to be texts. Keys of different kinds
have no order, and a key of another kind cannot be shown. -/
def sortedEntries {α : Type} (entries : List (Key × α)) : Except Fault (List (String × α)) :=
  match entries with
  | [] => .ok []
  | (first, _) :: rest =>
    match rest.find? fun e => e.1.kindName ≠ first.kindName with
    | some (other, _) => .error (.unordered other first)
    | none =>
      match first with
      | .text _ => .ok ((entries.filterMap textEntry).mergeSort fun a b => a.1 ≤ b.1)
      | key => .error (.noText key)

/-- Messages call a key a text exactly if it is one. -/
theorem kindName_eq_str_iff {k : Key} : k.kindName = "str" ↔ ∃ s, k = .text s := by
  cases k <;> simp [Key.kindName, Key.toName, FeatureName.toValue, Value.kindName]

/-- Sorting keeps the number of entries. -/
theorem length_sortedEntries {α : Type} {entries : List (Key × α)} {sorted : List (String × α)}
    (h : sortedEntries entries = .ok sorted) : sorted.length = entries.length := by
  unfold sortedEntries at h
  split at h
  · simp_all
  · next first a rest =>
    split at h
    · simp at h
    · next alike =>
      split at h
      · next name =>
        have texts : ∀ e ∈ rest, ∃ s, e.1 = .text s := by
          intro e mem
          have kind := List.find?_eq_none.1 alike e mem
          simp only [ne_eq, decide_not, Bool.not_eq_true', Bool.not_eq_false, decide_eq_true_eq] at kind
          exact kindName_eq_str_iff.1 kind
        have kept : (rest.filterMap textEntry).length = rest.length := by
          clear alike h
          induction rest with
          | nil => rfl
          | cons e rest ih =>
            obtain ⟨s, eq⟩ := texts e (by simp)
            obtain ⟨key, b⟩ := e
            cases eq
            simpa [textEntry] using ih fun e mem => texts e (by simp [mem])
        cases h
        simp [textEntry, kept, List.length_mergeSort]
      · simp at h

def featureRow : String × Option Bool → List String
  | (name, none) => [name, "pending", "-"]
  | (name, some b) => [name, "resolved", displayTruth b]

def featureTable (snapshot : OrderedMap Key (Option Bool)) : Except Fault Layout.Table := do
  let entries ← sortedEntries snapshot.entries
  return ⟨"Features", ["Feature", "State", "Value"], entries.map featureRow⟩

def tableLines (t : Layout.Table) : List String :=
  (t.lines terminalWidth).map String.ofList

end FeatureChoice.Command
