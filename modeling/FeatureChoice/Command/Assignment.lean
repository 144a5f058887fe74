import FeatureChoice.Text.Blank
import FeatureChoice.Text.Case
/-!
Assignments of features on the command line: a name alone, which stands for true, or a name, an
equals sign and a word for a truth. Blanks around the word and the case of its letters do not count.

Main statement: an assignment is refused only for the word after its first equals sign
(`ofString_eq_error_iff`).
-/

namespace FeatureChoice.Command

def trueWords : List String := ["1", "true", "yes", "on", "t", "y"]

def falseWords : List String := ["0", "false", "no", "off", "f", "n"]

/-- A feature and the truth that it is given. -/
structure Assignment where
  name : String
  value : Bool
  deriving DecidableEq, Repr

def wordTruth (word : String) : Option Bool :=
  let w := Text.toSmalls (Text.trim word)
  if w ∈ trueWords then some true else if w ∈ falseWords then some false else none

/-- The word of an assignment is not one for a truth. -/
structure BadWord where
  name : String
  word : String
  deriving DecidableEq, Repr

def BadWord.message (e : BadWord) : String :=
  s!"invalid feature value '{e.word}' for '{e.name}' (use true/false)"

/-- The text before the first equals sign, and the text after it, if there is one. -/
def cutAtEquals (text : String) : String × Option String :=
  let cs := text.toList
  let name := String.ofList (cs.takeWhile (· ≠ '='))
  match cs.dropWhile (· ≠ '=') with
  | [] => (name, none)
  | _ :: word => (name, some (String.ofList word))

def Assignment.ofString (text : String) : Except BadWord Assignment :=
  match cutAtEquals text with
  | (name, none) => .ok ⟨name, true⟩
  | (name, some word) =>
    match wordTruth word with
    | some b => .ok ⟨name, b⟩
    | none => .error ⟨name, word⟩

/-- An assignment is refused exactly if what follows the first equals sign is no word for a truth. -/
theorem Assignment.ofString_eq_error_iff (text name word : String) :
    ofString text = .error ⟨name, word⟩ ↔
      cutAtEquals text = (name, some word) ∧ wordTruth word = none := by
  unfold ofString
  split
  · next n eq => simp [eq]
  · next n w eq =>
    split
    · next b found =>
      simp only [eq, Prod.mk.injEq, Option.some.injEq, reduceCtorEq, false_iff]
      rintro ⟨⟨-, rfl⟩, none_found⟩
      simp [found] at none_found
    · next none_found =>
      simp only [eq, Except.error.injEq, BadWord.mk.injEq, Prod.mk.injEq, Option.some.injEq]
      constructor
      · rintro ⟨rfl, rfl⟩; exact ⟨⟨rfl, rfl⟩, none_found⟩
      · rintro ⟨⟨rfl, rfl⟩, -⟩; exact ⟨rfl, rfl⟩

end FeatureChoice.Command
