import FeatureChoice.Layout.Cells
import FeatureChoice.Text.Blank
import FeatureChoice.Text.Lines
/-!
Texts laid out in lines of limited width. Lines break before words, a word being blanks, ink and the
blanks after it. A word that is too wide for any line is either folded over several lines or
shortened with an ellipsis.

Main statements: the words of a line are the line (`flatten_words`), and so are the parts that a
word is folded into (`flatten_fold`).
-/

namespace FeatureChoice.Layout

/-- What happens to a word that is too wide for a line. -/
inductive Overflow where
  | fold
  | ellipsis
  deriving DecidableEq, Repr

/-! ### What is shown -/

/-- Whether a character moves the cursor in a way that no layout can follow. -/
def isMotion (c : Char) : Bool :=
  let n := c.toNat
  n = 0x07 || n = 0x08 || (0x0b ≤ n && n ≤ 0x0d)

/-- The characters of a text that are shown. -/
def shown (s : String) : List Char := s.toList.filter fun c => !isMotion c

def tabSize : Nat := 8

/-- The parts of a line between tabs from a column on, with a blank and blanks up to the next stop
in the place of each tab. -/
def joinAtStops (column : Nat) : List (List Char) → List Char
  | [] => []
  | [last] => last
  | part :: rest =>
    let part := part ++ [' ']
    let reached := column + width part
    let stop := (reached + tabSize - 1) / tabSize * tabSize
    part ++ blanks (stop - reached) ++ joinAtStops stop rest

def expandTabs (cs : List Char) : List Char := joinAtStops 0 (Text.splitAtEach (· = '\t') cs)

/-! ### Words -/

/-- The parts of a line that start where ink follows a blank. -/
def parts : List Char → List (List Char)
  | [] => []
  | c :: cs =>
    match parts cs with
    | [] => [[c]]
    | p :: ps =>
      if Text.isBlank c && !p.head?.any Text.isBlank then [c] :: p :: ps else (c :: p) :: ps

/-- The words of a line. Blanks at its beginning belong to the first word. -/
def words (cs : List Char) : List (List Char) :=
  match parts cs with
  | p :: q :: ps => if p.all Text.isBlank then (p ++ q) :: ps else p :: q :: ps
  | ps => ps

/-- The parts of a word that is folded, when cells of the first line are used already. -/
def fold (limit : Nat) : Nat → List Cluster → List (List Char)
  | _, [] => [[]]
  | used, k :: ks =>
    let fits := used + k.width ≤ limit
    match fold limit (if fits then used + k.width else k.width) ks with
    | p :: ps => if fits then (k.chars ++ p) :: ps else [] :: (k.chars ++ p) :: ps
    | [] => [k.chars]

/-! ### Lines -/

/-- Lines while they are filled: the finished ones, the last one first, the current one and the
cells that were counted for it. -/
structure Filling where
  done : List (List Char)
  current : List Char
  used : Nat
  deriving DecidableEq, Repr

namespace Filling

def empty : Filling := ⟨[], [], 0⟩

/-- Start a new line, unless nothing was filled in. -/
def newLine (f : Filling) : Filling :=
  if f.done.isEmpty && f.current.isEmpty then f else ⟨f.current :: f.done, [], 0⟩

def put (f : Filling) (part : List Char) : Filling :=
  { f with current := f.current ++ part, used := f.used + width part }

/-- Put a word on the current line if it fits without its last blanks, else on a new one. -/
def putWord (limit : Nat) (overflow : Overflow) (f : Filling) (word : List Char) : Filling :=
  let wide := width (Text.trimEnd word)
  if f.used + wide ≤ limit then f.put word
  else if limit < wide && overflow = .fold then
    (fold limit 0 (clusters word)).foldl (fun f part => f.newLine.put part) f
  else f.newLine.put word

def lines (f : Filling) : List (List Char) := (f.current :: f.done).reverse

end Filling

def breakLine (limit : Nat) (overflow : Overflow) (cs : List Char) : List (List Char) :=
  ((words cs).foldl (Filling.putWord limit overflow) .empty).lines

/-- A line without the blanks at its end that are characters beyond a number. -/
def dropExcess (limit : Nat) (cs : List Char) : List Char :=
  let last := cs.length - (Text.trimEnd cs).length
  cs.take (cs.length - min last (cs.length - limit))

def ellipsis : Char := '…'

def shorten (limit : Nat) (overflow : Overflow) (cs : List Char) : List Char :=
  if width cs ≤ limit then cs
  else match overflow with
    | .fold => cut limit cs
    | .ellipsis => cut (limit - 1) cs ++ [ellipsis]

def wrap (limit : Nat) (overflow : Overflow) (text : List Char) : List (List Char) :=
  (Text.splitAtEach (· = '\n') text).flatMap fun line =>
    (breakLine limit overflow (expandTabs line)).map fun l =>
      shorten limit overflow (dropExcess limit l)

/-! ### Laws -/

/-- The parts of a line are the line. -/
theorem flatten_parts (cs : List Char) : (parts cs).flatten = cs := by
  induction cs with
  | nil => rfl
  | cons c cs ih =>
    unfold parts
    cases eq : parts cs with
    | nil => simp_all
    | cons p ps =>
      rw [eq] at ih
      dsimp only
      split <;> simp [← ih]

theorem flatten_words (cs : List Char) : (words cs).flatten = cs := by
  have eq := flatten_parts cs
  unfold words
  split
  · next p q ps found =>
    rw [found] at eq
    split <;> simp [← eq]
  · exact eq

/-- Folding loses no cluster. -/
theorem flatten_fold (limit used : Nat) (ks : List Cluster) :
    (fold limit used ks).flatten = text ks := by
  induction ks generalizing used with
  | nil => rfl
  | cons k ks ih =>
    have eq := ih (if used + k.width ≤ limit then used + k.width else k.width)
    simp only [fold]
    generalize fold limit (if used + k.width ≤ limit then used + k.width else k.width) ks = ps at eq
    cases ps with
    | nil => simp [← eq]
    | cons p ps =>
      dsimp only
      split <;> simp [← eq]

end FeatureChoice.Layout
