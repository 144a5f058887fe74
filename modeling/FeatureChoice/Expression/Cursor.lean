import FeatureChoice.Expression.Token
/-!
A cursor over any list of tokens. It moves forward one token at a time and may move past the last
one: a read there finds nothing and still counts.

Main statements: a read yields the token at the cursor's position (`next_atPosition`), and passing
over terms counts every read of a delimiter-free pass past the end (`skip_nil`).
-/

namespace FeatureChoice.Expression

/-- The tokens still ahead and the number of reads so far. -/
structure Cursor where
  rest : List String
  position : Nat
  deriving DecidableEq, Repr

namespace Cursor

def start (tokens : List String) : Cursor := ⟨tokens, 0⟩

def atPosition (tokens : List String) (position : Nat) : Cursor :=
  ⟨tokens.drop position, position⟩

/-- Read one token; past the end there is none. -/
def next (c : Cursor) : Option String × Cursor :=
  (c.rest.head?, ⟨c.rest.tail, c.position + 1⟩)

def exhausted (c : Cursor) : Bool := c.rest.isEmpty

/-- What a number of reads in a row find, with the cursor after each. -/
def reads (c : Cursor) : Nat → List (Option String × Cursor)
  | 0 => []
  | n + 1 => c.next :: c.next.2.reads n

/-- Reading moves to the next position and yields the token at the old one, if there is one. -/
theorem next_atPosition (tokens : List String) (position : Nat) :
    (atPosition tokens position).next = (tokens[position]?, atPosition tokens (position + 1)) := by
  simp [next, atPosition, List.head?_drop]

/-! ### Passing over terms -/

/-- Pass over a number of terms without looking at anything but the delimiters. A branch mark in
term position is an absent term of one token; any other token takes the token after it along, and
if that is a guard mark, two more terms belong to it. Past the end a term is two empty reads. -/
def skipTerms : Nat → Nat → List String → Cursor
  | 0, position, tokens => ⟨tokens, position⟩
  | count + 1, position, [] => ⟨[], position + 2 * (count + 1)⟩
  | count + 1, position, [token] =>
    if token = branchToken then skipTerms count (position + 1) []
    else skipTerms count (position + 2) []
  | count + 1, position, token :: second :: tokens =>
    if token = branchToken then skipTerms count (position + 1) (second :: tokens)
    else if second = guardToken then skipTerms (count + 2) (position + 2) tokens
    else skipTerms count (position + 2) tokens

/-- Pass over a number of terms. -/
def skip (count : Nat) (c : Cursor) : Cursor := skipTerms count c.position c.rest

/-- Past the end every skipped term counts two reads. -/
theorem skip_nil (count position : Nat) :
    skip count ⟨[], position⟩ = ⟨[], position + 2 * count⟩ := by
  cases count <;> simp [skip, skipTerms]

end Cursor

end FeatureChoice.Expression
