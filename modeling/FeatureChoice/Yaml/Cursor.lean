import FeatureChoice.Yaml.Error
/-!
A cursor over the text of a document. It knows how many characters it has passed, the line that it
is on and its column there; a byte order mark takes no column. At the end of the text it reads the
null character, which no document holds.
-/

namespace FeatureChoice.Yaml

/-- The text ahead and the place of its first character. -/
structure Cursor where
  rest : List Char
  index : Nat
  line : Nat
  column : Nat
  deriving DecidableEq, Repr

/-- What is read at the end of the text. -/
def endMark : Char := '\x00'

def isBreak (c : Char) : Bool :=
  c = '\n' || c.toNat = 0x85 || c.toNat = 0x2028 || c.toNat = 0x2029

/-- Whether a character breaks the line or marks the end. -/
def endsLine (c : Char) : Bool := c = endMark || isBreak c

/-- Whether a character is a space or ends the line. -/
def endsWord (c : Char) : Bool := c = ' ' || endsLine c

/-- Whether a character is a space or tab, or ends the line. -/
def isGap (c : Char) : Bool := c = '\t' || endsWord c

def isSpace (c : Char) : Bool := c = ' ' || c = '\t'

namespace Cursor

def start (cs : List Char) : Cursor := ⟨cs, 0, 0, 0⟩

def peek (c : Cursor) : Char := c.rest.headD endMark

def peekAt (c : Cursor) (n : Nat) : Char := (c.rest.drop n).headD endMark

def advance (c : Cursor) : Cursor :=
  match c.rest with
  | [] => c
  | x :: xs =>
    if isBreak x then ⟨xs, c.index + 1, c.line + 1, 0⟩
    else ⟨xs, c.index + 1, c.line, if x.toNat = 0xfeff then c.column else c.column + 1⟩

def advanceBy (c : Cursor) : Nat → Cursor
  | 0 => c
  | n + 1 => c.advance.advanceBy n

/-- The longest start of the text that holds only such characters, and the cursor after it. -/
def span (c : Cursor) (p : Char → Bool) : List Char × Cursor :=
  let run := c.rest.takeWhile p
  (run, c.advanceBy run.length)

/-- The cursor after such characters. -/
def skip (c : Cursor) (p : Char → Bool) : Cursor := (c.span p).2

def skipSpaces (c : Cursor) : Cursor := c.skip (· = ' ')

def skipComment (c : Cursor) : Cursor := if c.peek = '#' then c.skip (!isBreak ·) else c

/-- A line break and the cursor after it. The breaks that other texts know as line and paragraph
separators stay as they are. -/
def takeBreak (c : Cursor) : Option (Char × Cursor) :=
  match c.rest with
  | [] => none
  | x :: _ =>
    if x = '\n' || x.toNat = 0x85 then some ('\n', c.advance)
    else if isBreak x then some (x, c.advance)
    else none

def skipBreak (c : Cursor) : Cursor := (c.takeBreak.map Prod.snd).getD c

def atMark (c : Cursor) (mark : String) : Bool :=
  c.rest.take 3 = mark.toList && isGap (c.peekAt 3)

def atDocumentStart (c : Cursor) : Bool := c.atMark "---"

def atDocumentEnd (c : Cursor) : Bool := c.atMark "..."

/-- The end of a line after its last word: spaces and perhaps a comment. -/
def finishLine (c : Cursor) : Except Error Cursor :=
  let c := c.skipSpaces.skipComment
  if endsLine c.peek then .ok c.skipBreak else .error .invalid

end Cursor

end FeatureChoice.Yaml
