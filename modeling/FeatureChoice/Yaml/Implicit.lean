import FeatureChoice.Text.Lines
/-!
Tags, and the forms by which plain scalars get theirs. A plain scalar that is written like a truth,
an integer, a double, a date, nothing, or one of the two special keys has the tag of that form; any
other one is a text.
-/

namespace FeatureChoice.Yaml

/-! ### Tags -/

namespace Tag

/-- What the tags of the schema start with. -/
def root : String := "tag:yaml.org,2002:"

def null : String := root ++ "null"
def bool : String := root ++ "bool"
def int : String := root ++ "int"
def float : String := root ++ "float"
def binary : String := root ++ "binary"
def timestamp : String := root ++ "timestamp"
def str : String := root ++ "str"
def seq : String := root ++ "seq"
def map : String := root ++ "map"
def set : String := root ++ "set"
def omap : String := root ++ "omap"
def pairs : String := root ++ "pairs"
def merge : String := root ++ "merge"
def value : String := root ++ "value"
def mark : String := root ++ "yaml"

end Tag

/-! ### Forms -/

def truthWords : List (String × Bool) :=
  [("yes", true), ("no", false), ("true", true), ("false", false), ("on", true), ("off", false)]

/-- The three ways in which a word may use capitals: not at all, for its first letter, throughout. -/
def spellings (word : String) : List String :=
  [word, word.capitalize, String.ofList (word.toList.map Char.toUpper)]

def isSpelled (words : List String) (text : String) : Bool :=
  words.any fun word => (spellings word).contains text

/-- A pattern of characters: what it can leave of a text that it matches the start of. -/
abbrev Pattern := List Char → List (List Char)

namespace Pattern

/-- One character of a kind. -/
def one (p : Char → Bool) : Pattern
  | [] => []
  | c :: cs => if p c then [cs] else []

def char (x : Char) : Pattern := one (· = x)

def digit : Pattern := one Char.isDigit

/-- Characters of a kind, as many as there are. -/
def run (p : Char → Bool) : Pattern := fun cs => [cs.dropWhile p]

def andThen (p q : Pattern) : Pattern := fun cs => (p cs).flatMap q

def all (ps : List Pattern) : Pattern := fun cs => ps.foldl (fun rests p => rests.flatMap p) [cs]

def optional (p : Pattern) : Pattern := fun cs => p cs ++ [cs]

/-- One of several patterns. -/
def any (ps : List Pattern) : Pattern := fun cs => ps.flatMap fun p => p cs

/-- A pattern at least once, and so many times at most. -/
def some (p : Pattern) : Nat → Pattern
  | 0 => fun _ => []
  | n + 1 => fun cs => (p cs).flatMap fun rest => rest :: some p n rest

/-- Whether a pattern matches a whole text. A line feed at the end may be left over. -/
def matchesAll (p : Pattern) (cs : List Char) : Bool :=
  (p cs).any fun rest => rest = [] || rest = ['\n']

end Pattern

open Pattern

def sign : Pattern := one fun c => c = '+' || c = '-'

/-- Whether a character is a decimal digit or joins digits. -/
def isDigitOrJoint (c : Char) : Bool := c.isDigit || c = '_'

/-- Digits, the first of which is no joint. -/
def joinedDigits : Pattern := (one Char.isDigit).andThen (run isDigitOrJoint)

/-- A part of a number to the base of sixty after its colon. -/
def sixtieth : Pattern :=
  all [char ':', any [(one fun c => '0' ≤ c && c ≤ '5').andThen digit, digit]]

/-- Such parts, at least one; `size` bounds their number. -/
def sixtieths (size : Nat) : Pattern := Pattern.some sixtieth size

def exponent : Pattern :=
  all [one fun c => c = 'e' || c = 'E', sign, digit.andThen (run Char.isDigit)]

def literally (s : String) : Pattern := all (s.toList.map char)

def floatForm (size : Nat) : Pattern :=
  any [
    all [optional sign, joinedDigits, char '.', run isDigitOrJoint, optional exponent],
    all [char '.', joinedDigits, optional exponent],
    all [optional sign, joinedDigits, sixtieths size, char '.', run isDigitOrJoint],
    all [optional sign, char '.', any ((spellings "inf").map literally)],
    all [char '.', any (["nan", "NaN", "NAN"].map literally)]]

/-- Whether a character is a digit of a base of at most ten, or joins digits. -/
def isLowDigit (base : Nat) (c : Char) : Bool := c = '_' || (c.isDigit && c.toNat - 48 < base)

/-- Whether a character is a hexadecimal digit or joins digits. -/
def isHighDigit (c : Char) : Bool :=
  c = '_' || c.isDigit || ('a' ≤ c && c ≤ 'f') || ('A' ≤ c && c ≤ 'F')

def someOf (p : Char → Bool) : Pattern := (one p).andThen (run p)

def intForm (size : Nat) : Pattern :=
  let positive := (one fun c => c.isDigit && c ≠ '0').andThen (run isDigitOrJoint)
  (optional sign).andThen (any [
    all [literally "0b", someOf (isLowDigit 2)],
    all [char '0', someOf (isLowDigit 8)],
    char '0',
    positive,
    all [literally "0x", someOf isHighDigit],
    all [positive, sixtieths size]])

def digits12 : Pattern := digit.andThen (optional digit)

def digits2 : Pattern := digit.andThen digit

def digits4 : Pattern := digits2.andThen digits2

def isSpaceOrTab (c : Char) : Bool := c = ' ' || c = '\t'

def timestampForm : Pattern :=
  any [
    all [digits4, char '-', digits2, char '-', digits2],
    all [digits4, char '-', digits12, char '-', digits12,
      any [one fun c => c = 'T' || c = 't', someOf isSpaceOrTab],
      digits12, char ':', digits2, char ':', digits2,
      optional ((char '.').andThen (run Char.isDigit)),
      optional ((run isSpaceOrTab).andThen
        (any [char 'Z', all [sign, digits12, optional ((char ':').andThen digits2)]]))]]

def Tag.ofText (text : String) : String :=
  let cs := text.toList
  let is (p : Pattern) : Bool := p.matchesAll cs
  let word := Text.trimOneFeed text
  if isSpelled (truthWords.map Prod.fst) word then Tag.bool
  else if is (floatForm cs.length) then Tag.float
  else if is (intForm cs.length) then Tag.int
  else if word = "<<" then Tag.merge
  else if text = "" || word = "~" || isSpelled ["null"] word then Tag.null
  else if is timestampForm then Tag.timestamp
  else if word = "=" then Tag.value
  else if ["!", "&", "*"].contains word then Tag.mark
  else Tag.str

end FeatureChoice.Yaml
