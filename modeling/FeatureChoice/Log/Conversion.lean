import FeatureChoice.Log.TemplateError
import FeatureChoice.Number.Rounded
import FeatureChoice.Value
/-!
Values as the places of a message show them. A letter says what a place takes: `s` a value in words,
`r` and `a` as it is quoted, the latter in ASCII alone; `d`, `i` and `u` an integer, `o`, `x` and `X`
one in another base; `e`, `f` and `g` a double, in capitals if the letter is one; `c` a character. A
number may get a sign, and the text is filled up to a width.

Main statement: a text that is filled up is as long as the width asks (`length_fillUp`).
-/

namespace FeatureChoice.Log

/-- How a place wants its value to be shown. -/
structure Style where
  /-- Blanks are filled in on the right. -/
  left : Bool
  /-- A positive number has a sign. -/
  sign : Bool
  /-- A positive number has a blank for its sign. -/
  blank : Bool
  /-- An integer has the mark of its base, and a double its point. -/
  marked : Bool
  /-- A number is filled up with zeros. -/
  zeros : Bool
  width : Nat
  precision : Option Nat
  deriving DecidableEq, Repr

/-- A value as text. Of a number, the sign and the mark of its base stand apart. -/
structure Shown where
  isNumber : Bool
  sign : List Char
  mark : List Char
  body : List Char
  deriving DecidableEq, Repr

def Shown.signIn (s : Shown) (style : Style) : List Char :=
  if !s.isNumber || !s.sign.isEmpty then s.sign
  else if style.sign then ['+'] else if style.blank then [' '] else []

def Shown.fillUp (s : Shown) (style : Style) : List Char :=
  let front := s.signIn style ++ s.mark
  let gap := style.width - (front.length + s.body.length)
  if style.left then front ++ s.body ++ List.replicate gap ' '
  else if s.isNumber && style.zeros then front ++ List.replicate gap '0' ++ s.body
  else List.replicate gap ' ' ++ front ++ s.body

/-! ### Texts -/

def plainText : Value → String
  | .text s => s
  | v => v.display

def asciiChar (c : Char) : List Char :=
  let n := c.toNat
  if n < 0x80 then [c]
  else if n < 0x100 then '\\' :: 'x' :: Text.hexDigits 2 n
  else if n < 0x10000 then '\\' :: 'u' :: Text.hexDigits 4 n
  else '\\' :: 'U' :: Text.hexDigits 8 n

def showText (style : Style) (cs : List Char) : Shown :=
  ⟨false, [], [], style.precision.elim cs cs.take⟩

/-! ### Integers -/

/-- The greatest number of digits that an integer can be asked to have. -/
def maxIntegerPrecision : Nat := Nat.pow 2 31 - 4

/-- The integer that a double is cut to. -/
def truncated : Binary64 → Except TemplateError Int
  | .nan => .error .nanInteger
  | .infinite _ => .error .infiniteInteger
  | .finite negative m e =>
    let (num, den) := Binary64.quotient m e
    .ok (Binary64.signed negative (num / den))

/-- The integer that a letter for integers takes. -/
def integerOf (letter : Char) : Value → Except TemplateError Int
  | .int n => .ok n
  | .bool b => .ok (if b then 1 else 0)
  | .float x =>
    if "diu".toList.contains letter then truncated x else .error (.noInteger letter "float")
  | v =>
    if "diu".toList.contains letter then .error (.noReal letter v.kindName)
    else .error (.noInteger letter v.kindName)

def baseOf (letter : Char) : Nat :=
  if letter = 'o' then 8 else if "xX".toList.contains letter then 16 else 10

def capitalLike (letter : Char) (cs : List Char) : List Char :=
  if letter.isUpper then cs.map Char.toUpper else cs

def showInteger (style : Style) (letter : Char) (n : Int) : Except TemplateError Shown := do
  let count := style.precision.getD 0
  if maxIntegerPrecision < count then throw .endlessDigits
  let base := baseOf letter
  if base = 10 && !Numeral.isWritable n then throw .longInteger
  let digits := Nat.toDigits base n.natAbs
  let body := List.replicate (count - digits.length) '0' ++ digits
  let mark := if style.marked && base ≠ 10 then ['0', letter.toLower] else []
  return ⟨true, if n < 0 then ['-'] else [], capitalLike letter mark, capitalLike letter body⟩

/-! ### Doubles and characters -/

def doubleOf : Value → Except TemplateError Binary64
  | .float x => .ok x
  | .bool b => .ok (.ofInt (if b then 1 else 0))
  | .int n =>
    match Binary64.ofInt n with
    | .infinite _ => .error .hugeDouble
    | x => .ok x
  | v => .error (.noDouble v.kindName)

/-- The number of digits of a double that none is asked for. -/
def usualPrecision : Nat := 6

def showDouble (style : Style) (letter : Char) (form : Binary64.Form) (x : Binary64) : Shown :=
  match x.formText form style.marked (style.precision.getD usualPrecision) with
  | '-' :: body => ⟨true, ['-'], [], capitalLike letter body⟩
  | body => ⟨true, [], [], capitalLike letter body⟩

def characterOf : Value → Except TemplateError Char
  | .text s =>
    match s.toList with
    | [c] => .ok c
    | _ => .error .noCharacter
  | .int n => if 0 ≤ n && n < 0x110000 then .ok (Char.ofNat n.toNat) else .error .characterRange
  | .bool b => .ok (Char.ofNat (if b then 1 else 0))
  | _ => .error .noCharacter

/-! ### All letters -/

def formOf : Char → Option Binary64.Form
  | 'e' => some .scientific
  | 'f' => some .places
  | 'g' => some .general
  | _ => none

def showValue (style : Style) (letter : Char) (index : Nat) (v : Value) :
    Except TemplateError Shown :=
  if "sra".toList.contains letter then
    if !v.isWritable then .error .longInteger
    else if letter = 's' then .ok (showText style (plainText v).toList)
    else if letter = 'r' then .ok (showText style v.display.toList)
    else .ok (showText style (v.display.toList.flatMap asciiChar))
  else if "diuoxX".toList.contains letter then
    (integerOf letter v).bind (showInteger style letter)
  else if letter = 'c' then (characterOf v).map fun c => ⟨false, [], [], [c]⟩
  else match formOf letter.toLower with
    | some form => (doubleOf v).map (showDouble style letter form)
    | none => .error (.unsupported letter index)

/-! ### Laws -/

/-- Filling up gives exactly the width of the style, or leaves alone what is wider. -/
theorem length_fillUp (s : Shown) (style : Style) :
    (s.fillUp style).length =
      max style.width ((s.signIn style).length + s.mark.length + s.body.length) := by
  unfold Shown.fillUp
  split
  · simp only [List.length_append, List.length_replicate]; omega
  · split <;> simp only [List.length_append, List.length_replicate] <;> omega

end FeatureChoice.Log
