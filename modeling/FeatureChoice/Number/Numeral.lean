import FeatureChoice.Number.Binary64
import FeatureChoice.Text.Blank
import FeatureChoice.Text.Digit
/-!
Numerals: texts that stand for integers in some base, or for doubles. Blanks around a numeral do
not count; a sign may come first. An integer may have the mark of its base, and a double may be
named (`inf`, `nan`). The decimal digits of every script count as digits.
-/

namespace FeatureChoice.Numeral

/-- Whether a character is a blank that may stand around a numeral; the information separators may
not. -/
def isMargin (c : Char) : Bool := Text.isBlank c && !(0x1c ≤ c.toNat && c.toNat ≤ 0x1f)

def trimMargins (cs : List Char) : List Char :=
  ((cs.dropWhile isMargin).reverse.dropWhile isMargin).reverse

def digitValue (c : Char) : Option Nat :=
  let n := c.toNat
  if 97 ≤ n && n ≤ 122 then some (n - 87)
  else if 65 ≤ n && n ≤ 90 then some (n - 55)
  else Text.decimalValue c

def ofDigits (base : Nat) : List Char → Option Nat
  | [] => none
  | cs => cs.foldlM (fun total c => do
      let d ← digitValue c
      if d < base then some (total * base + d) else none) 0

/-- The value of decimal digits; other characters count as nothing. -/
def decimal (cs : List Char) : Nat :=
  cs.foldl (fun total c => total * 10 + (Text.decimalValue c).getD 0) 0

def takeSign : List Char → Bool × List Char
  | '-' :: cs => (true, cs)
  | '+' :: cs => (false, cs)
  | cs => (false, cs)

def dropMark (base : Nat) : List Char → List Char
  | z :: c :: cs =>
    if Text.decimalValue z = some 0 && ((base = 16 && (c = 'x' || c = 'X')) ||
        (base = 8 && (c = 'o' || c = 'O')) || (base = 2 && (c = 'b' || c = 'B'))) then cs
    else z :: c :: cs
  | cs => cs

/-- The number of digits that a decimal numeral starts with, after blanks and a sign. -/
def digitCount (cs : List Char) : Nat :=
  ((takeSign (cs.dropWhile isMargin)).2.takeWhile Text.isDecimal).length

def int? (base : Nat) (cs : List Char) : Option Int :=
  let (negative, digits) := takeSign (trimMargins cs)
  (ofDigits base (dropMark base digits)).map fun n =>
    if negative then -Int.ofNat n else Int.ofNat n

/-- A character as a small letter, if it is a letter of the English alphabet. -/
def lowered (c : Char) : Char := c.toLower

/-- The exponent after the digits of a numeral: nothing, or a mark and signed digits. -/
def exponent? : List Char → Option Int
  | [] => some 0
  | c :: cs =>
    if c = 'e' || c = 'E' then
      let (negative, digits) := takeSign cs
      if !digits.isEmpty && digits.all Text.isDecimal then
        some (if negative then -Int.ofNat (decimal digits) else Int.ofNat (decimal digits))
      else none
    else none

def double? (cs : List Char) : Option Binary64 :=
  let (negative, body) := takeSign (trimMargins cs)
  let word := body.map lowered
  if word = "inf".toList || word = "infinity".toList then some (.infinite negative)
  else if word = "nan".toList then some .nan
  else
    let whole := body.takeWhile Text.isDecimal
    let afterWhole := body.dropWhile Text.isDecimal
    let (fraction, afterFraction) := match afterWhole with
      | '.' :: cs => (cs.takeWhile Text.isDecimal, cs.dropWhile Text.isDecimal)
      | cs => ([], cs)
    if whole.isEmpty && fraction.isEmpty then none
    else (exponent? afterFraction).map fun power =>
      .ofDecimal negative (decimal (whole ++ fraction)) (power - Int.ofNat fraction.length)

end FeatureChoice.Numeral
