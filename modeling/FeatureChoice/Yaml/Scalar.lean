import FeatureChoice.Number.Numeral
import FeatureChoice.Text.Case
import FeatureChoice.Value
import FeatureChoice.Yaml.Error
import FeatureChoice.Yaml.Implicit
/-!
The values of scalars. Each tag of the schema has its way of reading a text; a text that does not
keep what its tag promises is an error of its own kind.

Integers may be written to the bases two, eight, ten, sixteen and sixty, and digits may be joined by
underscores; doubles to the bases ten and sixty.
-/

namespace FeatureChoice.Yaml

open Numeral (takeSign)

def withoutJoints (cs : List Char) : List Char := cs.filter (· ≠ '_')

def integerOf (base : Nat) (cs : List Char) : Except Error Int :=
  if base = 10 && Numeral.maxDigits < Numeral.digitCount cs then
    .error (.tooManyDigits (Numeral.digitCount cs))
  else match Numeral.int? base cs with
    | some n => .ok n
    | none => .error (.badInteger base (String.ofList cs))

def doubleOf (cs : List Char) : Except Error Binary64 :=
  match Numeral.double? cs with
  | some x => .ok x
  | none => .error (.badDouble (String.ofList cs))

def sixtiethParts (cs : List Char) : List (List Char) := Text.splitAtEach (· = ':') cs

def readInteger (text : String) : Except Error Int := do
  let cs := withoutJoints text.toList
  if cs.isEmpty then throw .emptyNumber
  let (negative, digits) := takeSign cs
  let n ← match digits with
    | [] => throw .emptyNumber
    | ['0'] => pure 0
    | '0' :: 'b' :: body => integerOf 2 body
    | '0' :: 'x' :: body => integerOf 16 body
    | '0' :: _ => integerOf 8 digits
    | _ =>
      if digits.contains ':' then
        return (← (sixtiethParts digits).mapM (integerOf 10)).foldl (fun n part => n * 60 + part) 0 *
          (if negative then -1 else 1)
      else integerOf 10 digits
  return if negative then -n else n

/-- The sum of parts to the base of sixty, the last part first; `weight` is that of the first of
those left. Each weight has to be a double, even that of a zero. -/
def sumSixtieths (weight : Int) (total : Binary64) : List Binary64 → Except Error Binary64
  | [] => .ok total
  | part :: parts =>
    match Binary64.ofInt weight with
    | .infinite _ => .error .heavyParts
    | w => sumSixtieths (weight * 60) (total.add (part.mul w)) parts

/-- A text that is to be a double, in small letters and without joints. -/
def doubleText (text : String) : List Char :=
  (Text.toSmalls (String.ofList (withoutJoints text.toList))).toList

def nanName : List Char := ".nan".toList

/-- Whether a text names the double that is no number, with a sign or without. -/
def namesNan (text : String) : Bool := (takeSign (doubleText text)).2 = nanName

def readDouble (text : String) : Except Error Binary64 := do
  let cs := doubleText text
  if cs.isEmpty then throw .emptyNumber
  let (negative, digits) := takeSign cs
  let x ←
    if digits = ".inf".toList then pure (Binary64.infinite false)
    else if digits = nanName then pure Binary64.nan
    else if digits.contains ':' then do
      let parts ← (sixtiethParts digits).mapM doubleOf
      sumSixtieths 1 (.zero false) parts.reverse
    else doubleOf digits
  return if negative then x.neg else x

def readTruth (text : String) : Except Error Bool :=
  let word := Text.toSmalls text
  match truthWords.lookup word with
  | some b => .ok b
  | none => .error (.unknownTruth word)

/-! ### Bytes -/

/-- The value of a character as six bits of encoded bytes. -/
def sixBits (c : Char) : Option Nat :=
  if c.isUpper then some (c.toNat - 65)
  else if c.isLower then some (c.toNat - 71)
  else if c.isDigit then some (c.toNat + 4)
  else if c = '+' then some 62
  else if c = '/' then some 63
  else none

/-- Bytes in groups of four characters of six bits each. `place` is the place in the group, `kept`
the bits that are left over, and `pads` the number of padding marks in a row; other characters do
not count. A group that is padded ends the bytes, one that is cut off is an error. -/
def decodeGroups : Nat → Nat → Nat → List UInt8 → List Char → Option (List UInt8)
  | place, _, _, seen, [] => if place = 0 then some seen.reverse else none
  | place, kept, pads, seen, c :: cs =>
    if c = '=' then
      if 2 ≤ place then
        if 4 ≤ place + pads + 1 then some seen.reverse
        else decodeGroups place kept (pads + 1) seen cs
      else decodeGroups place kept pads seen cs
    else match sixBits c with
      | none => decodeGroups place kept pads seen cs
      | some bits =>
        match place with
        | 0 => decodeGroups 1 bits 0 seen cs
        | 1 => decodeGroups 2 (bits % 16) 0 (UInt8.ofNat (kept * 4 + bits / 16) :: seen) cs
        | 2 => decodeGroups 3 (bits % 4) 0 (UInt8.ofNat (kept * 16 + bits / 4) :: seen) cs
        | _ => decodeGroups 0 0 0 (UInt8.ofNat (kept * 64 + bits) :: seen) cs

def readBytes (text : String) : Except Error (List UInt8) :=
  let cs := text.toList
  if cs.all fun c => c.toNat < 128 then
    match decodeGroups 0 0 0 [] cs with
    | some data => .ok data
    | none => .error .invalid
  else .error .invalid

/-! ### Dates and moments -/

/-- Digits, at least and at most so many, as many as there are. -/
def takeDigits (least most : Nat) (cs : List Char) : Option (Nat × List Char) :=
  let digits := (cs.take most).takeWhile Char.isDigit
  if least ≤ digits.length then some (Numeral.decimal digits, cs.drop digits.length) else none

def takeChar (x : Char) : List Char → Option (List Char)
  | [] => none
  | c :: cs => if c = x then some cs else none

/-- The distance of a clock from universal time, which is an hour, minutes and a sign, or none. -/
def takeOffset (cs : List Char) : Option (Option Int × List Char) :=
  match cs.dropWhile isSpaceOrTab with
  | 'Z' :: rest => some (some 0, rest)
  | c :: rest =>
    if c = '+' || c = '-' then do
      let (hours, rest) ← takeDigits 1 2 rest
      let (minutes, rest) := ((takeChar ':' rest).bind (takeDigits 2 2)).getD (0, rest)
      let seconds := Int.ofNat (hours * 3600 + minutes * 60)
      return (some (if c = '-' then -seconds else seconds), rest)
    else some (none, cs)
  | [] => some (none, cs)

/-- The microseconds of a fraction of a second. -/
def takeFraction (cs : List Char) : Nat × List Char :=
  match cs with
  | '.' :: rest =>
    let digits := (rest.takeWhile Char.isDigit).take 6
    (Numeral.decimal (digits ++ List.replicate (6 - digits.length) '0'),
      rest.dropWhile Char.isDigit)
  | _ => (0, cs)

/-- Whether nothing is left but, perhaps, a line feed. -/
def isDone (cs : List Char) : Bool := cs = [] || cs = ['\n']

/-- The parts of a date or moment. -/
structure TimeParts where
  year : Nat
  month : Nat
  day : Nat
  /-- Hour, minute, second, microsecond and offset. -/
  time : Option (Nat × Nat × Nat × Nat × Option Int)
  deriving Repr

def timeParts (cs : List Char) : Option TimeParts := do
  let (year, cs) ← takeDigits 4 4 cs
  let (month, cs) ← takeDigits 1 2 (← takeChar '-' cs)
  let (day, cs) ← takeDigits 1 2 (← takeChar '-' cs)
  if isDone cs then return ⟨year, month, day, none⟩
  let cs ← match cs with
    | 'T' :: rest | 't' :: rest => some rest
    | c :: rest => if isSpaceOrTab c then some (rest.dropWhile isSpaceOrTab) else none
    | [] => none
  let (hour, cs) ← takeDigits 1 2 cs
  let (minute, cs) ← takeDigits 2 2 (← takeChar ':' cs)
  let (second, cs) ← takeDigits 2 2 (← takeChar ':' cs)
  let (microsecond, cs) := takeFraction cs
  let (offset, cs) ← takeOffset cs
  if isDone cs then return ⟨year, month, day, some (hour, minute, second, microsecond, offset)⟩
  else none

def readTime (text : String) : Except Error Value := do
  match timeParts text.toList with
  | none => throw .badMoment
  | some ⟨year, month, day, none⟩ =>
    return .date (← (Calendar.Date.of? year month day).mapError .calendar)
  | some ⟨year, month, day, some (hour, minute, second, microsecond, offset)⟩ =>
    return .moment (← (Calendar.Moment.of? year month day hour minute second microsecond
      offset).mapError .calendar)

/-! ### All scalars -/

def readScalar (tag text : String) : Except Error Value :=
  if tag = Tag.null then .ok .none
  else if tag = Tag.bool then .bool <$> readTruth text
  else if tag = Tag.int then .int <$> readInteger text
  else if tag = Tag.float then .float <$> readDouble text
  else if tag = Tag.binary then .bytes <$> readBytes text
  else if tag = Tag.timestamp then readTime text
  else if tag = Tag.str then .ok (.text text)
  else .error .invalid

end FeatureChoice.Yaml
