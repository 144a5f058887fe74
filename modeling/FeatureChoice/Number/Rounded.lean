import FeatureChoice.Number.Shortest
/-!
Doubles written with a given number of digits: so many places after the point, so many digits with
an exponent, or so many digits in the shorter of the two forms. Every digit is that of the exact
value rounded to the last place, a tie going to the even digit.
-/

namespace FeatureChoice.Binary64

/-- The forms of a double with a given number of digits. -/
inductive Form where
  /-- With so many places after the point. -/
  | places
  /-- With an exponent, and so many places after the first digit. -/
  | scientific
  /-- With so many digits, positionally unless the number is very small or has more digits. -/
  | general
  deriving DecidableEq, Repr

def quotient (m : Nat) (e : Int) : Nat × Nat :=
  if e < 0 then (m, Nat.pow 2 e.natAbs) else (m * Nat.pow 2 e.natAbs, 1)

/-- The integer nearest to a quotient times a power of ten. -/
def roundScaled (num den : Nat) (power : Int) : Nat :=
  if power < 0 then roundQuotient num (den * Nat.pow 10 power.natAbs)
  else roundQuotient (num * Nat.pow 10 power.natAbs) den

/-- The digits of a number, at least so many. -/
def digitsOf (count n : Nat) : List Char :=
  let digits := Nat.toDigits 10 n
  List.replicate (count - digits.length) '0' ++ digits

/-- Digits with a point before the last of them. A point before nothing is kept only on demand. -/
def withPoint (keep : Bool) (places : Nat) (digits : List Char) : List Char :=
  let whole := digits.length - places
  digits.take whole ++ (if 0 < places || keep then ['.'] else []) ++ digits.drop whole

/-- The number of places after the point, and of digits, beyond which every digit of a double is
zero. -/
def exactPlaces : Nat := 1074

/-- A magnitude with places after the point. -/
def placesText (keep : Bool) (places num den : Nat) : List Char :=
  let exact := min places exactPlaces
  withPoint keep places
    (digitsOf (exact + 1) (roundScaled num den (Int.ofNat exact)) ++
      List.replicate (places - exact) '0')

/-- So many digits of a magnitude, and the power of ten of the first one. -/
def leadingDigits (count num den : Nat) : List Char × Int :=
  if num = 0 then (List.replicate count '0', 0)
  else
    let exact := min count exactPlaces
    let zeros := List.replicate (count - exact) '0'
    let power := pointOf num den - 1
    let n := roundScaled num den (Int.ofNat exact - 1 - power)
    if n = Nat.pow 10 exact then (Nat.toDigits 10 (Nat.pow 10 (exact - 1)) ++ zeros, power + 1)
    else (Nat.toDigits 10 n ++ zeros, power)

def exponentText (power : Int) : List Char :=
  'e' :: (if power < 0 then '-' else '+') :: digitsOf 2 power.natAbs

def scientificText (keep : Bool) (places num den : Nat) : List Char :=
  let (digits, power) := leadingDigits (places + 1) num den
  withPoint keep places digits ++ exponentText power

/-- A magnitude with so many digits. Zeros at the end are dropped unless a point is kept. -/
def generalText (keep : Bool) (count num den : Nat) : List Char :=
  let count := max count 1
  let (digits, power) := leadingDigits count num den
  let trimmed (places : Nat) (ds : List Char) : List Char :=
    if keep then withPoint true places ds
    else
      let fraction := dropZeros (ds.drop (ds.length - places))
      withPoint false fraction.length (ds.take (ds.length - places) ++ fraction)
  if -4 ≤ power && power < Int.ofNat count then
    if power < 0 then
      trimmed (count - 1 + power.natAbs) (List.replicate power.natAbs '0' ++ digits)
    else trimmed (count - 1 - power.natAbs) digits
  else trimmed (count - 1) digits ++ exponentText power

/-- A double in a form with a number of digits; the sign of what is no number is not written. -/
def formText (form : Form) (keep : Bool) (count : Nat) : Binary64 → List Char
  | .nan => "nan".toList
  | .infinite negative => (if negative then "-inf" else "inf").toList
  | .finite negative m e =>
    let (num, den) := quotient m e
    let body := match form with
      | .places => placesText keep count num den
      | .scientific => scientificText keep count num den
      | .general => generalText keep count num den
    if negative then '-' :: body else body

end FeatureChoice.Binary64
