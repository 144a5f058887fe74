import FeatureChoice.Number.Binary64
/-!
The shortest decimal that reads back as a given double. On the grid of decimals with so many
digits only the two neighbours of the value can be nearest to it; the first grid with a neighbour
that reads back is taken, and of two such neighbours the nearer one.

Between 10^-4 and 10^16 a double is written positionally, with at least one digit after the point;
outside that range it has an exponent of at least two digits.
-/

namespace FeatureChoice.Binary64

/-- How a quotient compares with a decimal `digits * 10 ^ exponent` on a grid: the greatest decimal
that is not above it. -/
def gridFloor (num den : Nat) (exponent : Int) : Nat :=
  if exponent < 0 then num * Nat.pow 10 exponent.natAbs / den
  else num / (den * Nat.pow 10 exponent.natAbs)

/-- Whether a quotient lies nearer to the upper one of the two decimals `low` and `low + 1` of a
grid, or halfway with `low` odd. -/
def nearerAbove (num den low : Nat) (exponent : Int) : Bool :=
  let (twice, mid) :=
    if exponent < 0 then (2 * num * Nat.pow 10 exponent.natAbs, (2 * low + 1) * den)
    else (2 * num, (2 * low + 1) * den * Nat.pow 10 exponent.natAbs)
  mid < twice || (mid = twice && low % 2 = 1)

/-- The number of zeros directly after the point of a quotient below one, counted on from `zeros`
through so many powers of ten. -/
def zerosAfterPoint (num den : Nat) : Nat → Nat → Nat
  | 0, zeros => zeros
  | fuel + 1, zeros =>
    if den ≤ num * Nat.pow 10 (zeros + 1) then zeros else zerosAfterPoint num den fuel (zeros + 1)

/-- The number of digits before the point of a quotient, or less than one by the zeros after it. A
positive double is at least 10^-324. -/
def pointOf (num den : Nat) : Int :=
  if den ≤ num then Int.ofNat (Nat.toDigits 10 (num / den)).length
  else -Int.ofNat (zerosAfterPoint num den 400 0)

/-- The digits and the exponent of the shortest decimal that reads back, looking at grids of
`count` digits and more; seventeen digits always suffice. -/
def shortestFrom (m : Nat) (e : Int) (num den : Nat) (point : Int) : Nat → Nat → Nat × Int
  | 0, count => (gridFloor num den (point - Int.ofNat count), point - Int.ofNat count)
  | fuel + 1, count =>
    let exponent := point - Int.ofNat count
    let low := gridFloor num den exponent
    let back (digits : Nat) : Bool := ofDecimal false digits exponent = .finite false m e
    match back low, back (low + 1) with
    | true, true =>
      if nearerAbove num den low exponent then (low + 1, exponent) else (low, exponent)
    | true, false => (low, exponent)
    | false, true => (low + 1, exponent)
    | false, false => shortestFrom m e num den point fuel (count + 1)

/-- The shortest decimal for a mantissa and an exponent. -/
def shortest (m : Nat) (e : Int) : Nat × Int :=
  let (num, den) := if e < 0 then (m, Nat.pow 2 e.natAbs) else (m * Nat.pow 2 e.natAbs, 1)
  shortestFrom m e num den (pointOf num den) 17 1

def dropZeros (digits : List Char) : List Char :=
  (digits.reverse.dropWhile (· = '0')).reverse

/-- Digits with a point after the first `point` of them, positionally or with an exponent. -/
def place (digits : List Char) (point : Int) : List Char :=
  let count := Int.ofNat digits.length
  if -4 < point && point ≤ 16 then
    if point ≤ 0 then '0' :: '.' :: (List.replicate point.natAbs '0' ++ digits)
    else if count ≤ point then
      digits ++ List.replicate (point - count).natAbs '0' ++ ['.', '0']
    else digits.take point.natAbs ++ '.' :: digits.drop point.natAbs
  else
    let power := point - 1
    let sign := if power < 0 then '-' else '+'
    let powerDigits := Nat.toDigits 10 power.natAbs
    let padded := if powerDigits.length < 2 then '0' :: powerDigits else powerDigits
    let fraction := digits.drop 1
    digits.take 1 ++ (if fraction.isEmpty then [] else '.' :: fraction) ++ 'e' :: sign :: padded

def display : Binary64 → String
  | .nan => "nan"
  | .infinite negative => if negative then "-inf" else "inf"
  | .finite negative m e =>
    let body :=
      if m = 0 then ['0', '.', '0']
      else
        let (digits, exponent) := shortest m e
        let written := Nat.toDigits 10 digits
        place (dropZeros written) (Int.ofNat written.length + exponent)
    String.ofList (if negative then '-' :: body else body)

end FeatureChoice.Binary64
