/-!
Binary floating-point numbers of 64 bits, as exact values: a mantissa below 2^53 times a power of
two that is at least 2^-1074, or an infinity, or no number. Every result is the exact one rounded to
the nearest such number, a tie going to the even mantissa.
-/

namespace FeatureChoice

/-- A double: `mantissa * 2 ^ exponent` with a sign, or one of the special values. -/
inductive Binary64 where
  | nan
  | infinite (negative : Bool)
  | finite (negative : Bool) (mantissa : Nat) (exponent : Int)
  deriving DecidableEq, Repr

namespace Binary64

def minExponent : Int := -1074

def maxExponent : Int := 971

def zero (negative : Bool) : Binary64 := .finite negative 0 minExponent

/-- A quotient divided by a power of two, as a quotient. -/
def scaleDown (num den : Nat) (exponent : Int) : Nat × Nat :=
  if exponent < 0 then (num * Nat.pow 2 exponent.natAbs, den)
  else (num, den * Nat.pow 2 exponent.natAbs)

/-- The integer nearest to a quotient, a tie going to the even one. -/
def roundQuotient (num den : Nat) : Nat :=
  let q := num / den
  let twice := 2 * (num % den)
  if twice < den then q else if den < twice then q + 1 else q + q % 2

/-- The double nearest to a quotient of natural numbers. -/
def ofRatio (negative : Bool) (num den : Nat) : Binary64 :=
  if num = 0 || den = 0 then zero negative
  else
    let guess := max (Int.ofNat num.log2 - Int.ofNat den.log2 - 53) minExponent
    let scaled := scaleDown num den guess
    let exponent := if Nat.pow 2 53 ≤ scaled.1 / scaled.2 then guess + 1 else guess
    let scaled := scaleDown num den exponent
    let mantissa := roundQuotient scaled.1 scaled.2
    let (mantissa, exponent) :=
      if mantissa = Nat.pow 2 53 then (Nat.pow 2 52, exponent + 1) else (mantissa, exponent)
    if maxExponent < exponent then .infinite negative else .finite negative mantissa exponent

/-- The double nearest to `digits * 10 ^ exponent`. Far outside the range of doubles the answer is
known from the size alone. -/
def ofDecimal (negative : Bool) (digits : Nat) (exponent : Int) : Binary64 :=
  let size := Int.ofNat (Nat.toDigits 10 digits).length + exponent
  if digits = 0 || size < -400 then zero negative
  else if 400 < size then .infinite negative
  else if exponent < 0 then ofRatio negative digits (Nat.pow 10 exponent.natAbs)
  else ofRatio negative (digits * Nat.pow 10 exponent.natAbs) 1

def ofInt (n : Int) : Binary64 := ofRatio (n < 0) n.natAbs 1

def neg : Binary64 → Binary64
  | .nan => .nan
  | .infinite negative => .infinite !negative
  | .finite negative m e => .finite (!negative) m e

/-- The double nearest to `m * 2 ^ e`. -/
def ofDyadic (negative : Bool) (m : Nat) (e : Int) : Binary64 :=
  if e < 0 then ofRatio negative m (Nat.pow 2 e.natAbs)
  else ofRatio negative (m * Nat.pow 2 e.natAbs) 1

def mul : Binary64 → Binary64 → Binary64
  | .finite s m e, .finite t n f => ofDyadic (s != t) (m * n) (e + f)
  | .infinite s, .finite t n _ => if n = 0 then .nan else .infinite (s != t)
  | .finite s m _, .infinite t => if m = 0 then .nan else .infinite (s != t)
  | .infinite s, .infinite t => .infinite (s != t)
  | _, _ => .nan

/-- A mantissa with its sign. -/
def signed (negative : Bool) (m : Nat) : Int := if negative then -Int.ofNat m else Int.ofNat m

def add : Binary64 → Binary64 → Binary64
  | .finite s m e, .finite t n f =>
    let low := min e f
    let sum := signed s m * Int.pow 2 (e - low).natAbs + signed t n * Int.pow 2 (f - low).natAbs
    ofDyadic (sum < 0 || (sum = 0 && s && t)) sum.natAbs low
  | .infinite s, .infinite t => if s = t then .infinite s else .nan
  | .infinite s, .finite .. => .infinite s
  | .finite .., .infinite t => .infinite t
  | _, _ => .nan

def isZero : Binary64 → Bool
  | .finite _ m _ => m = 0
  | _ => false

def equalsInt (x : Binary64) (n : Int) : Bool :=
  match x with
  | .finite s m e =>
    if e < 0 then signed s m = n * Int.pow 2 e.natAbs else signed s m * Int.pow 2 e.natAbs = n
  | _ => false

/-- Whether two doubles have the same value; the two zeros do, and what is no number never does. -/
def sameValue (x y : Binary64) : Bool := (x = y && x ≠ .nan) || (x.isZero && y.isZero)

end Binary64

end FeatureChoice
