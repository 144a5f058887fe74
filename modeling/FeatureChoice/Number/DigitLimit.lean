/-!
The limit on decimal digits. An integer is neither read from more decimal digits than the limit
allows nor written in more.
-/

namespace FeatureChoice.Numeral

/-- The greatest number of decimal digits of an integer that is read or written. -/
def maxDigits : Nat := 4300

/-- Whether an integer has few enough digits to be written. -/
def isWritable (n : Int) : Bool := (Nat.toDigits 10 n.natAbs).length ≤ maxDigits

/-- The decimal text of an integer, unless it has too many digits. -/
def written? (n : Int) : Option String := if isWritable n then some (toString n) else none

/-- What is wrong with an integer beyond the limit, in words; the number of its digits is known if
it was to be read. -/
def limitMessage (count : Option Nat) : String :=
  let found := match count with
    | some n => s!": value has {n} digits"
    | none => ""
  s!"Exceeds the limit ({maxDigits} digits) for integer string conversion{found}; " ++
    "use sys.set_int_max_str_digits() to increase the limit"

end FeatureChoice.Numeral
