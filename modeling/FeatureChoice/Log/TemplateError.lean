import FeatureChoice.Number.DigitLimit
import FeatureChoice.Text.Quoted
/-!
What can be wrong with a message and the values for its places: a place is not written in full, the
values are too few or too many, or a value is none that its place can take.
-/

namespace FeatureChoice.Log

/-- Why the places of a message cannot be filled. -/
inductive TemplateError where
  /-- The message ends within a place. -/
  | incomplete
  /-- The message ends within the key of a place. -/
  | incompleteKey
  /-- A place has a key, but the values are not in a mapping. -/
  | noMapping
  /-- The mapping lacks a key. -/
  | missingKey (key : String)
  /-- A width is written with too large a number. -/
  | wideField
  /-- A precision is written with too large a number. -/
  | longPrecision
  /-- The value that stands for a width or precision is no integer. -/
  | noStarInteger
  /-- The value that stands for a width is too large. -/
  | hugeWidth
  /-- The value that stands for a precision is too large. -/
  | hugePrecision
  /-- An integer was to have more digits than can be counted. -/
  | endlessDigits
  /-- There is a place without a value. -/
  | tooFew
  /-- There is a value without a place. -/
  | leftOver
  /-- The letter of a place, found at an index, means nothing. -/
  | unsupported (letter : Char) (index : Nat)
  /-- A value of another kind stands where a letter takes a number. -/
  | noReal (letter : Char) (kind : String)
  /-- A value of another kind stands where a letter takes an integer. -/
  | noInteger (letter : Char) (kind : String)
  /-- A value of another kind stands where a double is needed. -/
  | noDouble (kind : String)
  /-- A double that is no number was to become an integer. -/
  | nanInteger
  /-- An infinity was to become an integer. -/
  | infiniteInteger
  /-- An integer is too large for a double. -/
  | hugeDouble
  /-- A value stands for no character. -/
  | noCharacter
  /-- An integer is beyond the code points. -/
  | characterRange
  /-- An integer with too many digits was to be written. -/
  | longInteger
  deriving DecidableEq, Repr

def unseenLetter : Char := '?'

def TemplateError.message : TemplateError → String
  | .incomplete => "incomplete format"
  | .incompleteKey => "incomplete format key"
  | .noMapping => "format requires a mapping"
  | .missingKey key => Text.quoted key
  | .wideField => "width too big"
  | .longPrecision => "precision too big"
  | .noStarInteger => "* wants int"
  | .hugeWidth => "Python int too large to convert to C ssize_t"
  | .hugePrecision => "Python int too large to convert to C int"
  | .endlessDigits => "precision too large"
  | .tooFew => "not enough arguments for format string"
  | .leftOver => "not all arguments converted during string formatting"
  | .unsupported letter index =>
    let shown := if 31 ≤ letter.toNat && letter.toNat ≤ 126 then letter else unseenLetter
    let code := String.ofList (Nat.toDigits 16 letter.toNat)
    s!"unsupported format character '{shown}' (0x{code}) at index {index}"
  | .noReal letter kind => s!"%{letter} format: a real number is required, not {kind}"
  | .noInteger letter kind => s!"%{letter} format: an integer is required, not {kind}"
  | .noDouble kind => s!"must be real number, not {kind}"
  | .nanInteger => "cannot convert float NaN to integer"
  | .infiniteInteger => "cannot convert float infinity to integer"
  | .hugeDouble => "int too large to convert to float"
  | .noCharacter => "%c requires int or char"
  | .characterRange => "%c arg not in range(0x110000)"
  | .longInteger => Numeral.limitMessage none

end FeatureChoice.Log
