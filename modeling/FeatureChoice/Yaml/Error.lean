import FeatureChoice.Calendar
import FeatureChoice.Number.DigitLimit
import FeatureChoice.Text.Quoted
import FeatureChoice.Value
/-!
Errors of reading YAML. A text can fail to be a document at all; a document can hold a scalar whose
tag promises more than its text keeps, and each kind of scalar then has an error of its own.

Whatever uses documents takes the loader that reads them as given. All it relies on is that a loader
either has data or an error, of which one kind is that of texts which are no documents.
-/

namespace FeatureChoice.Yaml

/-- Why a text has no data. -/
inductive Error where
  /-- The text is not one well-formed document of known tags. -/
  | invalid
  /-- A truth is written in an unknown word. -/
  | unknownTruth (word : String)
  /-- An integer is not written in digits of its base. -/
  | badInteger (base : Nat) (text : String)
  /-- A decimal integer has more digits than are read. -/
  | tooManyDigits (count : Nat)
  /-- A number has no characters left after its sign. -/
  | emptyNumber
  /-- A double is not written as one. -/
  | badDouble (text : String)
  /-- A moment is not written as one. -/
  | badMoment
  /-- A date or moment is not in the calendar. -/
  | calendar (e : Calendar.Error)
  /-- The parts of a double to the base of sixty have weights beyond all doubles. -/
  | heavyParts
  /-- An escape names a code point beyond the last one. -/
  | codePoint
  /-- An escape names a number that is too large even for a code point beyond the last one. -/
  | hugeCode
  /-- A loader stopped for any other reason. -/
  | other (kind message : String)
  deriving DecidableEq, Repr

/-- What reads documents: the data of a text, or why it has none. -/
abbrev Loader := List Char → Except Error Value

/-- The greatest length of a text that a message about an integer quotes. -/
def maxQuotedLength : Nat := 200

def Error.message : Error → String
  | .invalid => "invalid YAML"
  | .unknownTruth word => Text.quoted word
  | .badInteger base text =>
    s!"invalid literal for int() with base {base}: " ++
      String.ofList ((Text.quoted text).toList.take maxQuotedLength)
  | .tooManyDigits count => Numeral.limitMessage (some count)
  | .emptyNumber => "string index out of range"
  | .badDouble text => "could not convert string to float: " ++ Text.quoted text
  | .badMoment => "'NoneType' object has no attribute 'groupdict'"
  | .calendar e => e.message
  | .heavyParts => "int too large to convert to float"
  | .codePoint => "chr() arg not in range(0x110000)"
  | .hugeCode => "Python int too large to convert to C int"
  | .other _ message => message

end FeatureChoice.Yaml
