import FeatureChoice.Files.Tree
import FeatureChoice.Value
/-!
What can be wrong with a seed: the file cannot be read, its text is no document, the document is no
mapping, or an item of the mapping has a bad name or a bad value. Every message starts with the
source of the seed.
-/

namespace FeatureChoice.Seed

/-- What is wrong with a seed. -/
inductive Cause where
  | unreadable (errno : Files.Errno)
  | invalidText
  | notMapping (data : Value)
  | badName (name : Value)
  | badValue (name value : Value)
  deriving Repr

/-- An error and the source it was found in. -/
structure Error where
  source : String
  cause : Cause
  deriving Repr

def Cause.message : Cause → String
  | .unreadable errno => s!"cannot read seed file ({errno.message})"
  | .invalidText => "invalid YAML"
  | .notMapping data => s!"expected a mapping of feature name -> boolean, got {data.kindName}"
  | .badName name => s!"feature name {name.display} must be a string or integer"
  | .badValue name value =>
    s!"feature {name.display} must be true/false, got {value.display}"

/-- Whether the message of a cause can be written. -/
def Cause.isWritable : Cause → Bool
  | .badName name => name.isWritable
  | .badValue name value => name.isWritable && value.isWritable
  | _ => true

def Error.message (e : Error) : String := e.source ++ ": " ++ e.cause.message

end FeatureChoice.Seed
