import FeatureChoice.Feature.Name
import FeatureChoice.Host.Document
import FeatureChoice.Log.Level
import FeatureChoice.Log.TemplateError
import FeatureChoice.Seed.Error
import FeatureChoice.Selection.Trace
import FeatureChoice.Settings.Environment
import FeatureChoice.Text.Utf8
import FeatureChoice.Yaml.Error
/-!
Faults: everything that can end an operation of the library before it has a result. Host code may
raise anything, under a kind and with a message of its own; all other faults are causes of the
library.
-/

namespace FeatureChoice

/-- Why an operation has no result. -/
inductive Fault where
  /-- Host code raised this. -/
  | raised (kind message : String)
  /-- A compound value was to be the key of a feature. -/
  | unkeyed (kind : Compound)
  /-- No cache goes by this name. -/
  | unknownCache (name : String)
  /-- A document lacks a member. -/
  | missingMember (document : DocumentKind) (name : String)
  /-- A plain value was called. -/
  | notCallable
  /-- A member of something absent was used. -/
  | absent (member : String)
  /-- A feature was to be set without a name and a value. -/
  | emptyAssignment
  /-- A seed file or seed is bad. -/
  | seed (e : Seed.Error)
  /-- A scalar of a data file is bad. -/
  | data (e : Yaml.Error)
  /-- An integer with too many digits was to be written. -/
  | longInteger
  /-- A file is not text. -/
  | encoding (e : Text.Utf8Error)
  /-- A file or directory cannot be used. -/
  | file (e : Files.FileError)
  /-- A variable of the environment cannot be set. -/
  | environment (e : VariableError)
  /-- A row of the debug trace was given a field with a name of its own. -/
  | takenName (e : Trace.TakenName)
  /-- A word names no level of the log. -/
  | noLevel (e : Log.NoLevel)
  /-- The values of a message do not fit its places. -/
  | template (e : Log.TemplateError)
  /-- Keys of two kinds were to be put in order. -/
  | unordered (left right : Key)
  /-- A key that is no text was to be shown in a table. -/
  | noText (key : Key)
  deriving Repr

namespace Fault

def ofNoKey : NoKey → Fault
  | .compound kind => .unkeyed kind
  | .longInteger => .longInteger

def message : Fault → String
  | .raised _ message => message
  | .unkeyed .list => "unhashable type: 'list'"
  | .unkeyed .map => "unhashable type: 'dict'"
  | .unknownCache name => Text.quoted name
  | .missingMember .scratch name => name
  | .missingMember _ name => s!"'Doc' object has no attribute '{name}'"
  | .notCallable => "'str' object is not callable"
  | .absent member => s!"'NoneType' object has no attribute {Text.quoted member}"
  | .emptyAssignment => "not enough values to unpack (expected 2, got 0)"
  | .seed e => e.message
  | .data e => e.message
  | .longInteger => Numeral.limitMessage none
  | .encoding e => e.message
  | .file e => e.message
  | .environment e => e.message
  | .takenName e => e.message
  | .noLevel e => e.message
  | .template e => e.message
  | .unordered left right =>
    "'<' not supported between instances of " ++ Text.quoted left.kindName ++ " and " ++
      Text.quoted right.kindName
  | .noText key => Text.quoted key.kindName ++ " object has no attribute 'translate'"

end Fault

end FeatureChoice
