/-!
Tokens of YAML documents: the marks of structure, written or implied by indentation, and the
scalars, anchors, aliases and tags between them.
-/

namespace FeatureChoice.Yaml

/-- A directive before a document. -/
inductive Directive where
  | version (major : Nat)
  | handle (name meaning : String)
  | other
  deriving DecidableEq, Repr

/-- A tag as it is written: a full one, or a suffix with the handle that abbreviates its start. -/
structure WrittenTag where
  handle : Option String
  suffix : String
  deriving DecidableEq, Repr

/-- A token. -/
inductive Token where
  | directive (d : Directive)
  | documentStart
  | documentEnd
  | streamEnd
  | blockSequenceStart
  | blockMappingStart
  | blockEnd
  | flowSequenceStart
  | flowSequenceEnd
  | flowMappingStart
  | flowMappingEnd
  | flowEntry
  | blockEntry
  | key
  | value
  | alias (name : String)
  | anchor (name : String)
  | tag (t : WrittenTag)
  | scalar (text : String) (plain : Bool)
  deriving DecidableEq, Repr

end FeatureChoice.Yaml
