import FeatureChoice.Host.Document
/-!
Contexts: what every probe of a cache is called with. A context names the globals of the host, its
document if there is one, and the scratch element that probes share.
-/

namespace FeatureChoice

/-- The globals of a host: the standard ones, or a value of the host's own. -/
inductive Globals where
  | standard
  | own (v : Value)
  deriving Repr

/-- What probes are called with. -/
structure Context where
  globals : Globals
  document : Option DocumentId
  element : Option ElementId
  deriving Repr

namespace Context

def plain : Context := ⟨.standard, none, none⟩

def standardGlobals (c : Context) : Bool :=
  match c.globals with
  | .standard => true
  | .own _ => false

end Context

end FeatureChoice
