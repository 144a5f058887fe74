import FeatureChoice.Host.Context
import FeatureChoice.Host.Fault
/-!
Probes: host code that finds out whether a feature is there. A probe is called with a context and
then looks at the host and acts on it, one step at a time, each step depending on what the steps
before came to; in the end it has an answer, or it fails. It may handle the faults of what it does.
A script is the tree of all that a probe may do.

Probes share the element of their context, the workspace and the variables of the host: what one of
them leaves there the next one can see. The variables stand for all the state around the library that
probes can look at.
-/

namespace FeatureChoice

/-- What a probe can look at. -/
inductive View where
  | markup
  | children
  /-- Whether a feature of the workspace has an entry. -/
  | contains (name : FeatureName)
  /-- Whether a probe of the workspace has yet to run. -/
  | isPending (name : FeatureName)
  /-- What the workspace knows of its features. -/
  | snapshot
  | ambient (name : String)

/-- What a probe does. -/
inductive Script where
  /-- Answer; what counts is the truth of the answer. -/
  | finish (answer : Value)
  /-- Fail with an error of the host's own. -/
  | fail (kind message : String)
  /-- Look at something. -/
  | look (view : View) (next : Value → Script)
  /-- Set a variable of the host. -/
  | assign (name : String) (value : Value) (next : Script)
  /-- Query a feature. -/
  | query (name : FeatureName) (next : Bool → Script)
  /-- Register a result for a feature. -/
  | register (name : FeatureName) (value : Value) (force : Bool) (next : Script)
  /-- Register a probe for a feature. -/
  | registerProbe (name : FeatureName) (label title : String) (body : Context → Script)
      (force : Bool) (next : Script)
  /-- Give the element new markup. -/
  | setMarkup (markup : String) (next : Script)
  /-- Add a child to the element. -/
  | append (child : Value) (next : Script)
  /-- Empty the element; the answer is whether it was the element itself that was emptied. -/
  | reset (next : Bool → Script)
  /-- Choose by an expression. -/
  | select (expression : String) (next : Option String → Script)
  /-- Do something and go on with its answer, or with the fault that ended it. -/
  | attempt (first : Script) (next : Except Fault Value → Script)

instance : Inhabited Script := ⟨.finish .none⟩

/-- A probe: the label under which its calls are known, the title under which messages show it, and
what it does in a context. -/
structure Probe where
  label : String
  title : String
  body : Context → Script

end FeatureChoice
