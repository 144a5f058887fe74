import FeatureChoice.Feature.Bootstrap
import FeatureChoice.Selection.Resolve
/-!
Sessions: what a host asks of one cache, one request after the other. A request that ends with a
fault does not end the session; one in which probes call each other beyond their depth does.
-/

namespace FeatureChoice

/-- Host code outside of probes, with the label under which it is known and its element. -/
structure Callback where
  label : String
  element : Option ElementId
  script : Script

/-- What a host asks of a cache. -/
inductive Request where
  /-- Query a feature, by its operation or by calling the cache. -/
  | query (name : FeatureName)
  /-- Register an offer for a feature and, if asked for, query it at once. -/
  | register (name : FeatureName) (o : Offer) (now force : Bool)
  /-- Register the default features. -/
  | registerDefaults
  /-- Evaluate an expression. -/
  | select (expression : String)
  /-- Resolve an expression. -/
  | resolve (expression : String) (onResolved : String → Callback) (onUnresolved : Callback)
  /-- Resolve an expression with a request for a resource, which may be answered with values. -/
  | load (expression : String) (require : List String → Callback)
      (answer : Option (List String)) (loaded : List String → Callback)

variable {σ : Type} [Hosted σ]

def Callback.run (via : Access σ) (c : Callback) : Run σ Unit := do
  let _ ← c.script.run via c.label c.element

/-- Serve a request to a cache. -/
def Request.run (via : Access σ) (id : CacheId) : Request → Run σ Unit
  | .query name => do
    let _ ← via.ask id name
  | .register name o now force => do
    let _ ← via.register id name o now force
  | .registerDefaults => via.registerDefaults id
  | .select expression => do
    let _ ← via.select id expression
  | .resolve expression onResolved onUnresolved => do
    let _ ← via.resolve (some id) expression (fun name => (onResolved name).run via)
      (onUnresolved.run via)
  | .load expression require answer loaded => do
    let deliver (names : List String) (k : List String → Run σ Unit) : Run σ Unit := do
      (require names).run via
      match answer with
      | some values => k values
      | none => pure ()
    let _ ← via.load id expression deliver fun values => (loaded values).run via

/-- Serve requests to a cache, one after the other. -/
def serve (via : Access σ) (id : CacheId) : List Request → Run σ Unit
  | [] => pure ()
  | request :: requests => do
    let _ ← (request.run via id).attempt
    serve via id requests

end FeatureChoice
