import FeatureChoice.Feature.Query
/-!
Resolution: an expression is evaluated and the outcome is handed to exactly one of two
continuations. The loader's contract is resolution with a request for one resource.
-/

namespace FeatureChoice

def resolveLogger : String := Log.moduleLogger "rules.resolve"

def resolvedMessage (s : Selection) : String :=
  match s.identifier with
  | some name => s!"resolved {Text.quoted s.expression} -> {Text.quoted name}"
  | none => s!"resolved {Text.quoted s.expression} -> no selection"

variable {σ : Type} [Hosted σ]

namespace Access

/-- Evaluate an expression on a cache and continue with what it selects, or with nothing. -/
def resolve (via : Access σ) (cache : Option CacheId) (expression : String)
    (onResolved : String → Run σ Unit) (onUnresolved : Run σ Unit) : Run σ Selection := do
  let s ← via.selectOn cache expression
  (Host.say resolveLogger (resolvedMessage s)).onHost
  match s.identifier with
  | some name => onResolved name
  | none => onUnresolved
  return s

/-- Evaluate an expression on a cache and request the selected resource; `require` is told the
identifiers and what to call with the values, and without a selection that is called with none. -/
def load (via : Access σ) (id : CacheId) (expression : String)
    (require : List String → (List String → Run σ Unit) → Run σ Unit)
    (loaded : List String → Run σ Unit) : Run σ Selection :=
  via.resolve (some id) expression (fun name => require [name] loaded) (loaded [])

end Access

/-- Resolve an expression on a cache. -/
def resolve (depth : Nat) (cache : Option CacheId) (expression : String)
    (onResolved : String → Run σ Unit) (onUnresolved : Run σ Unit) : Run σ Selection :=
  (Host.accessFrom depth).resolve cache expression onResolved onUnresolved

/-- Load what an expression selects on a cache. -/
def load (depth : Nat) (id : CacheId) (expression : String)
    (require : List String → (List String → Run σ Unit) → Run σ Unit)
    (loaded : List String → Run σ Unit) : Run σ Selection :=
  (Host.accessFrom depth).load id expression require loaded

end FeatureChoice
