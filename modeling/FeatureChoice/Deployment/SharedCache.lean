import FeatureChoice.Deployment.Settings
import FeatureChoice.Feature.Bootstrap
import FeatureChoice.Selection.Resolve
/-!
The process-wide cache. It is made from the settings and the seed file when it is first needed, and
stays until another one is installed or it is dropped.
-/

namespace FeatureChoice.Deployment

def loadSeed (path : Files.Path) : Run Deployment SeedTruths := do
  let d ← get
  (Host.loadSeed d.loader d.files path).onHost

/-- The process-wide cache, which is made if there is none. -/
def sharedCache : Run Deployment CacheId := do
  match (← get).shared with
  | some id => return id
  | none =>
    let s ← currentSettings
    let seed ← match s.seedPath with
      | some path => Seed.toOffers <$> loadSeed path
      | none => pure []
    let id ← (Host.freshCache .plain seed s.registerDefaults).onHost
    modify fun d => { d with shared := some id }
    return id

def installCache (id : CacheId) : Run Deployment Unit :=
  modify fun d => { d with shared := some id }

def dropCache : Run Deployment Unit := modify fun d => { d with shared := none }

def cacheOrShared (id : Option CacheId) : Run Deployment CacheId :=
  match id with
  | some id => return id
  | none => sharedCache

def has (depth : Nat) (name : FeatureName) : Run Deployment Bool := do
  let id ← sharedCache
  (Host.query depth id name).onHost

def select (depth : Nat) (cache : Option CacheId) (expression : String) :
    Run Deployment Selection := do
  let id ← cacheOrShared cache
  (Host.select depth id expression).onHost

end FeatureChoice.Deployment
