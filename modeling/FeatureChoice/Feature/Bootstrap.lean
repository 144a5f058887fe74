import FeatureChoice.Feature.Query
/-!
Making caches. A new cache starts with the results that the host supplies; then the default
features are registered, and what is there already wins. A host that has a cache of its own which
reports the feature API gets that cache.
-/

namespace FeatureChoice

def bootstrapLogger : String := Log.moduleLogger "features.bootstrap"

/-- The feature by which a host's cache reports that it can be used as it is. -/
def hostFeatureApi : String := "loader-hasApi"

/-- The default features in the order of their registration, with what each one is in a context
with a document or without, whose document takes listeners or does not. -/
def defaultFeatures (hasDocument takesListeners : Bool) : List (String × Bool) :=
  [("host-browser", hasDocument), ("dom", hasDocument),
   ("host-addEventListener", takesListeners), ("loader-pageLoadApi", true), ("dojo-sniff", true)]

def defaultNames : List String := (defaultFeatures false false).map Prod.fst

theorem map_fst_defaultFeatures (hasDocument takesListeners : Bool) :
    (defaultFeatures hasDocument takesListeners).map Prod.fst = defaultNames := rfl

namespace Seed

/-- Names of a seed that are the same key of a map: the later offer takes the earlier one's
place. -/
def putOffer (name : FeatureName) (o : Offer) :
    List (FeatureName × Offer) → List (FeatureName × Offer)
  | [] => [(name, o)]
  | (n, old) :: rest =>
    if n.toValue.sameKey name.toValue then (n, o) :: rest else (n, old) :: putOffer name o rest

/-- The mapping that pairs make: a name that is there already keeps its place and gets the later
offer. -/
def mapping (pairs : List (FeatureName × Offer)) : List (FeatureName × Offer) :=
  pairs.foldl (fun seed pair => putOffer pair.1 pair.2 seed) []

/-- A mapping of the host as a cache keeps it. A name is looked at only where something is
offered. -/
def ofMapping (seed : List (FeatureName × Offer)) : Except NoKey (List (Key × Offer)) :=
  (seed.filter fun pair => !pair.2.isNothing).mapM fun (name, o) => return (← name.key, o)

/-- The mapping of a host's pairs. No mapping has a compound name in it. -/
def mapping? (pairs : List (FeatureName × Offer)) : Except NoKey (List (FeatureName × Offer)) :=
  match pairs.findSome? fun pair => pair.1.compound? with
  | some kind => .error (.compound kind)
  | none => .ok (mapping pairs)

end Seed

namespace Host

/-- Whether the document of a context takes event listeners. -/
def takesListeners (h : Host) (context : Context) : Bool :=
  context.document.any fun id => (h.document id).takesListeners

/-- The default features of a cache's context. -/
def defaultsOf (h : Host) (id : CacheId) : List (String × Bool) :=
  let context := (h.cache id).context
  defaultFeatures context.document.isSome (h.takesListeners context)

end Host

/-- Register the default features, derived from a cache's context. -/
def Access.registerDefaults {σ : Type} [Hosted σ] (via : Access σ) (id : CacheId) : Run σ Unit := do
  let features ← (Host.look (·.defaultsOf id)).onHost
  features.forM fun feature => via.enter id (.text feature.1) (.value (.bool feature.2)) false

namespace Host

/-- Make a cache from a seed. -/
def newCache (context : Context) (seed : List (Key × Offer)) : Run Host CacheId :=
  make fun h => h.addCache ((Cache.new context).sow seed)

/-- Register the default features, derived from a cache's context. -/
def registerDefaults (id : CacheId) : Run Host Unit := (access 0).registerDefaults id

/-- Make a cache from a seed with the default features, if they are wanted. -/
def freshCache (context : Context) (seed : List (Key × Offer)) (defaults : Bool) :
    Run Host CacheId := do
  let id ← newCache context seed
  if defaults then registerDefaults id
  say bootstrapLogger s!"bootstrapped {(← look (·.cache id)).display}"
  return id

/-- A mapping of the host with the keys of a cache. -/
def keysOf (seed : List (FeatureName × Offer)) : Run Host (List (Key × Offer)) :=
  match Seed.ofMapping seed with
  | .ok seed => return seed
  | .error e => Run.fail (.ofNoKey e)

/-- The cache to use: the host's own if it reports the feature API, or a new one. -/
def bootstrap (depth : Nat) (host : Option CacheId) (context : Context)
    (seed : List (FeatureName × Offer)) (defaults : Bool) : Run Host CacheId := do
  match host with
  | none => freshCache context (← keysOf seed) defaults
  | some id =>
    if ← query depth id (.text hostFeatureApi) then
      say bootstrapLogger s!"using host feature cache {(← look (·.cache id)).display}"
      return id
    else freshCache context (← keysOf seed) defaults

end Host

end FeatureChoice
