import FeatureChoice.Host.Run
import FeatureChoice.Seed.Parse
import FeatureChoice.Text.Lines
/-!
Seed files: YAML documents that hold a seed. Whatever is wrong with the file, or with its text as a
document, is an error of the seed, but there are faults that are not: bytes that are no text, a path
that cannot be one, and everything else at which the loader of documents stops.
-/

namespace FeatureChoice

def seedLogger : String := Log.moduleLogger "features.seed"

namespace Seed

variable (loader : Yaml.Loader)

def ofText (source : String) (text : List Char) : Except Fault SeedTruths := do
  match loader text with
  | .error .invalid => throw (.seed ⟨source, .invalidText⟩)
  | .error e => throw (.data e)
  | .ok data => parse source data

def ofBytes (source : String) (bytes : List UInt8) : Except Fault SeedTruths := do
  match Text.decodeUtf8 bytes with
  | .error e => throw (.encoding e)
  | .ok text => ofText loader source (Text.unifyLineEnds text)

def ofFile (files : Files.Tree) (path : Files.Path) : Except Fault SeedTruths :=
  let source := path.toText
  match files.read path with
  | .error .nullByte => .error (.file ⟨.nullByte, source⟩)
  | .error errno => .error (.seed ⟨source, .unreadable errno⟩)
  | .ok bytes => ofBytes loader source bytes

/-- A seed as a cache takes it. -/
def toOffers (seed : SeedTruths) : List (Key × Offer) :=
  seed.entries.map fun (name, b) => (.text name, .value (.bool b))

end Seed

def Host.loadSeed (loader : Yaml.Loader) (files : Files.Tree) (path : Files.Path) :
    Run Host SeedTruths := do
  match Seed.ofFile loader files path with
  | .error f => Run.fail f
  | .ok seed =>
    Host.say seedLogger s!"loaded {seed.size} seed features from {path.toText}"
    return seed

end FeatureChoice
