import FeatureChoice.Command.Read
import FeatureChoice.Command.Report
import FeatureChoice.Deployment.Logging
import FeatureChoice.Deployment.SharedCache
/-!
Running commands. A command works on a cache of its own: the seed first, then the default features,
then the features that were set, which override both. A bad seed is reported and ends the command;
every other fault ends the run.

Main statement: a command with a bad seed prints the error and nothing else
(`perform_of_badSeed`).
-/

namespace FeatureChoice.Command

/-- What a command leaves: its exit code and the lines that it printed. -/
structure Outcome where
  code : Nat
  lines : List String
  deriving DecidableEq, Repr

/-- What the cache of a command is made of. A seed file that is not given is that of the settings; a
feature that is not given is a fault. -/
structure Stock where
  seed : Option String
  defaults : Bool
  features : List (Given (FeatureName × Offer))

def Supply.stock (s : Supply) : Stock where
  seed := s.seed.bind Given.toOption
  defaults := !s.noDefaults
  features := s.features.map fun given =>
    match given with
    | .nothing => .nothing
    | .value a => .value (.text a.name, .value (.bool a.value))

def Stock.seedPath (stock : Stock) (s : Settings) : Option Files.Path :=
  match stock.seed.filter (· ≠ "") with
  | some name => some (.ofString name)
  | none => s.seedPath

def buildCache (depth : Nat) (stock : Stock) : Run Deployment CacheId := do
  let s ← Deployment.currentSettings
  let seed ← match stock.seedPath s with
    | some path => Seed.toOffers <$> Deployment.loadSeed path
    | none => pure []
  let id ← (Host.freshCache .plain seed (s.registerDefaults && stock.defaults)).onHost
  for given in stock.features do
    match given with
    | .nothing => Run.fail .emptyAssignment
    | .value (name, o) => let _ ← (Host.register depth id name o false true).onHost
  return id

/-- A run in which a bad seed is a result. -/
def orBadSeed {α : Type} (x : Run Deployment α) : Run Deployment (Except Seed.Error α) := fun d =>
  match x d with
  | (.ok a, d') => (.ok (.ok a), d')
  | (.error (.fault (.seed e)), d') => (.ok (.error e), d')
  | (.error stop, d') => (.error stop, d')

def explain (depth : Nat) (id : CacheId) (expression : String) : Run Host Explanation :=
  Explanation.of (fun feature => Host.query depth id (.text feature)) (Expression.parse expression)

def Task.run (depth : Nat) (id : CacheId) : Task → Run Deployment (List String)
  | .resolve expression json => do
    let s ← FeatureChoice.resolve depth (some id) expression (fun _ => pure ()) (pure ())
    return if json then selectionJson s else (selectionTexts s).flatMap textLines
  | .explain expression => do
    return explanationLines expression (← (Command.explain depth id expression).onHost)
  | .features evaluate => do
    if evaluate then
      for key in ((← get).host.cache id).names do
        let _ ← (Host.query depth id key.toName).onHost
    match featureTable ((← get).host.cache id).snapshot with
    | .ok t => return tableLines t
    | .error f => Run.fail f

def warningText (doubt : String) : String := "Warning: " ++ doubt

def errorText (e : Seed.Error) : String := "Error: " ++ e.message

def perform (depth : Nat) (task : Task) (stock : Stock) : Run Deployment Outcome := do
  match ← orBadSeed (buildCache depth stock) with
  | .error e => return ⟨1, textLines (errorText e)⟩
  | .ok id => return ⟨0, ← task.run depth id⟩

def Verbosity.level (v : Verbosity) (s : Settings) : String :=
  match v with
  | .usual => s.level
  | .quiet => "WARNING"
  | .verbose => "INFO"
  | .debug => "DEBUG"

/-- Do what a command line asks for, after setting up the log and warning of doubtful settings. -/
def run (depth : Nat) (a : Arguments) : Run Deployment Outcome := do
  let s ← Deployment.currentSettings
  let _ ← Deployment.setupLogger (some s.logDirectory) (a.verbosity.level s)
  if a.verbosity = .debug || s.debug then Deployment.enableDebug true
  let doubts ← Deployment.settingsDoubts
  let warnings := if a.verbosity = .quiet then [] else doubts.flatMap (textLines <| warningText ·)
  let outcome ← perform depth a.task a.supply.stock
  return { outcome with lines := warnings ++ outcome.lines }

/-! ### Laws -/

/-- A bad seed ends a command: its error is printed, and the task is not done. -/
theorem perform_of_badSeed {depth : Nat} {task : Task} {stock : Stock} {d d' : Deployment}
    {e : Seed.Error} (h : buildCache depth stock d = (.error (.fault (.seed e)), d')) :
    perform depth task stock d = (.ok ⟨1, textLines (errorText e)⟩, d') := by
  have caught : orBadSeed (buildCache depth stock) d = (.ok (.error e), d') := by
    simp only [orBadSeed, h]
  show ((orBadSeed (buildCache depth stock)) >>= _ : Run Deployment Outcome) d = _
  simp only [bind, ExceptT.bind, ExceptT.mk, StateT.bind, caught]
  rfl

end FeatureChoice.Command
