import FeatureChoice.Deployment.Logging
/-!
The facility that sets up the log. A set-up either succeeds as a whole, or leaves the log as it was,
or has come as far as the console when the log file cannot be opened; and it does not look at the
facility. Which object a call yields, and whether it sets up the log, is decided by the facility
alone.

* `Run.SparesFacility`: runs that neither look at the facility nor change it; a set-up is one.
* `Deployment.SetsUp`: all that can come of a set-up (`setsUp_setUpLog`).
* `LogFacility.next`, `LogFacility.filled`: the object that is yielded, and the facility that has it.
* `outcome_makeLogger_of_isSetUp`, `outcome_makeLogger_of_not`: a log that is set up is left alone;
  otherwise it is set up.
* `LogCall`, `LogCall.run`: what a host asks of the facility and of the log.
-/

namespace FeatureChoice

variable {α β : Type}

/-! ### Runs that have nothing to do with the facility -/

/-- The same deployment with another facility. -/
def Deployment.withFacility (f : LogFacility) (d : Deployment) : Deployment :=
  { d with facility := f }

/-- A run that does the same whatever the facility is, and leaves it as it is. -/
def Run.SparesFacility (x : Run Deployment α) : Prop :=
  ∀ d f, x.outcome (d.withFacility f) = ((x.outcome d).1, (x.outcome d).2.withFacility f)

namespace Run.SparesFacility

theorem pure (a : α) : SparesFacility (Pure.pure a) := fun _ _ => rfl

theorem throw (stop : Stop) : SparesFacility (throw stop : Run Deployment α) := fun _ _ => rfl

theorem bind {x : Run Deployment α} {next : α → Run Deployment β} (first : SparesFacility x)
    (rest : ∀ a, SparesFacility (next a)) : SparesFacility (x >>= next) := by
  intro d f
  have went := first d f
  rcases ended : x.outcome d with ⟨result, k⟩
  rw [ended] at went
  cases result with
  | ok a =>
    rw [outcome_bind_of_ok went, outcome_bind_of_ok ended]
    exact rest a k f
  | error stop => rw [outcome_bind_of_error went, outcome_bind_of_error ended]

/-- What looks at the state but not at the facility spares it, if what follows does. -/
theorem get {next : Deployment → Run Deployment α} (rest : ∀ d, SparesFacility (next d))
    (blind : ∀ d f, next (d.withFacility f) = next d) :
    SparesFacility (MonadState.get >>= next) := by
  intro d f
  rw [outcome_bind_of_ok (outcome_get _), outcome_bind_of_ok (outcome_get _), blind]
  exact rest d d f

/-- Such a run leaves the facility as it is. -/
theorem facility {x : Run Deployment α} (spares : SparesFacility x) (d : Deployment) :
    (x.outcome d).2.facility = d.facility :=
  congrArg (·.2.facility) (spares d d.facility)

end Run.SparesFacility

open Run (SparesFacility)

namespace Deployment

variable {d k : Deployment}

theorem sparesFacility_changeJournal (f : Log.Journal → Log.Journal) :
    SparesFacility (changeJournal f) := fun _ _ => rfl

theorem outcome_changeFiles (f : Files.Tree → Files.Tree × Option Files.FileError)
    (d : Deployment) :
    (changeFiles f).outcome d =
      (match (f d.files).2 with
        | none => .ok ()
        | some e => .error (.fault (.file e)), { d with files := (f d.files).1 }) := by
  unfold changeFiles
  rw [Run.outcome_bind_of_ok (Run.outcome_get d)]
  rcases f d.files with ⟨files, _ | e⟩ <;> rfl

theorem sparesFacility_changeFiles (f : Files.Tree → Files.Tree × Option Files.FileError) :
    SparesFacility (changeFiles f) := by
  intro d g
  rw [outcome_changeFiles, outcome_changeFiles]
  rfl

/-- To open the log file is to install one file, and perhaps to make it; or it fails. -/
theorem outcome_openLogFile (directory : Files.Path) (d : Deployment) :
    (∃ files path, (openLogFile directory).outcome d =
      (.ok (), { d with
        files := files,
        host := { d.host with journal := d.host.journal.install (.file path) } })) ∨
    ∃ e, (openLogFile directory).outcome d = (.error (.fault (.file e)), d) := by
  unfold openLogFile
  rw [Run.outcome_bind_of_ok (Run.outcome_get _)]
  dsimp only
  cases d.files.openAt directory (logFileName d.day) with
  | ok opened => exact .inl ⟨_, _, rfl⟩
  | error errno => exact .inr ⟨_, rfl⟩

theorem sparesFacility_openLogFile (directory : Files.Path) :
    SparesFacility (openLogFile directory) := by
  intro d f
  unfold openLogFile
  rw [Run.outcome_bind_of_ok (Run.outcome_get _), Run.outcome_bind_of_ok (Run.outcome_get _)]
  dsimp only [withFacility]
  cases d.files.openAt directory (logFileName d.day) with
  | ok opened => rfl
  | error errno => rfl

theorem sparesFacility_threshold (level : String) : SparesFacility (threshold level) := by
  unfold threshold
  cases Log.thresholdOf level with
  | ok n => exact .pure n
  | error e => exact .throw _

theorem sparesFacility_setUpLog (directory : Option String) (level : String) :
    SparesFacility (setUpLog directory level) := by
  unfold setUpLog
  cases (directory.filter (· ≠ "")).map Files.Path.ofString with
  | none =>
    refine (sparesFacility_threshold level).bind fun n => ?_
    refine (sparesFacility_changeJournal _).bind fun _ => .get (fun d => ?_) fun _ _ => rfl
    exact (sparesFacility_changeJournal _).bind fun _ => .pure _
  | some path =>
    refine (sparesFacility_changeFiles _).bind fun _ => ?_
    refine (sparesFacility_threshold level).bind fun n => ?_
    refine (sparesFacility_changeJournal _).bind fun _ => .get (fun d => ?_) fun _ _ => rfl
    exact (sparesFacility_changeJournal _).bind fun _ => sparesFacility_openLogFile path

/-! ### Set-ups -/

/-- One console, and one file exactly if a directory is given; an empty name is none. -/
def Fitting (directory : Option String) (installed : List Log.Destination) : Prop :=
  match directory.filter (· ≠ "") with
  | none => ∃ terminal, installed = [.console terminal]
  | some _ => ∃ terminal path, installed = [.console terminal, .file path]

/-- A deployment whose log has one console. -/
def withConsole (threshold : Nat) (d : Deployment) : Deployment :=
  { d with host := { d.host with
    journal := ⟨threshold, [.console d.terminal], d.host.journal.notes⟩ } }

/-- Why the directory of a set-up cannot be made, if one is given and cannot. -/
def blocked? (directory : Option String) (files : Files.Tree) : Option Files.FileError :=
  (directory.filter (· ≠ "")).bind fun name => (files.makeDirectories (.ofString name)).2

/-- All that can come of a set-up of the log. -/
inductive SetsUp (directory : Option String) (d : Deployment) :
    Except Stop Unit × Deployment → Prop where
  /-- The directory cannot be made. -/
  | blocked {files e} (blocks : blocked? directory d.files = some e) :
    SetsUp directory d (.error (.fault (.file e)), { d with files := files })
  /-- The level is none. -/
  | unnamed {files e} (free : blocked? directory d.files = none) :
    SetsUp directory d (.error (.fault (.noLevel e)), { d with files := files })
  /-- The log file cannot be opened, but the console is there. -/
  | unopened {files threshold e} (free : blocked? directory d.files = none) :
    SetsUp directory d
      (.error (.fault (.file e)), withConsole threshold { d with files := files })
  /-- The log has a threshold and fitting destinations. -/
  | done {files journal} (free : blocked? directory d.files = none)
    (fitting : Fitting directory journal.installed)
    (notes : journal.notes = d.host.journal.notes) :
    SetsUp directory d
      (.ok (), { d with files := files, host := { d.host with journal := journal } })

/-- Once the level is known, the console is all that there is until the log file is opened. -/
theorem outcome_installing (level : String) (last : Run Deployment Unit) (d : Deployment) :
    (do
      let n ← threshold level
      changeJournal fun j => { j with threshold := n }
      let d ← get
      changeJournal fun j => j.clear.install (.console d.terminal)
      last : Run Deployment Unit).outcome d =
    match Log.thresholdOf level with
    | .error e => (.error (.fault (.noLevel e)), d)
    | .ok n => last.outcome (d.withConsole n) := by
  unfold threshold
  cases Log.thresholdOf level with
  | error e => rfl
  | ok n => rfl

/-- Every set-up of the log comes to one of these ends. -/
theorem setsUp_setUpLog (directory : Option String) (level : String) (d : Deployment) :
    SetsUp directory d ((setUpLog directory level).outcome d) := by
  unfold setUpLog
  cases named : directory.filter (· ≠ "") with
  | none =>
    have free : blocked? directory d.files = none := by rw [blocked?, named]; rfl
    dsimp only [Option.map_none]
    rw [outcome_installing]
    cases Log.thresholdOf level with
    | error e => exact @SetsUp.unnamed _ d d.files e free
    | ok n => exact @SetsUp.done _ d d.files _ free (by rw [Fitting, named]; exact ⟨_, rfl⟩) rfl
  | some name =>
    have blocks : blocked? directory d.files = (d.files.makeDirectories (.ofString name)).2 := by
      rw [blocked?, named]
      rfl
    dsimp only [Option.map_some]
    have made := outcome_changeFiles (fun t => t.makeDirectories (.ofString name)) d
    rcases came : d.files.makeDirectories (.ofString name) with ⟨files, _ | e⟩
    · rw [came] at made blocks
      rw [Run.outcome_bind_of_ok made, outcome_installing]
      cases Log.thresholdOf level with
      | error e => exact .unnamed blocks
      | ok n =>
        -- the file is opened when the console is there already
        rcases outcome_openLogFile (.ofString name) (withConsole n { d with files := files }) with
          ⟨files', path, opened⟩ | ⟨e, failed⟩
        · dsimp only
          rw [opened]
          exact .done blocks (by rw [Fitting, named]; exact ⟨_, _, rfl⟩) rfl
        · dsimp only
          rw [failed]
          exact .unopened blocks
    · rw [came] at made blocks
      rw [Run.outcome_bind_of_error made]
      exact .blocked blocks

end Deployment

/-! ### Objects -/

namespace LogFacility

/-- The object that is yielded next: the one there is, or a new one. -/
def next (f : LogFacility) : LoggerId := f.single.getD ⟨f.made⟩

/-- The facility when this object is there. -/
def filled (f : LogFacility) : LogFacility :=
  { f with
    single := some f.next
    made := if f.single.isNone then f.made + 1 else f.made }

/-- The facility without its object, as before a new set-up. -/
def dropped (f : LogFacility) : LogFacility := { f with single := none, isSetUp := false }

/-- The facility when this object was handed out. -/
def handing (id : LoggerId) (f : LogFacility) : LogFacility := { f with handedOut := some id }

end LogFacility

namespace Deployment

variable {d k : Deployment} {directory : Option String} {level : String} {id : LoggerId}

/-- If the log was set up, an object changes nothing about it. -/
theorem outcome_makeLogger_of_isSetUp (up : d.facility.isSetUp = true)
    (directory : Option String) (level : String) :
    (makeLogger directory level).outcome d =
      (.ok d.facility.next, d.withFacility d.facility.filled) := by
  obtain ⟨loader, host, files, environment, settings, ⟨made, single, _, handedOut⟩, shared, _,
    day⟩ :=
    d
  cases up
  rfl

/-- If the log was not set up, an object sets it up, and is there even if that fails. -/
theorem outcome_makeLogger_of_not (down : d.facility.isSetUp = false)
    (directory : Option String) (level : String) :
    (makeLogger directory level).outcome d =
      match (setUpLog directory level).outcome d with
      | (.ok _, k) =>
        (.ok d.facility.next, k.withFacility { d.facility.filled with isSetUp := true })
      | (.error stop, k) => (.error stop, k.withFacility d.facility.filled) := by
  have apart := sparesFacility_setUpLog directory level d d.facility.filled
  have made : (makeLogger directory level).outcome d = (do
      setUpLog directory level
      modify fun d => { d with facility := { d.facility with isSetUp := true } }
      return d.facility.next : Run Deployment LoggerId).outcome
        (d.withFacility d.facility.filled) := by
    obtain ⟨loader, host, files, environment, settings, ⟨made, single, _, handedOut⟩, shared, _,
      day⟩ := d
    cases down
    rfl
  rw [made]
  rcases went : (setUpLog directory level).outcome d with ⟨stop | _, k⟩
  · rw [went] at apart
    rw [Run.outcome_bind_of_error apart]
  · rw [went] at apart
    rw [Run.outcome_bind_of_ok apart]
    rfl

/-- Make a logger object and hand it out. -/
def handingOut (directory : Option String) (level : String) : Run Deployment LoggerId := do
  let id ← makeLogger directory level
  handOut id
  return id

theorem outcome_setupLogger (directory : Option String) (level : String) (d : Deployment) :
    (setupLogger directory level).outcome d =
      (handingOut directory level).outcome (d.withFacility d.facility.dropped) := rfl

/-- The object that was handed out is handed out again. -/
theorem outcome_getLogger_of_some (out : d.facility.handedOut = some id)
    (directory : Option String) (level : String) :
    (getLogger directory level).outcome d = (.ok id, d) := by
  unfold getLogger
  rw [Run.outcome_bind_of_ok (Run.outcome_get d), out]
  rfl

/-- Without an object that was handed out, one is made. -/
theorem outcome_getLogger_of_none (absent : d.facility.handedOut = none)
    (directory : Option String) (level : String) :
    (getLogger directory level).outcome d = (handingOut directory level).outcome d := by
  unfold getLogger
  rw [Run.outcome_bind_of_ok (Run.outcome_get d), absent]
  rfl

end Deployment

/-! ### Calls -/

/-- What a host does that can have to do with the log. -/
inductive LogCall where
  /-- Set up the log anew. -/
  | setup (directory : Option String) (level : String)
  /-- Make a logger object. -/
  | make (directory : Option String) (level : String)
  /-- Ask for the object that was handed out last. -/
  | get (directory : Option String) (level : String)
  /-- Set the threshold, through the object that was handed out last or through one at hand. -/
  | setLevel (level : String)
  | adjust (level : String)
  /-- Write a message, in the same two ways. -/
  | log (row : Log.Row) (values : List Value)
  | write (row : Log.Row) (values : List Value)
  /-- Switch the debug trace on or off. -/
  | enableDebug (enabled : Bool)
  /-- What happens elsewhere: to the files, the environment, and where consoles write to. -/
  | elsewhere (files : Files.Tree) (environment : Environment) (terminal : Log.Terminal)

open Deployment in
/-- Carry a call out; some calls yield a logger object. -/
def LogCall.run : LogCall → Run Deployment (Option LoggerId)
  | setup directory level => some <$> setupLogger directory level
  | make directory level => some <$> makeLogger directory level
  | get directory level => some <$> getLogger directory level
  | setLevel level => do
    Deployment.setLevel level
    return none
  | adjust level => do
    let n ← threshold level
    changeJournal fun j => { j with threshold := n }
    return none
  | log row values => do
    let _ ← getLogger none usualLevel
    Deployment.log row values
    return none
  | write row values => do
    Deployment.log row values
    return none
  | enableDebug enabled => do
    Deployment.enableDebug enabled
    return none
  | elsewhere files environment terminal => do
    modify fun d => { d with files := files, environment := environment, terminal := terminal }
    return none

end FeatureChoice
