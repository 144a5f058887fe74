import FeatureChoice.Proofs.Deployment.Settings
import FeatureChoice.Proofs.Settings.Overriding
import FeatureChoice.Yaml.Data
/-!
Settings out of environment files. When no settings are known, they are those of the environment
after two loads, first of the usual file and then of the one that was named. Where only the usual
file is asked for it is therefore loaded twice, and the second load sees what the first one left.

* `loadOver`, `settingsAfter`: an environment after one load, and the settings after some, each
  file loaded once.
* `outcome_readSettings`: what asking for the settings comes to.
* `settings_from_env_files`: settings out of the usual file and another one are those after a load
  of each; those out of the usual file are those after one load if the file looks back
  (`EnvFile.LooksBack`).
* `env_file_taken_twice`: a file that refers to the name it gives a value can take effect twice.
-/

namespace FeatureChoice

namespace Deployment

/-! ### Loads -/

/-- An environment after one load of a file over it, and the fault that the load stopped at. -/
def loadOver (files : Files.Tree) (name : String) (env : Environment) : Environment × Option Fault :=
  let path := Files.Path.ofString name
  match files.exists? path with
  | .error errno => (env, some (.file ⟨errno, path.toText⟩))
  | .ok false => (env, none)
  | .ok true =>
    if EnvFile.isDisabled env then (env, none)
    else match files.read path with
      | .error _ => (env, none)
      | .ok bytes =>
        match Text.decodeUtf8 bytes with
        | .error e => (env, some (.encoding e))
        | .ok text =>
          let loaded := EnvFile.load (Text.unifyLineEnds text) env
          (loaded.1, loaded.2.map .environment)

/-- An environment after one load of each file, up to the first that stops. -/
def loadAll (files : Files.Tree) : List String → Environment → Environment × Option Fault
  | [], env => (env, none)
  | name :: names, env =>
    match loadOver files name env with
    | (loaded, none) => loadAll files names loaded
    | stopped => stopped

/-- The settings after one load of each file, with the environment that is left. -/
def settingsAfter (files : Files.Tree) (names : List String) (env : Environment) :
    Except Stop Settings × Environment :=
  match loadAll files names env with
  | (loaded, none) => (.ok (.ofEnvironment loaded), loaded)
  | (loaded, some f) => (.error (.fault f), loaded)

/-- What a load comes to. -/
def ending : Option Fault → Except Stop Unit
  | none => .ok ()
  | some f => .error (.fault f)

variable {d k : Deployment} {files : Files.Tree} {env loaded : Environment}

theorem loadAll_cons (files : Files.Tree) (name : String) (names : List String)
    (env : Environment) :
    loadAll files (name :: names) env =
      match loadOver files name env with
      | (loaded, none) => loadAll files names loaded
      | stopped => stopped := (rfl)

/-- Warnings are all that is logged, and nothing else changes. -/
theorem outcome_warnings (lines : List Nat) (d : Deployment) :
    ∃ journal,
      (forIn (m := Run Deployment) lines PUnit.unit fun line _ => do
        (Host.change (·.log ⟨.warning, EnvFile.logger, EnvFile.badLineWarning line⟩)).onHost
        return ForInStep.yield PUnit.unit).outcome d =
      (.ok PUnit.unit, { d with host := { d.host with journal := journal } }) := by
  induction lines generalizing d with
  | nil => exact ⟨_, rfl⟩
  | cons line lines ih =>
    obtain ⟨journal, went⟩ :=
      ih { d with host := d.host.log ⟨.warning, EnvFile.logger, EnvFile.badLineWarning line⟩ }
    refine ⟨journal, ?_⟩
    rw [List.forIn_cons, bind_assoc]
    exact went

/-- A load changes the environment, and no files. -/
theorem outcome_loadEnvFile (name : String) (d : Deployment) :
    ∃ k, (loadEnvFile name).outcome d = (ending (loadOver d.files name d.environment).2, k) ∧
      k.files = d.files ∧ k.environment = (loadOver d.files name d.environment).1 := by
  unfold loadEnvFile loadOver
  rw [Run.outcome_bind_of_ok (Run.outcome_get d)]
  dsimp only
  cases d.files.exists? (.ofString name) with
  | error errno => exact ⟨d, rfl, rfl, rfl⟩
  | ok found =>
    cases found with
    | false => exact ⟨d, rfl, rfl, rfl⟩
    | true =>
      cases EnvFile.isDisabled d.environment with
      | true => exact ⟨d, rfl, rfl, rfl⟩
      | false =>
        cases d.files.read (.ofString name) with
        | error errno => exact ⟨d, rfl, rfl, rfl⟩
        | ok bytes =>
          cases decoded : Text.decodeUtf8 bytes with
          | error e =>
            simp only [decoded, Bool.false_eq_true, if_false]
            exact ⟨d, rfl, rfl, rfl⟩
          | ok text =>
            obtain ⟨journal, warned⟩ :=
              outcome_warnings (EnvFile.badLines (Text.unifyLineEnds text)) d
            simp only [decoded, Bool.false_eq_true, if_false]
            rw [Run.outcome_bind_of_ok warned]
            cases (EnvFile.load (Text.unifyLineEnds text) d.environment).2 with
            | none => exact ⟨_, rfl, rfl, rfl⟩
            | some e => exact ⟨_, rfl, rfl, rfl⟩

/-- Settings that are read are those after a load of the usual file and one of the named file. -/
theorem outcome_readSettings (envFile : String) (d : Deployment) :
    let came := (readSettings envFile).outcome d
    (came.1, came.2.environment) =
      settingsAfter d.files [usualEnvFile, envFile] d.environment := by
  intro came
  have went : came = (readSettings envFile).outcome d := rfl
  rw [readSettings, Run.outcome_bind_of_ok (Run.outcome_modify _ d)] at went
  rw [went, settingsAfter, loadAll_cons]
  obtain ⟨d₁, first, files, env⟩ := outcome_loadEnvFile usualEnvFile { d with settings := .blank }
  rcases went : loadOver d.files usualEnvFile d.environment with ⟨env₁, _ | f⟩
  · rw [went] at first env
    rw [Run.outcome_bind_of_ok first]
    obtain ⟨d₂, second, -, env'⟩ := outcome_loadEnvFile envFile d₁
    dsimp only
    rw [loadAll_cons]
    rw [files, env] at second env'
    rcases went : loadOver d.files envFile env₁ with ⟨env₂, _ | f⟩
    · rw [went] at second env'
      rw [Run.outcome_bind_of_ok second]
      subst env'
      rfl
    · rw [went] at second env'
      rw [Run.outcome_bind_of_error second, env']
  · rw [went] at first env
    rw [Run.outcome_bind_of_error first, env]

/-! ### One file twice -/

/-- The text of a file, if there is one that can be read. -/
def textAt? (files : Files.Tree) (name : String) : Option (List Char) :=
  match files.read (.ofString name) with
  | .error _ => none
  | .ok bytes => (Text.decodeUtf8 bytes).toOption.map Text.unifyLineEnds

/-- A file that looks back leaves the environment that it left as it is. -/
theorem loadOver_again {name : String}
    (back : ∀ text, textAt? files name = some text → EnvFile.LooksBack (EnvFile.bindings text))
    (went : loadOver files name env = (loaded, none)) :
    loadOver files name loaded = (loaded, none) := by
  unfold loadOver at went ⊢
  cases found : files.exists? (.ofString name) with
  | error errno => simp [found] at went
  | ok there =>
    simp only [found] at went ⊢
    cases there with
    | false => rfl
    | true =>
      dsimp only at went ⊢
      split
      · rfl
      · next enabled =>
        by_cases disabled : EnvFile.isDisabled env = true
        · rw [if_pos disabled, Prod.mk.injEq] at went
          exact absurd (went.1 ▸ disabled) enabled
        · rw [if_neg disabled] at went
          cases read : files.read (.ofString name) with
          | error errno => rfl
          | ok bytes =>
            simp only [read] at went ⊢
            cases decoded : Text.decodeUtf8 bytes with
            | error e => simp [decoded] at went
            | ok text =>
              have text_there : textAt? files name = some (Text.unifyLineEnds text) := by
                delta textAt?
                rw [read]
                dsimp only
                rw [decoded]
                rfl
              simp only [decoded, Prod.mk.injEq, Option.map_eq_none_iff] at went
              have again := EnvFile.load_again (back _ text_there) (Prod.ext went.1 went.2)
              simp [again]

/-- A file that looks back takes effect once, however often it is loaded. -/
theorem settingsAfter_twice {name : String}
    (back : ∀ text, textAt? files name = some text → EnvFile.LooksBack (EnvFile.bindings text))
    (env : Environment) :
    settingsAfter files [name, name] env = settingsAfter files [name] env := by
  rw [settingsAfter, settingsAfter, loadAll_cons, loadAll_cons]
  rcases went : loadOver files name env with ⟨loaded, _ | f⟩
  · dsimp only
    rw [loadAll_cons, loadOver_again back went]
  · rfl

/-! ### Asking for the settings -/

/-- When no settings are known, asking for them with a named file comes to one load of the usual
file and then one of the named file. Asking for them without a name loads the usual file twice; this
comes to one load of it if it looks back. -/
theorem settings_from_env_files (unknown : ∀ s, d.settings ≠ .ready s) :
    (∀ envFile, let came := (settingsWith envFile).outcome d
      (came.1, came.2.environment) =
        settingsAfter d.files [usualEnvFile, envFile] d.environment) ∧
    ((∀ text, textAt? d.files usualEnvFile = some text →
        EnvFile.LooksBack (EnvFile.bindings text)) →
      let came := currentSettings.outcome d
      (came.1, came.2.environment) = settingsAfter d.files [usualEnvFile] d.environment) := by
  have named : ∀ envFile, let came := (settingsWith envFile).outcome d
      (came.1, came.2.environment) =
        settingsAfter d.files [usualEnvFile, envFile] d.environment := by
    intro envFile
    rw [settingsWith_of_unknown unknown]
    exact outcome_readSettings envFile d
  refine ⟨named, fun back => ?_⟩
  rw [← settingsAfter_twice back]
  exact named usualEnvFile

/-- A file that refers to names above and outside of it. -/
def backwardFile : String := "DIR=${HOME:-/srv}/seeds\nHASCOND_SEED_FILE=${DIR}/a.yaml\n"

/-- A file that refers to the name it gives a value. -/
def selfFile : String := "HASCOND_SEED_FILE=${HASCOND_SEED_FILE}x\n"

/-- A process with a usual environment file. -/
def withEnvFile (text : String) : Deployment :=
  start Yaml.load ((Files.Tree.empty.put (.ofString usualEnvFile) text.toUTF8.toList).1) .empty
    "20250101"

/-- A file whose references look back is a single load. -/
theorem settings_from_env_files_backward :
    (∀ s, (withEnvFile backwardFile).settings ≠ .ready s) ∧
    (∀ text, textAt? (withEnvFile backwardFile).files usualEnvFile = some text →
      EnvFile.LooksBack (EnvFile.bindings text)) ∧
    let came := currentSettings.outcome (withEnvFile backwardFile)
    (came.1, came.2.environment) =
      settingsAfter (withEnvFile backwardFile).files [usualEnvFile] .empty ∧
    came.1.toOption.map Settings.seedFile = some "/srv/seeds/a.yaml" := by
  have unknown : ∀ s, (withEnvFile backwardFile).settings ≠ .ready s := fun _ => nofun
  have read : textAt? (withEnvFile backwardFile).files usualEnvFile = some backwardFile.toList := by
    decide +kernel
  have back : ∀ text, textAt? (withEnvFile backwardFile).files usualEnvFile = some text →
      EnvFile.LooksBack (EnvFile.bindings text) := by
    intro text found
    obtain rfl := Option.some.inj (read.symm.trans found)
    decide +kernel
  exact ⟨unknown, back, (settings_from_env_files unknown).2 back, by decide +kernel⟩

/-- A file that refers to the name it gives a value can take effect twice. -/
theorem env_file_taken_twice :
    ¬ ∀ d : Deployment, (∀ s, d.settings ≠ .ready s) →
      let came := currentSettings.outcome d
      (came.1, came.2.environment) = settingsAfter d.files [usualEnvFile] d.environment := by
  intro once
  have seeds := congrArg (fun came => came.1.toOption.map Settings.seedFile)
    (once (withEnvFile selfFile) fun _ => nofun)
  have twice : (currentSettings.outcome (withEnvFile selfFile)).1.toOption.map Settings.seedFile =
      some "xx" := by decide +kernel
  have single : (settingsAfter (withEnvFile selfFile).files [usualEnvFile] .empty).1.toOption.map
      Settings.seedFile = some "x" := by decide +kernel
  exact absurd (twice.symm.trans (seeds.trans single)) (by decide)

end Deployment

end FeatureChoice
