import FeatureChoice.Deployment.Settings
import FeatureChoice.Proofs.Run.Coupling
/-!
Reading the settings. What comes of it depends on the files, the environment and the settings that
are known, and on nothing else; and it changes the environment, the settings and the log, and
nothing else.

* `Deployment.SameConfiguration`, `Deployment.Reads`: what the settings depend on, and what is left
  of a deployment that they were read in.
* `outcome_settingsWith`: deployments with the same configuration get the same settings.
* `ready_of_settingsWith`: settings that were read are known from then on.
-/

namespace FeatureChoice

namespace Deployment

/-- Deployments with the same files, the same environment and the same settings, whose documents are
read by the same loader. -/
structure SameConfiguration (d d' : Deployment) : Prop where
  files : d'.files = d.files
  environment : d'.environment = d.environment
  settings : d'.settings = d.settings
  loader : d'.loader = d.loader

/-- A deployment in which settings may have been read and something logged. -/
def Reads (d k : Deployment) : Prop :=
  ∃ journal environment settings,
    k = { d with
      host := { d.host with journal := journal }, environment := environment, settings := settings }

namespace Reads

variable {d k : Deployment}

theorem refl (d : Deployment) : d.Reads d := ⟨_, _, _, rfl⟩

theorem shared (reads : d.Reads k) : k.shared = d.shared := by
  obtain ⟨_, _, _, rfl⟩ := reads
  rfl

theorem caches (reads : d.Reads k) : k.host.caches = d.host.caches := by
  obtain ⟨_, _, _, rfl⟩ := reads
  rfl

theorem workspace (reads : d.Reads k) : k.host.workspace = d.host.workspace := by
  obtain ⟨_, _, _, rfl⟩ := reads
  rfl

end Reads

/-- Deployments with the same configuration in which settings were read. -/
structure Configured (d₀ d₀' d d' : Deployment) : Prop where
  same : d.SameConfiguration d'
  left : d₀.Reads d
  right : d₀'.Reads d'

section Reading

variable {d₀ d₀' : Deployment}

theorem similar_log (row : Log.Row) :
    Run.Similar (Configured d₀ d₀') (Host.change (·.log row)).onHost
      (Host.change (·.log row)).onHost := by
  rintro d d' ⟨⟨files, environment, settings, loader⟩, ⟨_, _, _, rfl⟩, _, _, _, rfl⟩
  exact ⟨rfl, ⟨files, environment, settings, loader⟩, ⟨_, _, _, rfl⟩, _, _, _, rfl⟩

/-- Runs that see the same environment still do so after it is set. -/
theorem similar_setEnvironment (environment : Environment) :
    Run.Similar (Configured d₀ d₀')
      (modify fun d : Deployment => { d with environment := environment })
      (modify fun d : Deployment => { d with environment := environment }) := by
  rintro d d' ⟨⟨files, _, settings, loader⟩, ⟨_, _, _, rfl⟩, _, _, _, rfl⟩
  exact ⟨rfl, ⟨files, rfl, settings, loader⟩, ⟨_, _, _, rfl⟩, _, _, _, rfl⟩

theorem similar_setSettings (settings : SettingsSlot) :
    Run.Similar (Configured d₀ d₀')
      (modify fun d : Deployment => { d with settings := settings })
      (modify fun d : Deployment => { d with settings := settings }) := by
  rintro d d' ⟨⟨files, environment, _, loader⟩, ⟨_, _, _, rfl⟩, _, _, _, rfl⟩
  exact ⟨rfl, ⟨files, environment, rfl, loader⟩, ⟨_, _, _, rfl⟩, _, _, _, rfl⟩

/-- Code that looks at the deployment is similar if it is on deployments that are configured. -/
theorem similar_get {α : Type} {f : Deployment → Run Deployment α}
    (rest : ∀ d d', Configured d₀ d₀' d d' → Run.Similar (Configured d₀ d₀') (f d) (f d')) :
    Run.Similar (Configured d₀ d₀') (get >>= f) (get >>= f) :=
  fun d d' configured => rest d d' configured d d' configured

/-- Loops over the same list are similar if their steps are. -/
theorem similar_for {α : Type} {step : α → Run Deployment Unit}
    (steps : ∀ a, Run.Similar (Configured d₀ d₀') (step a) (step a)) (l : List α) :
    let loop : Run Deployment PUnit := forIn l PUnit.unit fun a _ => do
      step a
      return .yield PUnit.unit
    Run.Similar (Configured d₀ d₀') loop loop := by
  intro loop
  unfold loop
  induction l with
  | nil => exact .pure _
  | cons a l ih =>
    simp only [List.forIn_cons, bind_assoc, pure_bind]
    exact (steps a).bind fun _ => ih

/-- Loading an environment file does the same wherever files and environment are the same. -/
theorem similar_loadEnvFile (name : String) :
    Run.Similar (Configured d₀ d₀') (loadEnvFile name) (loadEnvFile name) := by
  refine similar_get fun d d' configured => ?_
  simp only [configured.same.files, configured.same.environment]
  cases d.files.exists? (.ofString name) with
  | error errno => exact .throw _
  | ok found =>
    cases found with
    | false => exact .pure _
    | true =>
      cases EnvFile.isDisabled d.environment with
      | true => exact .pure _
      | false =>
        cases d.files.read (.ofString name) with
        | error errno => exact .pure _
        | ok bytes =>
          cases decoded : Text.decodeUtf8 bytes with
          | error e =>
            simp only [decoded, Bool.false_eq_true, if_false]
            exact .throw _
          | ok text =>
            simp only [decoded, Bool.false_eq_true, if_false]
            refine (similar_for (fun line => similar_log _) _).bind fun _ => ?_
            refine (similar_setEnvironment _).bind fun _ => ?_
            cases (EnvFile.load (Text.unifyLineEnds text) d.environment).2 with
            | none => exact .pure _
            | some e => exact .throw _

theorem similar_readSettings (envFile : String) :
    Run.Similar (Configured d₀ d₀') (readSettings envFile) (readSettings envFile) := by
  refine (similar_setSettings .blank).bind fun _ => ?_
  refine (similar_loadEnvFile usualEnvFile).bind fun _ => ?_
  refine (similar_loadEnvFile envFile).bind fun _ => ?_
  refine similar_get fun d d' configured => ?_
  rw [configured.same.environment]
  obtain ⟨⟨files, _, _, loader⟩, ⟨_, _, _, rfl⟩, _, _, _, rfl⟩ := configured
  intro k k' _
  exact ⟨rfl, ⟨files, rfl, rfl, loader⟩, ⟨_, _, _, rfl⟩, _, _, _, rfl⟩

theorem similar_settingsWith (envFile : String) :
    Run.Similar (Configured d₀ d₀') (settingsWith envFile) (settingsWith envFile) := by
  refine similar_get fun d d' configured => ?_
  rw [configured.same.settings]
  cases d.settings with
  | absent => exact similar_readSettings envFile
  | blank => exact similar_readSettings envFile
  | ready s => exact .pure s

theorem similar_reloadSettings (envFile : String) :
    Run.Similar (Configured d₀ d₀') (reloadSettings envFile) (reloadSettings envFile) :=
  (similar_settingsWith usualEnvFile).bind fun _ => similar_readSettings envFile

end Reading

variable {d d' k : Deployment} {s : Settings}

/-- Deployments with the same configuration get the same settings, or stop in the same way. -/
theorem outcome_settingsWith (envFile : String) (same : d.SameConfiguration d') :
    ((settingsWith envFile).outcome d).1 = ((settingsWith envFile).outcome d').1 ∧
      Configured d d' ((settingsWith envFile).outcome d).2 ((settingsWith envFile).outcome d').2 :=
  similar_settingsWith envFile d d' ⟨same, .refl d, .refl d'⟩

/-- Asking for the settings changes at most log, environment and settings. -/
theorem reads_settingsWith (envFile : String) (d : Deployment) :
    d.Reads ((settingsWith envFile).outcome d).2 :=
  (outcome_settingsWith envFile ⟨rfl, rfl, rfl, rfl⟩).2.left

theorem reads_reloadSettings (envFile : String) (d : Deployment) :
    d.Reads ((reloadSettings envFile).outcome d).2 :=
  (similar_reloadSettings envFile d d ⟨⟨rfl, rfl, rfl, rfl⟩, .refl d, .refl d⟩).2.left

/-- Settings that are known are not read again. -/
theorem settingsWith_of_ready (ready : d.settings = .ready s) (envFile : String) :
    (settingsWith envFile).outcome d = (.ok s, d) := by
  simp [settingsWith, Run.outcome_bind, ready]

/-- Settings that are not known are read. -/
theorem settingsWith_of_unknown (unknown : ∀ s, d.settings ≠ .ready s) (envFile : String) :
    (settingsWith envFile).outcome d = (readSettings envFile).outcome d := by
  cases slot : d.settings with
  | ready s => exact absurd slot (unknown s)
  | absent => simp [settingsWith, Run.outcome_bind, slot]
  | blank => simp [settingsWith, Run.outcome_bind, slot]

/-- Settings that were read are known from then on. -/
theorem ready_of_readSettings {envFile : String}
    (read : (readSettings envFile).outcome d = (.ok s, k)) : k.settings = .ready s := by
  -- whatever the environment files came to, the settings are put down at the end
  rw [readSettings, Run.outcome_bind_of_ok (Run.outcome_modify _ d)] at read
  rcases first : (loadEnvFile usualEnvFile).outcome { d with settings := .blank } with ⟨result, d₁⟩
  cases result with
  | error stop => simp [Run.outcome_bind_of_error first] at read
  | ok =>
    rw [Run.outcome_bind_of_ok first] at read
    rcases second : (loadEnvFile envFile).outcome d₁ with ⟨result, d₂⟩
    cases result with
    | error stop => simp [Run.outcome_bind_of_error second] at read
    | ok =>
      rw [Run.outcome_bind_of_ok second] at read
      have result : Except.ok (.ofEnvironment d₂.environment) = .ok s := congrArg Prod.fst read
      have left : .ready (.ofEnvironment d₂.environment) = k.settings :=
        congrArg (·.2.settings) read
      rw [← left, Except.ok.inj result]

/-- Settings that were read are known from then on. -/
theorem ready_of_settingsWith {envFile : String}
    (read : (settingsWith envFile).outcome d = (.ok s, k)) : k.settings = .ready s := by
  by_cases known : ∃ s', d.settings = .ready s'
  · obtain ⟨s', known⟩ := known
    rw [settingsWith_of_ready known] at read
    cases read
    exact known
  · rw [settingsWith_of_unknown (not_exists.mp known)] at read
    exact ready_of_readSettings read

end Deployment

end FeatureChoice
