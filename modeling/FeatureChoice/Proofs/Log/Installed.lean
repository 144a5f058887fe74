import FeatureChoice.Proofs.Command.Layering
import FeatureChoice.Proofs.Deployment.Operation
/-!
What leaves the destinations of the log as they are. Host code writes to the log and does not
install anything; and apart from the facility itself, no part of a command does.

* `Host.rule_writing`, `Host.writing_query`: queries, registrations, evaluations and new caches
  install nothing.
* `Deployment.SameLog`, `Run.SparesLog`: runs that leave the facility and the destinations as they
  are, with their laws for sequencing.
* `sparesLog_currentSettings`, `sparesLog_perform`: reading the settings, and doing a task on a cache
  made for it.
-/

namespace FeatureChoice

variable {α β : Type}

/-! ### Host code -/

namespace Host

open Run (Keeps)

/-- A host with these destinations and this workspace. -/
structure Writing (installed : List Log.Destination) (workspace : Option CacheId) (h : Host) :
    Prop where
  installed : h.journal.installed = installed
  workspace : h.workspace = workspace

variable {installed : List Log.Destination} {workspace : Option CacheId} {id : CacheId}

theorem writing_log (row : Log.Row) :
    Keeps (Writing installed workspace) (change (·.log row)) :=
  fun h writing => ⟨(h.journal.installed_emit row).trans writing.installed, writing.workspace⟩

/-- Writing keeps to the destinations and the workspace. -/
theorem rule_writing : Rule (Writing installed workspace) workspace True where
  workspace _ writing := writing.workspace
  aside _ _ _ sameWorkspace sameJournal _ writing :=
    ⟨sameJournal ▸ writing.installed, sameWorkspace.trans writing.workspace⟩
  trace _ row h writing := by
    show Writing installed workspace (h.trace row)
    unfold trace
    split
    · exact writing_log row h writing
    · exact writing

theorem writing_setCache (id : CacheId) (f : Host → Cache) :
    Keeps (Writing installed workspace) (change fun h => h.setCache id (f h)) :=
  fun _ writing => ⟨writing.installed, writing.workspace⟩

/-- Entering only writes to the log. -/
theorem writing_enter (id : CacheId) (name : FeatureName) (o : Offer) (force : Bool) :
    Keeps (Writing installed workspace) (enter id name o force) :=
  keeps_enter (fun _ => writing_log _) (fun _ => writing_setCache id _) name

theorem writing_keep (id : CacheId) (key : Key) (b : Bool) :
    Keeps (Writing installed workspace) (keep id key b) :=
  keeps_keep (fun _ => writing_log _) (writing_setCache id _)

/-- A query only writes to the log, whatever its probes do. -/
theorem writing_query (depth : Nat) (id : CacheId) (name : FeatureName) :
    Keeps (Writing installed workspace) (query depth id name) := by
  have works : ∀ id, workspace = some id → True := fun _ _ => trivial
  have entered : ∀ id, True → ∀ name o force, True →
      Keeps (Writing installed workspace) (enter id name o force) :=
    fun id _ name o force _ => writing_enter id name o force
  have kept : ∀ id, True → ∀ key b, Keeps (Writing installed workspace) (keep id key b) :=
    fun id _ key b => writing_keep id key b
  refine rule_writing.query works entered kept ?_ depth trivial name
  intro h _ id _ key p _ context
  exact Script.limited_of_all (fun _ => trivial) (p.body context)

theorem writing_register (depth : Nat) (id : CacheId) (name : FeatureName) (o : Offer)
    (now force : Bool) :
    Keeps (Writing installed workspace) (register depth id name o now force) := by
  refine (writing_enter id name o force).bind fun _ => ?_
  cases now with
  | false => exact .pure none
  | true =>
    rw [if_pos rfl, ← bind_pure_comp]
    exact (writing_query depth id name).bind fun _ => .pure _

/-- Making a cache only writes to the log. -/
theorem writing_freshCache (context : Context) (seed : List (Key × Offer)) (defaults : Bool) :
    Keeps (Writing installed workspace) (freshCache context seed defaults) := by
  have made : Keeps (Writing installed workspace) (newCache context seed) :=
    fun _ writing => ⟨writing.installed, writing.workspace⟩
  have registered : ∀ id, Keeps (Writing installed workspace) (registerDefaults id) := by
    intro id
    refine (Keeps.look _).bind fun features => ?_
    induction features with
    | nil => exact .pure PUnit.unit
    | cons feature features ih =>
      exact (writing_enter id (.text feature.1) (.value (.bool feature.2)) false).bind fun _ => ih
  refine made.bind fun id => ?_
  have said := (Keeps.look (I := Writing installed workspace) (·.cache id)).bind fun c =>
    (writing_log ⟨.debug, bootstrapLogger, s!"bootstrapped {c.display}"⟩).bind fun _ => .pure id
  cases defaults with
  | false => exact said
  | true => exact (registered id).bind fun _ => said

theorem writing_loadSeed (loader : Yaml.Loader) (files : Files.Tree) (path : Files.Path) :
    Keeps (Writing installed workspace) (loadSeed loader files path) := by
  unfold loadSeed
  cases Seed.ofFile loader files path with
  | error f => exact .throw _
  | ok seed => exact (writing_log _).bind fun _ => .pure seed

/-- Resolving an expression only writes to the log. -/
theorem writing_resolve (depth : Nat) (id : CacheId) (expression : String) :
    Keeps (Writing installed workspace)
      ((access depth).resolve (some id) expression (fun _ => pure ()) (pure ())) := by
  have evaluated : Keeps (Writing installed workspace) ((access depth).select id expression) :=
    rule_writing.selectBy (writing_query depth id) trivial expression
  refine evaluated.bind fun s => (writing_log _).bind fun _ => ?_
  cases s.identifier <;> exact .pure _

theorem writing_explain (depth : Nat) (id : CacheId) (expression : String) :
    Keeps (Writing installed workspace) (Command.explain depth id expression) := by
  unfold Command.explain
  induction Expression.parse expression with
  | leaf name => exact .pure _
  | guarded feature t u iht ihu =>
    rw [Explanation.of_guarded]
    refine (writing_query depth id _).bind fun b => ?_
    cases b with
    | false => exact ihu.bind fun _ => .pure _
    | true => exact iht.bind fun _ => .pure _

end Host

/-! ### Runs in a process -/

/-- The log has the same destinations, and the facility is as it was. -/
structure Deployment.SameLog (d k : Deployment) : Prop where
  facility : k.facility = d.facility
  installed : k.host.journal.installed = d.host.journal.installed

/-- A run that leaves the facility and the destinations of the log as they are. -/
def Run.SparesLog (x : Run Deployment α) : Prop :=
  ∀ d : Deployment, d.SameLog (x.outcome d).2

namespace Run.SparesLog

theorem pure (a : α) : SparesLog (Pure.pure a) := fun _ => ⟨rfl, rfl⟩

theorem throw (stop : Stop) : SparesLog (throw stop : Run Deployment α) := fun _ => ⟨rfl, rfl⟩

theorem bind {x : Run Deployment α} {next : α → Run Deployment β} (first : SparesLog x)
    (rest : ∀ a, SparesLog (next a)) : SparesLog (x >>= next) := by
  intro d
  have same := first d
  rcases ended : x.outcome d with ⟨result, k⟩
  rw [ended] at same
  cases result with
  | ok a =>
    rw [outcome_bind_of_ok ended]
    have goesOn := rest a k
    exact ⟨goesOn.facility.trans same.facility, goesOn.installed.trans same.installed⟩
  | error stop =>
    rw [outcome_bind_of_error ended]
    exact same

theorem get {next : Deployment → Run Deployment α} (rest : ∀ d, SparesLog (next d)) :
    SparesLog (MonadState.get >>= next) := fun d => rest d d

theorem modify {f : Deployment → Deployment} (same : ∀ d : Deployment, d.SameLog (f d)) :
    SparesLog (modify f : Run Deployment PUnit) := same

/-- What only writes to the log, whatever its destinations, spares it. -/
theorem onHost {x : Run Host α}
    (keeps : ∀ installed workspace, Run.Keeps (Host.Writing installed workspace) x) :
    SparesLog x.onHost :=
  fun d => ⟨rfl, (keeps d.host.journal.installed d.host.workspace d.host ⟨rfl, rfl⟩).installed⟩

theorem forIn {γ : Type} {f : γ → PUnit → Run Deployment (ForInStep PUnit)}
    (steps : ∀ a, SparesLog (f a PUnit.unit)) (l : List γ) :
    SparesLog (ForIn.forIn l PUnit.unit f) := by
  induction l with
  | nil => exact .pure _
  | cons a l ih =>
    rw [List.forIn_cons]
    refine (steps a).bind fun step => ?_
    cases step with
    | done u => exact .pure u
    | yield u => exact ih

theorem orBadSeed {x : Run Deployment α} (spares : SparesLog x) :
    SparesLog (Command.orBadSeed x) := by
  intro d
  have same := spares d
  simp only [outcome, Command.orBadSeed] at same ⊢
  rcases ended : x d with ⟨result, k⟩
  rw [ended] at same
  split
  · next went => cases went; exact same
  · next went => cases went; exact same
  · next went => cases went; exact same

end Run.SparesLog

open Run (SparesLog)

namespace Deployment

theorem sparesLog_loadEnvFile (name : String) : SparesLog (loadEnvFile name) := by
  refine .get fun d => ?_
  dsimp only
  cases d.files.exists? (.ofString name) with
  | error errno => exact .throw _
  | ok found =>
    cases found with
    | false => exact .pure _
    | true =>
      cases EnvFile.isDisabled d.environment with
      | true => exact .pure _
      | false =>
        cases d.files.read (.ofString name) with
        | error errno => exact .pure _
        | ok bytes =>
          cases decoded : Text.decodeUtf8 bytes with
          | error e =>
            simp only [decoded, Bool.false_eq_true, if_false]
            exact .throw _
          | ok text =>
            simp only [decoded, Bool.false_eq_true, if_false]
            refine .bind (.forIn (fun line => ?_) _) fun _ => ?_
            · exact .bind (.onHost fun _ _ => Host.writing_log _) fun _ => .pure _
            refine .bind (.modify fun _ => ⟨rfl, rfl⟩) fun _ => ?_
            cases (EnvFile.load (Text.unifyLineEnds text) d.environment).2 with
            | none => exact .pure _
            | some e => exact .throw _

theorem sparesLog_readSettings (envFile : String) : SparesLog (readSettings envFile) := by
  refine .bind (.modify fun _ => ⟨rfl, rfl⟩) fun _ => ?_
  refine (sparesLog_loadEnvFile usualEnvFile).bind fun _ => ?_
  refine (sparesLog_loadEnvFile envFile).bind fun _ => ?_
  exact fun d => ⟨rfl, rfl⟩

/-- Reading the settings spares the log. -/
theorem sparesLog_settingsWith (envFile : String) : SparesLog (settingsWith envFile) := by
  refine .get fun d => ?_
  cases d.settings with
  | ready s => exact .pure s
  | absent => exact sparesLog_readSettings envFile
  | blank => exact sparesLog_readSettings envFile

theorem sparesLog_currentSettings : SparesLog currentSettings := sparesLog_settingsWith usualEnvFile

theorem sparesLog_settingsDoubts : SparesLog settingsDoubts := by
  refine sparesLog_currentSettings.bind fun s => .get fun d => ?_
  cases s.doubts d.files with
  | error e => exact .throw _
  | ok doubts => exact .pure _

end Deployment

namespace Command

open Deployment

/-- Starting a cache spares the log. -/
theorem sparesLog_startCache (path : Settings → Option Files.Path) (defaults : Settings → Bool) :
    SparesLog (startCache path defaults) := by
  have loaded : ∀ path, SparesLog (loadSeed path) := fun path =>
    .get fun d => .onHost fun _ _ => Host.writing_loadSeed d.loader d.files path
  refine sparesLog_currentSettings.bind fun s => .bind ?_ fun seed => ?_
  · cases path s with
    | none => exact .pure _
    | some path =>
      rw [offersAt, ← bind_pure_comp]
      exact (loaded path).bind fun _ => .pure _
  · exact .onHost fun _ _ => Host.writing_freshCache _ _ _

theorem sparesLog_assigning (depth : Nat) (id : CacheId)
    (features : List (Given (FeatureName × Offer))) :
    SparesLog (assigning depth id features) := by
  refine .bind (.forIn (fun given => ?_) _) fun _ => .pure _
  cases given with
  | nothing => exact .bind (.throw _) fun _ => .pure _
  | value feature =>
    exact .bind (.onHost fun _ _ => Host.writing_register _ _ _ _ _ _) fun _ => .pure _

/-- Doing a task on a cache spares the log. -/
theorem sparesLog_run (depth : Nat) (id : CacheId) (task : Task) :
    SparesLog (task.run depth id) := by
  cases task with
  | resolve expression json =>
    have lifted : resolve depth (some id) expression (fun _ => pure ()) (pure ()) =
        ((Host.access depth).resolve (some id) expression (fun _ => pure ()) (pure ())).onHost :=
      (Host.over_accessFrom (σ := Deployment) depth).resolve id expression (fun _ => rfl) rfl
    refine .bind ?_ fun _ => .pure _
    rw [lifted]
    exact .onHost fun _ _ => Host.writing_resolve depth id expression
  | explain expression =>
    exact .bind (.onHost fun _ _ => Host.writing_explain depth id expression) fun _ => .pure _
  | features evaluate =>
    have shown : SparesLog (Task.run depth id (.features false)) := by
      refine .get fun d => ?_
      cases featureTable (d.host.cache id).snapshot with
      | error f => exact .throw _
      | ok t => exact .pure _
    cases evaluate with
    | false => exact shown
    | true =>
      refine .get fun d => .bind (.forIn (fun key => ?_) _) fun _ => shown
      exact .bind (.onHost fun _ _ => Host.writing_query depth id _) fun _ => .pure _

/-- Doing a task on a cache made for it installs nothing. -/
theorem sparesLog_perform (depth : Nat) (task : Task) (stock : Stock) :
    SparesLog (perform depth task stock) := by
  have built : SparesLog (buildCache depth stock) := by
    rw [buildCache_eq]
    exact (sparesLog_startCache _ _).bind fun id => sparesLog_assigning depth id _
  refine built.orBadSeed.bind fun built => ?_
  cases built with
  | error e => exact .pure _
  | ok id => exact (sparesLog_run depth id task).bind fun _ => .pure _

end Command

end FeatureChoice
