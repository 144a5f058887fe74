import FeatureChoice.Proofs.Deployment.Steps
import FeatureChoice.Yaml.Data
/-!
The life of the process-wide cache. It is built when it is first used, from the settings and the
seed file as they are at that moment; then it stays what it is, whatever becomes of the environment,
the files and the settings, until another cache is installed or it is dropped.

* `Lifecycle`: what holds of the process-wide cache over steps, in whatever order they are taken.
* `shared_after`, `settings_after`, `absent_after`: what stays over steps of some kinds.
* `sharedCache_lifecycle`: steps from a tidy deployment have such a life.
-/

namespace FeatureChoice.Deployment

/-! ### Statements about steps -/

/-- If an operation on the process-wide cache gets a cache, it is this one, and the operation is
carried out as one that is given this cache. -/
def Uses (depth : Nat) (g : CacheId) (op : Operation) (d : Deployment) : Prop :=
  ∀ id k, sharedCache.outcome d = (.ok id, k) →
    id = g ∧ (op.run depth none).outcome d = (op.run depth (some g)).outcome k

/-- The life of the process-wide cache over steps. -/
structure Lifecycle (depth : Nat) (d : Deployment) (steps : List Step) : Prop where
  /-- Between two steps that replace it all operations on the process-wide cache use one cache. -/
  same : ∀ before between rest, steps = before ++ between ++ rest →
    (∀ step ∈ between, step.replaces = false) →
    ∃ g, ∀ first op last, between = first ++ .use none op :: last →
      Uses depth g op (after depth d (before ++ first))
  /-- Once it is there it stays until it is replaced; asking for it reads and builds nothing. -/
  stays : ∀ before between rest g, steps = before ++ between ++ rest →
    (after depth d before).shared = some g → (∀ step ∈ between, step.replaces = false) →
    let now := after depth d (before ++ between)
    now.shared = some g ∧ sharedCache.outcome now = (.ok g, now)
  /-- As long as there is none, only an installation or a use of it can provide one. -/
  waits : ∀ before between rest, steps = before ++ between ++ rest →
    (after depth d before).shared = none →
    (∀ step ∈ between, step.isDefault = false ∧ ∀ id, step ≠ .install id) →
    (after depth d (before ++ between)).shared = none
  /-- A use of it where there is none builds it from the settings and the seed file as they are
  then; if that fails there is still none, and no other cache either. -/
  builds : ∀ before op rest, steps = before ++ .use none op :: rest →
    let now := after depth d before
    now.shared = none → FirstUse depth op now ((op.run depth none).outcome now)
  /-- A cache that was built was never there before. -/
  fresh : ∀ before op rest g, steps = before ++ .use none op :: rest →
    (after depth d before).shared = none →
    (after depth d (before ++ [.use none op])).shared = some g →
    ∀ first last, before = first ++ last → g ∉ (after depth d first).host.caches.keys
  installed : ∀ before id rest, steps = before ++ .install id :: rest →
    after depth d (before ++ [.install id]) = { after depth d before with shared := some id }
  dropped : ∀ before rest, steps = before ++ .drop :: rest →
    after depth d (before ++ [.drop]) = { after depth d before with shared := none }
  /-- Settings that are known stay the same until they are reloaded. -/
  settled : ∀ before between rest s, steps = before ++ between ++ rest →
    (after depth d before).settings = .ready s → (∀ step ∈ between, step.reloads = false) →
    let now := after depth d (before ++ between)
    currentSettings.outcome now = (.ok s, now)
  /-- Settings that are not known are read when they are asked for, and are known from then on. That
  leaves the files, the caches and the process-wide one as they are. -/
  settles : ∀ before rest, steps = before ++ rest →
    let now := after depth d before
    (∀ s, now.settings ≠ .ready s) →
      currentSettings.outcome now = (readSettings usualEnvFile).outcome now ∧
      now.Reads (currentSettings.outcome now).2 ∧
      ∀ s k, currentSettings.outcome now = (.ok s, k) → k.settings = .ready s
  /-- Changes of environment, files and settings leave the process-wide cache and all others as they
  are. -/
  configured : ∀ before step rest, steps = before ++ step :: rest → step.configures = true →
    let now := after depth d before
    (step.next depth now).shared = now.shared ∧
      (step.next depth now).host.caches = now.host.caches
  /-- An operation on a given cache builds no cache and changes nothing but the host. It leaves
  every other cache as it is, unless that is the workspace and code that is run on the way acts on
  it. -/
  apart : ∀ before id op rest, steps = before ++ .use (some id) op :: rest →
    let now := after depth d before
    ∃ h, (op.run depth (some id)).outcome now = (((op.run depth (some id)).outcome now).1,
        { now with host := h }) ∧
      h.caches.keys = now.host.caches.keys ∧ h.workspace = now.host.workspace ∧
      ∀ g, g ≠ id → h.cache g = now.host.cache g ∨
        now.host.workspace = some g ∧ ∃ m ∈ op.history depth id now.host, m.event.subject.1 = g

/-! ### What stays -/

variable {depth : Nat} {d k : Deployment} {steps : List Step} {step : Step} {g id : CacheId}
  {op : Operation} {s : Settings}

theorem shared_run_some (depth : Nat) (id : CacheId) (op : Operation) (d : Deployment) :
    ((op.run depth (some id)).outcome d).2.shared = d.shared := by
  rw [Operation.outcome_run]

/-- Whoever asks for the process-wide cache finds it there afterwards. -/
theorem shared_of_sharedCache (got : sharedCache.outcome d = (.ok id, k)) : k.shared = some id := by
  cases there : d.shared with
  | some g =>
    rw [sharedCache_of_some there] at got
    cases got
    exact there
  | none =>
    rcases start : (startCache Settings.seedPath Settings.registerDefaults).outcome d with
      ⟨stop | built, k'⟩
    · rw [sharedCache_of_failed there start] at got
      cases got
    · rw [sharedCache_of_started there start] at got
      cases got
      rfl

/-- A step that replaces nothing leaves the shared cache the same. -/
theorem shared_next (there : d.shared = some g) (kept : step.replaces = false) (depth : Nat) :
    (step.next depth d).shared = some g := by
  cases step with
  | use cache op =>
    cases cache with
    | some id => exact (shared_run_some depth id op d).trans there
    | none =>
      show ((op.run depth none).outcome d).2.shared = some g
      rw [outcome_run_of_some there, shared_run_some, there]
  | install id => cases kept
  | drop => cases kept
  | settings envFile => exact (reads_settingsWith envFile d).shared.trans there
  | reload envFile => exact (reads_reloadSettings envFile d).shared.trans there
  | _ => exact there

theorem shared_after (there : d.shared = some g)
    (kept : ∀ step ∈ steps, step.replaces = false) (depth : Nat) :
    (after depth d steps).shared = some g :=
  after_induction (·.shared = some g) (·.replaces = false)
    (fun _ _ there kept => shared_next there kept depth) there kept

/-- A step that neither uses nor installs the shared cache does not make one. -/
theorem absent_next (absent : d.shared = none) (unused : step.isDefault = false)
    (free : ∀ id, step ≠ .install id) (depth : Nat) : (step.next depth d).shared = none := by
  cases step with
  | use cache op =>
    cases cache with
    | some id => exact (shared_run_some depth id op d).trans absent
    | none => cases unused
  | install id => exact absurd rfl (free id)
  | drop => rfl
  | settings envFile => exact (reads_settingsWith envFile d).shared.trans absent
  | reload envFile => exact (reads_reloadSettings envFile d).shared.trans absent
  | _ => exact absent

theorem absent_after (absent : d.shared = none)
    (unused : ∀ step ∈ steps, step.isDefault = false ∧ ∀ id, step ≠ .install id) (depth : Nat) :
    (after depth d steps).shared = none :=
  after_induction (·.shared = none) (fun step => step.isDefault = false ∧ ∀ id, step ≠ .install id)
    (fun _ _ absent unused => absent_next absent unused.1 unused.2 depth) absent unused

theorem Starts.settings {path : Settings → Option Files.Path} {defaults : Settings → Bool}
    {built : Except Stop CacheId} (ready : d.settings = .ready s)
    (starts : Starts path defaults d (built, k)) : k.settings = .ready s := by
  have read := settingsWith_of_ready ready usualEnvFile
  rw [← currentSettings] at read
  cases starts with
  | unsettled read' =>
    rw [read] at read'
    cases read'
  | unseeded read' =>
    rw [read] at read'
    cases read'
    exact ready
  | started read' =>
    rw [read] at read'
    cases read'
    exact ready

/-- Settings stay until they are read again. -/
theorem settings_next (ready : d.settings = .ready s) (kept : step.reloads = false) (depth : Nat) :
    (step.next depth d).settings = .ready s := by
  have given : ∀ id op d', d'.settings = .ready s →
      ((Operation.run depth (some id) op).outcome d').2.settings = .ready s := by
    intro id op d' ready'
    rw [Operation.outcome_run]
    exact ready'
  cases step with
  | use cache op =>
    cases cache with
    | some id => exact given id op d ready
    | none =>
      show ((op.run depth none).outcome d).2.settings = .ready s
      cases there : d.shared with
      | some g =>
        rw [outcome_run_of_some there]
        exact given g op d ready
      | none =>
        have first := firstUse there depth op
        generalize (op.run depth none).outcome d = came at first ⊢
        cases first with
        | failed starts => exact starts.settings ready
        | @built id k starts =>
          have left : k.settings = .ready s := starts.settings ready
          exact given id op { k with shared := some id } left
  | settings envFile =>
    show ((settingsWith envFile).outcome d).2.settings = .ready s
    rw [settingsWith_of_ready ready]
    exact ready
  | reload envFile => cases kept
  | _ => exact ready

theorem settings_after (ready : d.settings = .ready s)
    (kept : ∀ step ∈ steps, step.reloads = false) (depth : Nat) :
    (after depth d steps).settings = .ready s :=
  after_induction (·.settings = .ready s) (·.reloads = false)
    (fun _ _ ready kept => settings_next ready kept depth) ready kept

/-! ### Uses -/

/-- With a shared cache, an operation on no cache in particular is one on the shared one. -/
theorem uses_of_some (there : d.shared = some g) (depth : Nat) (op : Operation) :
    Uses depth g op d := by
  intro id k got
  rw [sharedCache_of_some there] at got
  cases got
  exact ⟨rfl, outcome_run_of_some there depth op⟩

/-- A use of the process-wide cache uses the one that is there afterwards. -/
theorem shared_next_of_got (got : sharedCache.outcome d = (.ok id, k)) (depth : Nat)
    (op : Operation) : ((Step.use none op).next depth d).shared = some id := by
  show ((op.run depth none).outcome d).2.shared = some id
  rw [outcome_run_of_got got, shared_run_some, shared_of_sharedCache got]

/-- Steps that do not replace the process-wide cache use one cache. -/
theorem uses_same (kept : ∀ step ∈ steps, step.replaces = false) (depth : Nat) (d : Deployment) :
    ∃ g, ∀ first op last, steps = first ++ .use none op :: last →
      Uses depth g op (after depth d first) := by
  induction steps generalizing d with
  | nil => exact ⟨⟨0⟩, fun first op last eq => by simp at eq⟩
  | cons step steps ih =>
    have kept' : ∀ step ∈ steps, step.replaces = false :=
      fun step mem => kept step (List.mem_cons_of_mem _ mem)
    cases there : (step.next depth d).shared with
    | some g =>
      refine ⟨g, fun first op last eq => ?_⟩
      cases first with
      | nil =>
        obtain ⟨rfl, rfl⟩ := List.cons.inj eq
        intro id k got
        obtain rfl := Option.some.inj ((shared_next_of_got got depth op).symm.trans there)
        exact ⟨rfl, outcome_run_of_got got depth op⟩
      | cons head first =>
        obtain ⟨rfl, rfl⟩ := List.cons.inj eq
        refine uses_of_some (shared_after there (fun step mem => ?_) depth) depth op
        exact kept' step (List.mem_append_left _ mem)
    | none =>
      -- the first step, if it is a use, got no cache
      obtain ⟨g, uses⟩ := ih kept' (step.next depth d)
      refine ⟨g, fun first op last eq => ?_⟩
      cases first with
      | nil =>
        obtain ⟨rfl, rfl⟩ := List.cons.inj eq
        intro id k got
        cases (shared_next_of_got got depth op).symm.trans there
      | cons head first =>
        obtain ⟨rfl, rfl⟩ := List.cons.inj eq
        exact uses first op last rfl

/-- The process-wide cache that a use builds is none of those that are there. -/
theorem FirstUse.fresh {came : Except Stop Operation.Answer × Deployment}
    (first : FirstUse depth op d came) (tidy : d.Tidy) (there : came.2.shared = some g) :
    g ∉ d.host.caches.keys := by
  cases first with
  | failed _ absent =>
    rw [absent] at there
    cases there
  | built starts =>
    obtain ⟨c, rfl, -, -⟩ := starts.puts
    rw [shared_run_some] at there
    obtain rfl := Option.some.inj there
    exact tidy.numbered.fresh

/-- Whatever a host does in a process, step by step: between two steps that replace the process-wide
cache all uses of it use the same one. It is built at the first use, from the settings known then or
read then and from the seed file as it is then, or, if that fails, at a later use. It is a cache
that was not there before, and no change of environment, files or settings and no operation on
another cache builds or alters it. -/
theorem sharedCache_lifecycle (tidy : d.Tidy) (knowing : Knowing depth d steps) :
    Lifecycle depth d steps where
  same := by
    rintro before between rest rfl kept
    simp only [after_append]
    exact uses_same kept depth (after depth d before)
  stays := by
    rintro before between rest g rfl there kept
    have stays := shared_after there kept depth
    rw [← after_append] at stays
    exact ⟨stays, sharedCache_of_some stays⟩
  waits := by
    rintro before between rest rfl absent unused
    rw [after_append]
    exact absent_after absent unused depth
  builds := fun before op _ _ absent => firstUse absent depth op
  fresh := by
    rintro before op rest g rfl absent there first last rfl
    obtain ⟨knowing, -⟩ := knowing_append.mp knowing
    obtain ⟨early, late⟩ := knowing_append.mp knowing
    have tidy' := (continues_after tidy early).tidy
    have goesOn := continues_after tidy' late
    rw [after_append] at absent
    rw [after_append, after_append] at there
    exact fun mem => (firstUse absent depth op).fresh goesOn.tidy there (goesOn.caches mem)
  installed := by
    rintro before id rest rfl
    rw [after_append]
    rfl
  dropped := by
    rintro before rest rfl
    rw [after_append]
    rfl
  settled := by
    rintro before between rest s rfl ready kept
    have stays := settings_after ready kept depth
    rw [← after_append] at stays
    exact settingsWith_of_ready stays usualEnvFile
  settles := by
    rintro before rest rfl now unknown
    refine ⟨?_, reads_settingsWith usualEnvFile now, fun s k read => ready_of_settingsWith read⟩
    exact settingsWith_of_unknown unknown usualEnvFile
  configured := by
    rintro before step rest rfl configures now
    cases step with
    | environment values => exact ⟨rfl, rfl⟩
    | files tree => exact ⟨rfl, rfl⟩
    | settings envFile =>
      have reads := reads_settingsWith envFile now
      exact ⟨reads.shared, reads.caches⟩
    | reload envFile =>
      have reads := reads_reloadSettings envFile now
      exact ⟨reads.shared, reads.caches⟩
    | _ => cases configures
  apart := by
    rintro before id op rest rfl now
    obtain ⟨early, late⟩ := knowing_append.mp knowing
    exact (continues_after tidy early).tidy.apart_use late.1 depth op

/-- A process that is told of a seed file before there is one. -/
def earlyDeployment : Deployment :=
  .start Yaml.load ⟨⟨[]⟩⟩ ⟨[("HASCOND_SEED_FILE", "seed.yaml")]⟩ ""

/-- The process-wide cache cannot be built, is built, stays, is dropped and is built again. -/
def earlySteps : List Step :=
  let bytes := "dom: true\n".toList.map fun c => UInt8.ofNat c.toNat
  [.use none .get, .files ⟨⟨[(["seed.yaml"], .file bytes)]⟩⟩, .use none (.has (.text "dom")),
    .environment ⟨[]⟩, .reload usualEnvFile, .make .plain [], .work ⟨1⟩,
    .use (some ⟨1⟩) (.select "dom?a:b"), .use none (.select "dom?a:b"), .drop,
    .use none (.has (.text "dom"))]

/-- After it is dropped, the shared cache is made anew with the files of that moment. -/
theorem sharedCache_lifecycle_rebuilt :
    Knowing 1 earlyDeployment earlySteps ∧ Lifecycle 1 earlyDeployment earlySteps ∧
      (after 1 earlyDeployment (earlySteps.take 9)).shared = some ⟨0⟩ ∧
      (after 1 earlyDeployment earlySteps).shared = some ⟨2⟩ := by
  have knowing : Knowing 1 earlyDeployment earlySteps := by decide +kernel
  exact ⟨knowing, sharedCache_lifecycle (tidy_start _ _ _ _) knowing, by decide +kernel,
    by decide +kernel⟩

end FeatureChoice.Deployment
