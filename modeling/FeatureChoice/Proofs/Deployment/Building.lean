import FeatureChoice.Deployment.SharedCache
import FeatureChoice.Proofs.Deployment.Settings
import FeatureChoice.Proofs.Feature.Stocking
/-!
Building a cache from a configuration. The settings are asked for first, then the seed is loaded, if
there is to be one, and then a new cache is started. Whatever stops on the way, no cache is made.

* `Deployment.startCache`, `Deployment.Starts`: building a cache, and all that can come of it
  (`starts_startCache`).
* `snapshotOf_startCache`: what comes of it depends on the configuration alone.
* `sharedCache_of_none`: the process-wide cache is built in this way when there is none.
-/

namespace FeatureChoice.Deployment

/-- The seed in a file; without a file it is empty. -/
def seedAt (d : Deployment) : Option Files.Path → Except Fault SeedTruths
  | none => .ok .empty
  | some path => Seed.ofFile d.loader d.files path

/-- Load the seed in a file, as a cache takes it. -/
def offersAt (path : Option Files.Path) : Run Deployment (List (Key × Offer)) :=
  match path with
  | some path => Seed.toOffers <$> loadSeed path
  | none => pure []

/-- Start a cache from the settings: `path` tells the seed file, if there is to be one, and
`defaults` whether default features are wanted. -/
def startCache (path : Settings → Option Files.Path) (defaults : Settings → Bool) :
    Run Deployment CacheId := do
  let s ← currentSettings
  let seed ← offersAt (path s)
  (Host.freshCache .plain seed (defaults s)).onHost

/-- What comes of starting a cache. -/
inductive Starts (path : Settings → Option Files.Path) (defaults : Settings → Bool)
    (d : Deployment) : Except Stop CacheId × Deployment → Prop where
  /-- There are no settings. -/
  | unsettled {stop d₁} (read : currentSettings.outcome d = (.error stop, d₁)) :
    Starts path defaults d (.error stop, d₁)
  /-- There is no seed. -/
  | unseeded {s d₁ f} (read : currentSettings.outcome d = (.ok s, d₁))
    (seed : d₁.seedAt (path s) = .error f) : Starts path defaults d (.error (.fault f), d₁)
  /-- There is one cache more. -/
  | started {s d₁ truths h} (read : currentSettings.outcome d = (.ok s, d₁))
    (seed : d₁.seedAt (path s) = .ok truths)
    (puts : d₁.host.Puts ⟨d₁.host.caches.size⟩ (.started truths (defaults s)) h) :
    Starts path defaults d (.ok ⟨d₁.host.caches.size⟩, { d₁ with host := h })

variable {d : Deployment}

/-- A seed file that cannot be loaded changes nothing. -/
theorem outcome_loadSeed_of_error {path : Files.Path} {f : Fault}
    (bad : Seed.ofFile d.loader d.files path = .error f) :
    (loadSeed path).outcome d = (.error (.fault f), d) := by
  have fails : (Host.loadSeed d.loader d.files path).outcome d.host =
      (.error (.fault f), d.host) := by
    simp only [Host.loadSeed, bad, Run.outcome_fail]
  simp only [loadSeed, Run.outcome_bind, Run.outcome_get, Run.outcome_onHost, Hosted.host, fails]
  rfl

/-- Loading a seed file changes nothing but the log. -/
theorem outcome_loadSeed_of_ok {path : Files.Path} {truths : SeedTruths}
    (good : Seed.ofFile d.loader d.files path = .ok truths) :
    ∃ row, (loadSeed path).outcome d = (.ok truths, { d with host := d.host.log row }) := by
  have loads : ∃ row, (Host.loadSeed d.loader d.files path).outcome d.host =
      (.ok truths, d.host.log row) := by
    simp only [Host.loadSeed, good]
    exact ⟨_, rfl⟩
  obtain ⟨row, loads⟩ := loads
  refine ⟨row, ?_⟩
  simp only [loadSeed, Run.outcome_bind, Run.outcome_get, Run.outcome_onHost, Hosted.host, loads]
  rfl

theorem outcome_offersAt_of_error {path : Option Files.Path} {f : Fault}
    (bad : d.seedAt path = .error f) :
    (offersAt path).outcome d = (.error (.fault f), d) := by
  cases path with
  | none => cases bad
  | some path => rw [offersAt, Run.outcome_map, outcome_loadSeed_of_error bad]; rfl

/-- Loading a seed changes nothing but the log. -/
theorem outcome_offersAt_of_ok {path : Option Files.Path} {truths : SeedTruths}
    (good : d.seedAt path = .ok truths) :
    ∃ journal, (offersAt path).outcome d =
      (.ok (Seed.toOffers truths), { d with host := { d.host with journal := journal } }) := by
  cases path with
  | none =>
    cases good
    exact ⟨d.host.journal, rfl⟩
  | some path =>
    obtain ⟨row, loaded⟩ := outcome_loadSeed_of_ok good
    refine ⟨(d.host.log row).journal, ?_⟩
    rw [offersAt, Run.outcome_map, loaded]
    rfl

section Starting

variable {d₁ : Deployment} {s : Settings} {path : Settings → Option Files.Path}
  (defaults : Settings → Bool)

/-- A cache cannot be started if the settings cannot be read. -/
theorem startCache_of_unsettled {stop : Stop}
    (read : currentSettings.outcome d = (.error stop, d₁)) :
    (startCache path defaults).outcome d = (.error stop, d₁) := by
  rw [startCache, Run.outcome_bind_of_error read]

/-- A cache cannot be started if its seed file cannot be loaded. -/
theorem startCache_of_unseeded {f : Fault} (read : currentSettings.outcome d = (.ok s, d₁))
    (seed : d₁.seedAt (path s) = .error f) :
    (startCache path defaults).outcome d = (.error (.fault f), d₁) := by
  rw [startCache, Run.outcome_bind_of_ok read,
    Run.outcome_bind_of_error (outcome_offersAt_of_error seed)]

/-- A cache that is started has a place of its own and holds the seed and, if they are wanted, the
default features. -/
theorem startCache_of_seeded {truths : SeedTruths}
    (read : currentSettings.outcome d = (.ok s, d₁))
    (seed : d₁.seedAt (path s) = .ok truths) :
    ∃ h, (startCache path defaults).outcome d =
        (.ok ⟨d₁.host.caches.size⟩, { d₁ with host := h }) ∧
      d₁.host.Puts ⟨d₁.host.caches.size⟩ (.started truths (defaults s)) h := by
  obtain ⟨journal, went⟩ := outcome_offersAt_of_ok seed
  obtain ⟨h, fresh, puts⟩ :=
    Host.outcome_freshCache truths (defaults s) { d₁.host with journal := journal }
  refine ⟨h, ?_, puts.of_relogged⟩
  rw [startCache, Run.outcome_bind_of_ok read, Run.outcome_bind_of_ok went, Run.outcome_onHost]
  simp only [Hosted.host, fresh]
  rfl

variable (path)

/-- Nothing else comes of starting a cache. -/
theorem starts_startCache (d : Deployment) :
    Starts path defaults d ((startCache path defaults).outcome d) := by
  rcases read : currentSettings.outcome d with ⟨stop | s, d₁⟩
  · rw [startCache_of_unsettled defaults read]
    exact .unsettled read
  · rcases seed : d₁.seedAt (path s) with f | truths
    · rw [startCache_of_unseeded defaults read seed]
      exact .unseeded read seed
    · obtain ⟨h, started, puts⟩ := startCache_of_seeded defaults read seed
      rw [started]
      exact .started read seed puts

end Starting

namespace Starts

variable {path : Settings → Option Files.Path} {defaults : Settings → Bool} {k : Deployment}

/-- If there is no new cache, settings may have been read, and nothing else was changed. -/
theorem reads {stop : Stop} (starts : Starts path defaults d (.error stop, k)) : d.Reads k := by
  have reads := reads_settingsWith usualEnvFile d
  rw [← currentSettings] at reads
  cases starts with
  | unsettled read => rwa [read] at reads
  | unseeded read => rwa [read] at reads

/-- The new cache is the next one. -/
theorem puts {id : CacheId} (starts : Starts path defaults d (.ok id, k)) :
    ∃ c, id = ⟨d.host.caches.size⟩ ∧ d.host.Puts ⟨d.host.caches.size⟩ c k.host ∧
      k.shared = d.shared := by
  have reads := reads_settingsWith usualEnvFile d
  rw [← currentSettings] at reads
  cases starts with
  | @started s d₁ truths h read seed puts =>
    rw [read] at reads
    obtain ⟨journal, _, _, rfl⟩ := reads
    exact ⟨_, rfl, puts.of_relogged, rfl⟩

end Starts

section Snapshots

variable (path : Settings → Option Files.Path) (defaults : Settings → Bool)

/-- What a cache knows of its features, or why there is no cache. -/
def snapshotOf (built : Except Stop CacheId × Deployment) :
    Except Stop (OrderedMap Key (Option Bool)) :=
  built.1.map fun id => (built.2.host.cache id).snapshot

/-- Caches that are started from the same configuration know the same, or there are none for the
same reason. -/
theorem snapshotOf_startCache {d d' : Deployment} (same : d.SameConfiguration d') :
    snapshotOf ((startCache path defaults).outcome d) =
      snapshotOf ((startCache path defaults).outcome d') := by
  obtain ⟨results, configured⟩ := outcome_settingsWith usualEnvFile same
  rw [← currentSettings] at results configured
  rcases read : currentSettings.outcome d with ⟨result, d₁⟩
  rcases read' : currentSettings.outcome d' with ⟨result', d₁'⟩
  rw [read, read'] at results configured
  have seeds : ∀ path, d₁'.seedAt path = d₁.seedAt path := by
    have files : d₁'.files = d₁.files := configured.same.files
    have loader : d₁'.loader = d₁.loader := configured.same.loader
    intro path
    cases path with
    | none => rfl
    | some path => simp only [seedAt, files, loader]
  obtain rfl : result = result' := results
  cases result with
  | error stop =>
    rw [startCache_of_unsettled defaults read, startCache_of_unsettled defaults read']
    rfl
  | ok s =>
    cases seed : d₁.seedAt (path s) with
    | error f =>
      rw [startCache_of_unseeded defaults read seed,
        startCache_of_unseeded defaults read' ((seeds _).trans seed)]
      rfl
    | ok truths =>
      obtain ⟨h, started, puts⟩ := startCache_of_seeded defaults read seed
      obtain ⟨h', started', puts'⟩ := startCache_of_seeded defaults read' ((seeds _).trans seed)
      rw [started, started']
      simp [snapshotOf, Except.map, puts.cache_self, puts'.cache_self]

end Snapshots

/-- The process-wide cache is kept. -/
theorem sharedCache_of_some {id : CacheId} (there : d.shared = some id) :
    sharedCache.outcome d = (.ok id, d) := by
  simp [sharedCache, Run.outcome_bind, there]

/-- If there is no process-wide cache, one is started and put there. -/
theorem sharedCache_of_none (absent : d.shared = none) :
    sharedCache.outcome d =
      (do
        let id ← startCache Settings.seedPath Settings.registerDefaults
        installCache id
        return id : Run Deployment CacheId).outcome d := by
  simp only [startCache, bind_assoc]
  rw [sharedCache, Run.outcome_bind_of_ok (Run.outcome_get d), absent]
  refine congrArg (Run.outcome · d) (bind_congr fun s => ?_)
  cases s.seedPath with
  | none => rfl
  | some path => rfl

section First

variable {k : Deployment}

/-- If starting fails, there still is no shared cache. -/
theorem sharedCache_of_failed {stop : Stop} (absent : d.shared = none)
    (failed : (startCache Settings.seedPath Settings.registerDefaults).outcome d =
      (.error stop, k)) : sharedCache.outcome d = (.error stop, k) := by
  rw [sharedCache_of_none absent, Run.outcome_bind_of_error failed]

/-- A cache that was started for it is the shared one from then on. -/
theorem sharedCache_of_started {id : CacheId} (absent : d.shared = none)
    (started : (startCache Settings.seedPath Settings.registerDefaults).outcome d = (.ok id, k)) :
    sharedCache.outcome d = (.ok id, { k with shared := some id }) := by
  rw [sharedCache_of_none absent, Run.outcome_bind_of_ok started]
  rfl

end First

/-- The first use of the shared cache finds what a cache started for it would hold. -/
theorem snapshotOf_sharedCache (absent : d.shared = none) :
    snapshotOf (sharedCache.outcome d) =
      snapshotOf ((startCache Settings.seedPath Settings.registerDefaults).outcome d) := by
  rcases started : (startCache Settings.seedPath Settings.registerDefaults).outcome d with
    ⟨stop | id, k⟩
  · rw [sharedCache_of_failed absent started]
  · rw [sharedCache_of_started absent started]
    rfl

end FeatureChoice.Deployment
