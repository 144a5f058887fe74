import FeatureChoice.Proofs.Deployment.Building
import FeatureChoice.Proofs.Deployment.Operation
/-!
What a host does in a process, step by step. Steps work on caches, install or drop the process-wide
one, make further caches, and change the files, the environment and the settings. A step that stops
early does not end the process.

* `Deployment.Step`, `Deployment.after`: steps, and the deployment after some of them.
* `Deployment.Tidy`: the process-wide cache and the workspace are among the caches, which are
  numbered as they are made.
* `Deployment.continues_after`: steps keep a deployment tidy and lose no cache.
-/

namespace FeatureChoice

@[simp] theorem OrderedMap.length_keys {κ α : Type} (m : OrderedMap κ α) :
    m.keys.length = m.size := List.length_map ..

/-! ### Hosts with further caches -/

namespace Host

variable {h k : Host}

/-- A host stays numbered as long as its caches and its workspace stay. -/
theorem Numbered.of_same (numbered : h.Numbered) (caches : k.caches.keys = h.caches.keys)
    (workspace : k.workspace = h.workspace) : k.Numbered := by
  have size : k.caches.size = h.caches.size := by simp only [← OrderedMap.length_keys, caches]
  refine ⟨fun id mem => ?_, fun id named => ?_⟩
  · rw [size]
    exact numbered.below id (caches ▸ mem)
  · rw [caches]
    exact numbered.workspace id (workspace ▸ named)

/-- The next cache is none of those that are there. -/
theorem Numbered.fresh (numbered : h.Numbered) : ⟨h.caches.size⟩ ∉ h.caches.keys :=
  fun mem => Nat.lt_irrefl _ (numbered.below _ mem)

/-- There is one cache more, the last one. -/
theorem Puts.keys_fresh {c : Cache} (numbered : h.Numbered) (puts : h.Puts ⟨h.caches.size⟩ c k) :
    k.caches.keys = h.caches.keys ++ [⟨h.caches.size⟩] := by
  obtain ⟨journal, rfl⟩ := puts
  exact (OrderedMap.keys_insert ..).trans (if_neg numbered.fresh)

/-- A new cache gets the next number. -/
theorem Puts.numbered {c : Cache} (numbered : h.Numbered) (puts : h.Puts ⟨h.caches.size⟩ c k) :
    k.Numbered := by
  have keys := puts.keys_fresh numbered
  have size : k.caches.size = h.caches.size + 1 := by
    rw [← OrderedMap.length_keys, keys, List.length_append, OrderedMap.length_keys]
    rfl
  refine ⟨fun id mem => ?_, fun id named => ?_⟩
  · rw [keys, List.mem_append, List.mem_singleton] at mem
    rw [size]
    rcases mem with mem | rfl
    · exact Nat.lt_succ_of_lt (numbered.below id mem)
    · exact Nat.lt_succ_self _
  · rw [keys]
    exact List.mem_append_left _ (numbered.workspace id (puts.workspace ▸ named))

end Host

namespace Deployment

/-! ### Steps -/

/-- What a host does in a process, as far as caches and settings are concerned. -/
inductive Step where
  /-- Work on a cache that is given, or on the process-wide one. -/
  | use (cache : Option CacheId) (op : Operation)
  /-- Install a cache as the process-wide one. -/
  | install (id : CacheId)
  /-- Drop the process-wide cache. -/
  | drop
  /-- Make another cache. -/
  | make (context : Context) (seed : List (Key × Offer))
  /-- Let probes act on another cache. -/
  | work (id : CacheId)
  | environment (values : Environment)
  | files (tree : Files.Tree)
  /-- Ask for the settings. -/
  | settings (envFile : String)
  /-- Read the settings again. -/
  | reload (envFile : String)

namespace Step

/-- The deployment after a step, whatever comes of it. -/
def next (depth : Nat) (d : Deployment) : Step → Deployment
  | use cache op => ((op.run depth cache).outcome d).2
  | install id => ((installCache id).outcome d).2
  | drop => (dropCache.outcome d).2
  | make context seed => { d with host := ((Host.newCache context seed).outcome d.host).2 }
  | work id => { d with host := { d.host with workspace := some id } }
  | environment values => { d with environment := values }
  | files tree => { d with files := tree }
  | settings envFile => ((settingsWith envFile).outcome d).2
  | reload envFile => ((reloadSettings envFile).outcome d).2

/-- Whether a step puts another cache in the place of the process-wide one, or none. -/
def replaces : Step → Bool
  | install _ => true
  | drop => true
  | _ => false

/-- Whether a step works on the process-wide cache without being given it. -/
def isDefault : Step → Bool
  | use none _ => true
  | _ => false

/-- Whether a step reads the settings even if they are known. -/
def reloads : Step → Bool
  | reload _ => true
  | _ => false

/-- Whether a step changes what caches are built from, and does nothing else. -/
def configures : Step → Bool
  | environment _ => true
  | files _ => true
  | settings _ => true
  | reload _ => true
  | _ => false

/-- The cache that a step is given is there. -/
def Known (d : Deployment) : Step → Prop
  | use (some id) _ => id ∈ d.host.caches.keys
  | install id => id ∈ d.host.caches.keys
  | work id => id ∈ d.host.caches.keys
  | _ => True

instance (d : Deployment) : (step : Step) → Decidable (step.Known d)
  | use (some id) _ => inferInstanceAs (Decidable (id ∈ d.host.caches.keys))
  | use none _ => .isTrue trivial
  | install id => inferInstanceAs (Decidable (id ∈ d.host.caches.keys))
  | drop => .isTrue trivial
  | make .. => .isTrue trivial
  | work id => inferInstanceAs (Decidable (id ∈ d.host.caches.keys))
  | environment _ => .isTrue trivial
  | files _ => .isTrue trivial
  | settings _ => .isTrue trivial
  | reload _ => .isTrue trivial

end Step

/-- The deployment after steps. -/
def after (depth : Nat) (d : Deployment) : List Step → Deployment
  | [] => d
  | step :: steps => after depth (step.next depth d) steps

/-- The caches that steps are given are there when they are taken. -/
def Knowing (depth : Nat) (d : Deployment) : List Step → Prop
  | [] => True
  | step :: steps => step.Known d ∧ Knowing depth (step.next depth d) steps

instance Knowing.decidable (depth : Nat) (d : Deployment) :
    (steps : List Step) → Decidable (Knowing depth d steps)
  | [] => .isTrue trivial
  | step :: steps =>
    have := Knowing.decidable depth (step.next depth d) steps
    inferInstanceAs (Decidable (_ ∧ _))

variable {depth : Nat} {d d' d'' k : Deployment} {steps before rest : List Step}

theorem after_append (depth : Nat) (d : Deployment) (before rest : List Step) :
    after depth d (before ++ rest) = after depth (after depth d before) rest := by
  induction before generalizing d with
  | nil => rfl
  | cons step before ih => exact ih (step.next depth d)

/-- What every step of some kind keeps, steps of this kind keep. -/
theorem after_induction (P : Deployment → Prop) (kind : Step → Prop)
    (next : ∀ d step, P d → kind step → P (step.next depth d)) (start : P d)
    (kinds : ∀ step ∈ steps, kind step) : P (after depth d steps) := by
  induction steps generalizing d with
  | nil => exact start
  | cons step steps ih =>
    have first := next d step start (kinds step List.mem_cons_self)
    exact ih first fun step mem => kinds step (List.mem_cons_of_mem _ mem)

/-- Steps that come after others have to know what those left. -/
theorem knowing_append :
    Knowing depth d (before ++ rest) ↔
      Knowing depth d before ∧ Knowing depth (after depth d before) rest := by
  induction before generalizing d with
  | nil => exact ⟨fun knowing => ⟨trivial, knowing⟩, fun knowing => knowing.2⟩
  | cons step before ih => exact (and_congr_right fun _ => ih).trans and_assoc.symm

/-! ### Tidy deployments -/

/-- A deployment whose caches are numbered as they were made; the process-wide one is among them. -/
structure Tidy (d : Deployment) : Prop where
  numbered : d.host.Numbered
  shared : ∀ id, d.shared = some id → id ∈ d.host.caches.keys

/-- A tidy deployment that still has the caches of another one. -/
structure Continues (d d' : Deployment) : Prop where
  tidy : d'.Tidy
  caches : d.host.caches.keys ⊆ d'.host.caches.keys

theorem tidy_start (loader : Yaml.Loader) (files : Files.Tree) (environment : Environment)
    (day : String) : (start loader files environment day).Tidy :=
  ⟨⟨fun _ mem => absurd mem List.not_mem_nil, fun _ named => by cases named⟩,
    fun _ there => by cases there⟩

theorem Continues.trans (first : d.Continues d') (second : d'.Continues d'') : d.Continues d'' :=
  ⟨second.tidy, List.Subset.trans first.caches second.caches⟩

namespace Tidy

variable (tidy : d.Tidy)

include tidy

theorem continues_self : d.Continues d := ⟨tidy, List.Subset.refl _⟩

/-- A deployment with the same caches, the same workspace and the same process-wide cache. -/
theorem continues_of_same (caches : k.host.caches.keys = d.host.caches.keys)
    (workspace : k.host.workspace = d.host.workspace) (shared : k.shared = d.shared) :
    d.Continues k :=
  ⟨⟨tidy.numbered.of_same caches workspace,
    fun id there => caches ▸ tidy.shared id (shared ▸ there)⟩, fun _ mem => caches ▸ mem⟩

theorem continues_of_reads (reads : d.Reads k) : d.Continues k :=
  tidy.continues_of_same (congrArg _ reads.caches) reads.workspace reads.shared

/-- A deployment with a new cache, which may be the process-wide one. -/
theorem continues_of_puts {c : Cache} (puts : d.host.Puts ⟨d.host.caches.size⟩ c k.host)
    (shared : k.shared = d.shared ∨ k.shared = some ⟨d.host.caches.size⟩) : d.Continues k := by
  have keys := puts.keys_fresh tidy.numbered
  have caches : d.host.caches.keys ⊆ k.host.caches.keys := keys ▸ List.subset_append_left ..
  refine ⟨⟨puts.numbered tidy.numbered, fun id there => ?_⟩, caches⟩
  rcases shared with same | new
  · exact caches (tidy.shared id (same ▸ there))
  · obtain rfl := Option.some.inj (new.symm.trans there)
    simp [keys]

/-- An operation on a given cache is an affair of the host. It makes no caches and leaves all others
as they are, but for what code that is run on the way does to the workspace. -/
theorem apart_use {id : CacheId} (known : id ∈ d.host.caches.keys) (depth : Nat) (op : Operation) :
    ∃ h, (op.run depth (some id)).outcome d =
        (((op.run depth (some id)).outcome d).1, { d with host := h }) ∧
      h.caches.keys = d.host.caches.keys ∧ h.workspace = d.host.workspace ∧
      ∀ g, g ≠ id → h.cache g = d.host.cache g ∨
        d.host.workspace = some g ∧ ∃ m ∈ op.history depth id d.host, m.event.subject.1 = g := by
  have within := Operation.within_on tidy.numbered known depth op
  refine ⟨_, ?_, within.ids, within.workspace, fun g other => ?_⟩
  · rw [Operation.outcome_run]
  · exact Operation.cache_of_other tidy.numbered known other depth op

/-- An operation on a cache that is there adds caches at most. -/
theorem continues_use {id : CacheId} (known : id ∈ d.host.caches.keys) (depth : Nat)
    (op : Operation) : d.Continues ((op.run depth (some id)).outcome d).2 := by
  obtain ⟨h, went, caches, workspace, -⟩ := tidy.apart_use known depth op
  rw [went]
  exact tidy.continues_of_same caches workspace rfl

end Tidy

/-! ### The process-wide cache -/

/-- What an operation on the process-wide cache comes to if there is no such cache: nothing, if none
can be started, or else what it comes to on the cache that is started and put there. -/
inductive FirstUse (depth : Nat) (op : Operation) (d : Deployment) :
    Except Stop Operation.Answer × Deployment → Prop where
  | failed {stop k}
    (starts : Starts Settings.seedPath Settings.registerDefaults d (.error stop, k))
    (absent : k.shared = none) (caches : k.host.caches = d.host.caches) :
    FirstUse depth op d (.error stop, k)
  | built {id k} (starts : Starts Settings.seedPath Settings.registerDefaults d (.ok id, k)) :
    FirstUse depth op d ((op.run depth (some id)).outcome { k with shared := some id })

/-- An operation on the process-wide cache is one on the cache that it gets. -/
theorem outcome_run_of_got {id : CacheId} (got : sharedCache.outcome d = (.ok id, k)) (depth : Nat)
    (op : Operation) : (op.run depth none).outcome d = (op.run depth (some id)).outcome k := by
  rw [Operation.run_none, Run.outcome_bind_of_ok got]

theorem outcome_run_of_some {g : CacheId} (there : d.shared = some g) (depth : Nat)
    (op : Operation) : (op.run depth none).outcome d = (op.run depth (some g)).outcome d :=
  outcome_run_of_got (sharedCache_of_some there) depth op

/-- The first operation on no cache in particular makes the shared cache, or fails to. -/
theorem firstUse (absent : d.shared = none) (depth : Nat) (op : Operation) :
    FirstUse depth op d ((op.run depth none).outcome d) := by
  have starts := starts_startCache Settings.seedPath Settings.registerDefaults d
  rcases start : (startCache Settings.seedPath Settings.registerDefaults).outcome d with
    ⟨stop | id, k⟩
  · rw [start] at starts
    rw [Operation.run_none, Run.outcome_bind_of_error (sharedCache_of_failed absent start)]
    exact .failed starts (starts.reads.shared.trans absent) starts.reads.caches
  · rw [start] at starts
    rw [outcome_run_of_got (sharedCache_of_started absent start)]
    exact .built starts

/-- A step keeps a deployment tidy and loses no cache. -/
theorem continues_next {step : Step} (tidy : d.Tidy) (known : step.Known d) (depth : Nat) :
    d.Continues (step.next depth d) := by
  cases step with
  | use cache op =>
    cases cache with
    | some id => exact tidy.continues_use known depth op
    | none =>
      show d.Continues ((op.run depth none).outcome d).2
      cases there : d.shared with
      | some g =>
        rw [outcome_run_of_some there]
        exact tidy.continues_use (tidy.shared g there) depth op
      | none =>
        have first := firstUse there depth op
        generalize (op.run depth none).outcome d = came at first ⊢
        cases first with
        | failed starts => exact tidy.continues_of_reads starts.reads
        | @built id k starts =>
          obtain ⟨c, rfl, puts, _⟩ := starts.puts
          have started : d.Continues { k with shared := some ⟨d.host.caches.size⟩ } :=
            tidy.continues_of_puts puts (.inr rfl)
          exact started.trans (started.tidy.continues_use (started.tidy.shared _ rfl) depth op)
  | install id =>
    refine ⟨⟨tidy.numbered, fun other there => ?_⟩, List.Subset.refl _⟩
    obtain rfl := Option.some.inj there
    exact known
  | drop => exact ⟨⟨tidy.numbered, fun _ there => by cases there⟩, List.Subset.refl _⟩
  | make context seed => exact tidy.continues_of_puts ⟨d.host.journal, rfl⟩ (.inl rfl)
  | work id =>
    refine ⟨⟨⟨tidy.numbered.below, fun other named => ?_⟩, tidy.shared⟩, List.Subset.refl _⟩
    obtain rfl := Option.some.inj named
    exact known
  | environment values => exact ⟨⟨tidy.numbered, tidy.shared⟩, List.Subset.refl _⟩
  | files tree => exact ⟨⟨tidy.numbered, tidy.shared⟩, List.Subset.refl _⟩
  | settings envFile => exact tidy.continues_of_reads (reads_settingsWith envFile d)
  | reload envFile => exact tidy.continues_of_reads (reads_reloadSettings envFile d)

/-- Steps keep a deployment tidy and lose no cache. -/
theorem continues_after (tidy : d.Tidy) (knowing : Knowing depth d steps) :
    d.Continues (after depth d steps) := by
  induction steps generalizing d with
  | nil => exact tidy.continues_self
  | cons step steps ih =>
    have first := continues_next tidy knowing.1 depth
    exact first.trans (ih first.tidy knowing.2)

end Deployment

end FeatureChoice
