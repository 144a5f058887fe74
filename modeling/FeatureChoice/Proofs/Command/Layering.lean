import FeatureChoice.Command.Run
import FeatureChoice.Proofs.Deployment.Building
import FeatureChoice.Yaml.Data
/-!
The layers of a command's cache. The seed comes first, the default features yield to it, and the
features that are assigned on the command line override both.

* `Cache.Layered`: what a cache of these layers holds, and in which order.
* `outcome_assigning`: assignments are forced on the cache one after the other.
* `buildCache_layers`: the cache of a command is layered in this way, and without assignments and
  switches it is what the process-wide cache would be.
-/

namespace FeatureChoice

/-! ### Layers -/

/-- What an assignment binds. -/
def Command.Assignment.binding (a : Assignment) : String × Bool := (a.name, a.value)

open Command in
/-- A cache of a seed, the default features, if they are wanted, and assignments. -/
structure Cache.Layered (c : Cache) (seed : SeedTruths) (defaults : Bool)
    (assigned : List Assignment) : Prop where
  /-- What counts is the last assignment to a name, or else its seed, or else its default. -/
  found : ∀ name, c.find? (.text name) =
    (((assigned.map Assignment.binding).reverse.lookup name).or
      ((seed.get? name).or
        (if defaults then (defaultFeatures false false).lookup name else none))).map .resolved
  /-- There are no other features. -/
  others : ∀ key, (∀ name, key ≠ .text name) → c.find? key = none
  /-- No probe has yet to run. -/
  settled : ∀ name b, c.isPending name = .ok b → b = false
  /-- The names of the seed come first, then the defaults that are not among them, and then the
  names that are only assigned, in the order of their first assignments. -/
  names : c.names =
    (seed.keys ++
      (if defaults then defaultNames else []).removeAll seed.keys ++
      ((assigned.map Assignment.name).removeAll
        (seed.keys ++ if defaults then defaultNames else [])).eraseDups).map Key.text

theorem eraseDups_of_nodup {l : List String} (distinct : l.Nodup) : l.eraseDups = l := by
  induction l with
  | nil => rfl
  | cons a l ih =>
    obtain ⟨fresh, distinct⟩ := List.nodup_cons.mp distinct
    have kept : l.filter (fun b => !b == a) = l := by
      refine List.filter_eq_self.mpr fun b mem => ?_
      have other : b ≠ a := fun same => fresh (same ▸ mem)
      simpa using other
    rw [List.eraseDups_cons, kept, ih distinct]

open Command in
/-- Assignments forced on what a seed and the default features give are the last layer. -/
theorem Cache.layered_started {seed : SeedTruths} (distinct : seed.keys.Nodup) (defaults : Bool)
    (assigned : List Assignment) :
    ((started seed defaults).offerTruths true (assigned.map Assignment.binding)).Layered seed
      defaults assigned := by
  have found := fun name =>
    find?_forceTruths (started seed defaults) (assigned.map Assignment.binding) name
  simp only [find?_started distinct, ← Option.map_or] at found
  have others : ∀ key, (∀ name, key ≠ .text name) →
      ((started seed defaults).offerTruths true (assigned.map Assignment.binding)).find? key =
        none := by
    intro key other
    rw [find?_offerTruths_of_ne other, find?_started_of_ne other]
  refine ⟨found, others, fun name b pending => ?_, ?_⟩
  · have resolved : ∀ key, (((started seed defaults).offerTruths true
        (assigned.map Assignment.binding)).find? key).any Entry.isPending = false := by
      intro key
      cases key with
      | text name =>
        rw [found, Option.any_map]
        exact Option.any_false
      | truth b => rw [others _ (by simp), Option.any_none]
      | absent => rw [others _ (by simp), Option.any_none]
    unfold isPending at pending
    cases sought : name.sought with
    | error e =>
      rw [sought] at pending
      cases pending
    | ok key? =>
      rw [sought] at pending
      cases pending
      cases key? with
      | none => rfl
      | some key => exact resolved key
  · have lists := (lists_started seed defaults).offerTruths true (assigned.map Assignment.binding)
    have usual : (if defaults then defaultNames else []).Nodup := by
      cases defaults <;> decide
    have yielding : ((if defaults then defaultNames else []).removeAll seed.keys).Nodup :=
      usual.filter _
    rw [Lists, List.map_map, List.eraseDups_append, List.eraseDups_append,
      eraseDups_of_nodup distinct, eraseDups_of_nodup yielding] at lists
    exact lists

/-! ### Building -/

namespace Command

open Deployment

variable {d : Deployment} {id : CacheId} {c : Cache} {h : Host}

/-- The stock of a command with assignments. -/
theorem features_stock (assigned : List Assignment) (seed : Option (Given String))
    (noDefaults : Bool) :
    (Supply.mk (assigned.map .value) seed noDefaults).stock.features =
      assigned.map fun a => .value (.text a.name, .value (.bool a.value)) := by
  simp [Supply.stock]

/-- Assign features of a cache and give it back. -/
def assigning (depth : Nat) (id : CacheId) (features : List (Given (FeatureName × Offer))) :
    Run Deployment CacheId := do
  for given in features do
    match given with
    | .nothing => Run.fail .emptyAssignment
    | .value (name, o) => let _ ← (Host.register depth id name o false true).onHost
  return id

/-- The cache of a command is started, and then features are assigned. -/
theorem buildCache_eq (depth : Nat) (stock : Stock) :
    buildCache depth stock = (do
      let id ← startCache stock.seedPath fun s => s.registerDefaults && stock.defaults
      assigning depth id stock.features) := by
  simp only [startCache, bind_assoc]
  refine bind_congr fun s => ?_
  unfold offersAt
  cases stock.seedPath s with
  | none => rfl
  | some path => rfl

/-- Without assignments and switches a command is given what the settings say. -/
theorem buildCache_none (depth : Nat) :
    buildCache depth Supply.none.stock =
      startCache Settings.seedPath Settings.registerDefaults := by
  have defaults : (fun s : Settings => s.registerDefaults && Supply.none.stock.defaults) =
      Settings.registerDefaults := funext fun s => Bool.and_true _
  rw [buildCache_eq, defaults]
  exact bind_pure _

/-- Features are registered by force, one after the other. -/
theorem assigning_cons (depth : Nat) (id : CacheId) (name : FeatureName) (o : Offer)
    (features : List (Given (FeatureName × Offer))) :
    assigning depth id (.value (name, o) :: features) = (do
      let _ ← (Host.register depth id name o false true).onHost
      assigning depth id features) := by
  simp only [assigning, List.forIn_cons, bind_assoc, pure_bind]

/-- Assignments are forced on a cache one after the other. -/
theorem outcome_assigning (depth : Nat) (assigned : List Assignment)
    (puts : d.host.Puts id c h) :
    ∃ k, (assigning depth id
        (assigned.map fun a => .value (.text a.name, .value (.bool a.value)))).outcome
          { d with host := h } = (.ok id, { d with host := k }) ∧
      d.host.Puts id (c.offerTruths true (assigned.map Assignment.binding)) k := by
  induction assigned generalizing c h with
  | nil => exact ⟨h, rfl, puts⟩
  | cons a assigned ih =>
    have named : (FeatureName.text a.name).key = .ok (.text a.name) := rfl
    obtain ⟨k, entered, changed⟩ := Host.puts_enter named h id (.value (.bool a.value)) true
    rw [puts.cache_self] at changed
    have registered : (Host.register depth id (.text a.name) (.value (.bool a.value)) false
        true).outcome h = (.ok none, k) := Run.outcome_bind_of_ok entered _
    obtain ⟨l, rest, left⟩ := ih (puts.trans changed)
    refine ⟨l, ?_, left⟩
    have assigns : ((Host.register depth id (.text a.name) (.value (.bool a.value)) false
        true).onHost : Run Deployment (Option Bool)).outcome { d with host := h } =
          (.ok none, { d with host := k }) := by
      rw [Run.outcome_onHost]
      simp only [Hosted.host, registered]
      rfl
    rw [List.map_cons, assigning_cons, Run.outcome_bind_of_ok assigns, rest]

/-- Whatever the seed file, the settings, the switches and the assignments are: the cache of a
command is layered by them, and if the seed cannot be loaded there is none. Without assignments and
switches it knows the same as a process-wide cache that is built from the same configuration, or
there is none for the same reason. -/
theorem buildCache_layers (depth : Nat) (assigned : List Assignment)
    (seed : Option (Given String)) (noDefaults : Bool) (d : Deployment) :
    let stock := (Supply.mk (assigned.map .value) seed noDefaults).stock
    (∀ s d₁ truths, currentSettings.outcome d = (.ok s, d₁) →
      d₁.seedAt (stock.seedPath s) = .ok truths →
      ∃ id d₂, (buildCache depth stock).outcome d = (.ok id, d₂) ∧
        (d₂.host.cache id).Layered truths (s.registerDefaults && !noDefaults) assigned) ∧
    (∀ s d₁ f, currentSettings.outcome d = (.ok s, d₁) →
      d₁.seedAt (stock.seedPath s) = .error f →
      (buildCache depth stock).outcome d = (.error (.fault f), d₁)) ∧
    ∀ d', d.SameConfiguration d' → d'.shared = none →
      snapshotOf ((buildCache depth Supply.none.stock).outcome d) =
        snapshotOf (sharedCache.outcome d') := by
  intro stock
  have built := buildCache_eq depth stock
  have features := features_stock assigned seed noDefaults
  refine ⟨?_, ?_, ?_⟩
  · intro s d₁ truths read loaded
    have distinct : truths.keys.Nodup := by
      cases path : stock.seedPath s with
      | none =>
        rw [path] at loaded
        cases loaded
        exact List.nodup_nil
      | some path' =>
        rw [path] at loaded
        exact Seed.nodup_keys_ofFile loaded
    obtain ⟨h, started, puts⟩ :=
      startCache_of_seeded (fun s => s.registerDefaults && stock.defaults) read loaded
    obtain ⟨k, assigns, left⟩ := outcome_assigning depth assigned puts
    refine ⟨⟨d₁.host.caches.size⟩, { d₁ with host := k }, ?_, ?_⟩
    · rw [built, Run.outcome_bind_of_ok started, features, assigns]
    · rw [left.cache_self]
      exact Cache.layered_started distinct _ assigned
  · intro s d₁ f read bad
    rw [built, Run.outcome_bind_of_error (startCache_of_unseeded _ read bad)]
  · intro d' same absent
    rw [buildCache_none, snapshotOf_startCache _ _ same, snapshotOf_sharedCache absent]

/-- A process whose settings name a seed file. -/
def seededDeployment : Deployment :=
  let bytes := "dom: false\n".toList.map fun c => UInt8.ofNat c.toNat
  .start Yaml.load ⟨⟨[(["seed.yaml"], .file bytes)]⟩⟩ ⟨[("HASCOND_SEED_FILE", "seed.yaml")]⟩ ""

theorem eq_ok_of_toOption {ε α : Type} {x : Except ε α} {a : α} (found : x.toOption = some a) :
    x = .ok a := by
  cases x with
  | error e => cases found
  | ok b => exact congrArg Except.ok (Option.some.inj found)

/-- Assignments count over the seed, and the seed counts over the default features. -/
theorem buildCache_layers_overridden :
    let assigned : List Assignment := [⟨"dom", true⟩, ⟨"canvas", false⟩]
    let stock := (Supply.mk (assigned.map .value) none false).stock
    (∃ id d, (buildCache 0 stock).outcome seededDeployment = (.ok id, d) ∧
      (d.host.cache id).Layered ⟨[("dom", false)]⟩ true assigned) ∧
    snapshotOf ((buildCache 0 Supply.none.stock).outcome seededDeployment) =
      snapshotOf (sharedCache.outcome seededDeployment) := by
  intro assigned stock
  let s : Settings := ⟨"INFO", "", "seed.yaml", true, false⟩
  let d₁ := (currentSettings.outcome seededDeployment).2
  have settings : (currentSettings.outcome seededDeployment).1 = .ok s :=
    eq_ok_of_toOption (by decide +kernel)
  have seed : d₁.seedAt (stock.seedPath s) = .ok ⟨[("dom", false)]⟩ :=
    eq_ok_of_toOption (by decide +kernel)
  obtain ⟨layers, _, agrees⟩ := buildCache_layers 0 assigned none false seededDeployment
  exact ⟨layers s d₁ _ (Prod.ext settings rfl) seed, agrees _ ⟨rfl, rfl, rfl, rfl⟩ rfl⟩

end Command

end FeatureChoice
