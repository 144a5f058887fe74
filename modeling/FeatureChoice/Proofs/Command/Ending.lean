import FeatureChoice.Proofs.Command.Layering
import FeatureChoice.Proofs.Deployment.Operation
import FeatureChoice.Proofs.Seed.Loading
/-!
How commands end. The cache of a command has no pending probes and names that are texts, so every
task on it comes to its end. What can go wrong before is the seed: an error of the seed is printed,
and a fault of another kind ends the run.

* `Run.EndsOn`: runs that end wherever a host has a certain cache, and leave it as it is.
* `Command.endsOn_run`: every task ends on a cache like that of a command.
* `Command.perform_by_seed`: what comes of a command, by what comes of its seed file.
-/

namespace FeatureChoice

variable {σ α β : Type} [Hosted σ] {id : CacheId} {c : Cache}

/-! ### Runs that end -/

/-- Wherever a host has this cache, the run ends and leaves the cache as it is. -/
def Run.EndsOn (id : CacheId) (c : Cache) (x : Run σ α) : Prop :=
  ∀ s, (Hosted.host s).cache id = c →
    ∃ a s', x.outcome s = (.ok a, s') ∧ (Hosted.host s').cache id = c

namespace Run.EndsOn

theorem pure (a : α) : EndsOn id c (Pure.pure a : Run σ α) := fun s there => ⟨a, s, rfl, there⟩

theorem bind {x : Run σ α} {next : α → Run σ β} (first : EndsOn id c x)
    (rest : ∀ a, EndsOn id c (next a)) : EndsOn id c (x >>= next) := by
  intro s there
  obtain ⟨a, s', went, kept⟩ := first s there
  obtain ⟨b, s'', goesOn, left⟩ := rest a s' kept
  exact ⟨b, s'', (Run.outcome_bind_of_ok went _).trans goesOn, left⟩

theorem onHost [LawfulHosted σ] {x : Run Host α} (ends : EndsOn id c x) :
    EndsOn id c (x.onHost : Run σ α) := by
  intro s there
  obtain ⟨a, h, went, kept⟩ := ends (Hosted.host s) there
  refine ⟨a, Hosted.withHost h s, by rw [outcome_onHost, went], ?_⟩
  rw [LawfulHosted.host_withHost]
  exact kept

theorem change {f : Host → Host} (keeps : ∀ h, (f h).cache = h.cache) :
    EndsOn id c (Host.change f) := by
  intro h there
  exact ⟨(), f h, rfl, (congrFun (keeps h) id).trans there⟩

/-- What is done next may depend on the state, as long as it ends in every state with this cache. -/
theorem get {next : σ → Run σ β}
    (rest : ∀ s, (Hosted.host s).cache id = c → EndsOn id c (next s)) :
    EndsOn id c (MonadState.get >>= next) := by
  intro s there
  rw [Run.outcome_bind_of_ok (Run.outcome_get s)]
  exact rest s there s there

theorem forIn {f : α → Unit → Run σ (ForInStep Unit)} (ends : ∀ a, EndsOn id c (f a ()))
    (l : List α) : EndsOn id c (ForIn.forIn l () f) := by
  induction l with
  | nil => exact .pure ()
  | cons a l ih =>
    rw [List.forIn_cons]
    refine (ends a).bind fun step => ?_
    cases step with
    | done u => exact .pure u
    | yield u => exact ih

/-- A way down a tree ends if all guards on it answer. -/
theorem descend {ask : String → Run σ Bool} (asked : ∀ feature, EndsOn id c (ask feature))
    (t : Expression.Term) : EndsOn id c (t.descend ask) := by
  induction t with
  | leaf name => exact .pure _
  | guarded feature t u iht ihu =>
    refine (asked feature).bind fun b => ?_
    cases b with
    | false => exact ihu.bind fun _ => .pure _
    | true => exact iht.bind fun _ => .pure _

theorem explanation {ask : String → Run σ Bool} (asked : ∀ feature, EndsOn id c (ask feature))
    (t : Expression.Term) : EndsOn id c (Explanation.of ask t) := by
  induction t with
  | leaf name => exact .pure _
  | guarded feature t u iht ihu =>
    rw [Explanation.of_guarded]
    refine (asked feature).bind fun b => ?_
    cases b with
    | false => exact ihu.bind fun _ => .pure _
    | true => exact iht.bind fun _ => .pure _

end Run.EndsOn

variable (settled : ∀ name b, c.isPending name = .ok b → b = false)

include settled in
/-- A query of a cache without pending probes only looks. -/
theorem Host.endsOn_query (depth : Nat) {name : FeatureName} {key : Key}
    (named : name.key? = some key) : Run.EndsOn id c (query depth id name) := by
  intro h there
  have here : h.cache id = c := there
  match found : (h.cache id).find? key with
  | none => exact ⟨_, h, query_of_missing named found depth, there⟩
  | some (.resolved b) => exact ⟨_, h, query_of_resolved named found depth, there⟩
  | some (.pending p) =>
    -- this is the one case in which code of the host could stop the run
    rw [here] at found
    have pending : c.isPending name = .ok true := by
      rw [Cache.isPending, name.sought_of_key? named]
      simp [Except.map, found, Entry.isPending]
    exact absurd (settled name true pending) (by decide)

theorem Host.endsOn_trace [LawfulHosted σ] (row : Log.Row) :
    Run.EndsOn id c ((change (·.trace row)).onHost : Run σ Unit) :=
  (Run.EndsOn.change fun h => funext (h.cache_trace row)).onHost

/-- So the evaluation of an expression ends. -/
theorem endsOn_selectBy [LawfulHosted σ] {ask : FeatureName → Run σ Bool}
    (asked : ∀ feature : String, Run.EndsOn id c (ask (.text feature))) (expression : String) :
    Run.EndsOn id c (selectBy ask expression) := by
  have traced : ∀ feature, Run.EndsOn id c (tracedAsk ask expression feature) := fun feature =>
    (asked _).bind fun _ => (Host.endsOn_trace _).bind fun _ => .pure _
  rw [selectBy_eq_descend]
  exact (Run.EndsOn.descend traced _).bind fun _ => (Host.endsOn_trace _).bind fun _ => .pure _

namespace Command

open Deployment

/-! ### Tasks -/

include settled in
/-- Resolving an expression ends on a cache like that of a command. -/
theorem endsOn_resolve (depth : Nat) (expression : String) :
    Run.EndsOn id c (resolve depth (some id) expression (fun _ => pure ()) (pure ()) :
      Run Deployment Selection) := by
  have asked : ∀ feature : String, Run.EndsOn id c
      ((Host.accessFrom depth : Access Deployment).ask id (.text feature)) :=
    fun feature => (Host.endsOn_query settled depth rfl).onHost
  refine (endsOn_selectBy asked expression).bind fun s => ?_
  refine (Run.EndsOn.change fun h => funext (h.cache_log _)).onHost.bind fun _ => ?_
  cases s.identifier <;> exact .pure _

include settled in
theorem endsOn_explain (depth : Nat) (expression : String) :
    Run.EndsOn id c (explain depth id expression) :=
  .explanation (fun _ => Host.endsOn_query settled depth rfl) _

/-- Entries whose keys are texts can be sorted. -/
theorem exists_sortedEntries {α : Type} {entries : List (Key × α)}
    (texts : ∀ e ∈ entries, ∃ name, e.1 = .text name) :
    ∃ sorted, sortedEntries entries = .ok sorted := by
  cases entries with
  | nil => exact ⟨[], rfl⟩
  | cons first rest =>
    obtain ⟨name, named⟩ := texts first List.mem_cons_self
    obtain ⟨key, a⟩ := first
    cases named
    have alike : rest.find? (fun e => e.1.kindName ≠ (Key.text name).kindName) = none := by
      refine List.find?_eq_none.mpr fun e mem => ?_
      have kind := kindName_eq_str_iff.mpr (texts e (List.mem_cons_of_mem _ mem))
      simp [kind, kindName_eq_str_iff.mpr ⟨name, rfl⟩]
    exact ⟨_, by rw [sortedEntries, alike]⟩

/-- The features of a cache whose names are texts can be shown in a table. -/
theorem exists_featureTable (texts : ∀ key ∈ c.names, ∃ name, key = .text name) :
    ∃ t, featureTable c.snapshot = .ok t := by
  have entries : ∀ e ∈ c.snapshot.entries, ∃ name, e.1 = .text name := by
    intro e mem
    refine texts e.1 ?_
    rw [Cache.names, ← OrderedMap.keys_mapValues Entry.result?]
    exact List.mem_map_of_mem mem
  obtain ⟨sorted, went⟩ := exists_sortedEntries entries
  exact ⟨_, by rw [featureTable, went]; rfl⟩

include settled in
/-- Every task on a cache without pending probes whose names are texts comes to its end. -/
theorem endsOn_run (texts : ∀ key ∈ c.names, ∃ name, key = .text name) (depth : Nat)
    (task : Task) : Run.EndsOn id c (task.run depth id) := by
  cases task with
  | resolve expression json => exact (endsOn_resolve settled depth expression).bind fun _ => .pure _
  | explain expression =>
    exact (endsOn_explain settled depth expression).onHost.bind fun _ => .pure _
  | features evaluate =>
    have shown : Run.EndsOn id c (Task.run depth id (.features false)) := by
      refine .get fun d there => ?_
      obtain ⟨t, made⟩ := exists_featureTable texts
      have here : d.host.cache id = c := there
      rw [here, made]
      exact .pure _
    cases evaluate with
    | false => exact shown
    | true =>
      -- the queries leave the cache as it is, so the table is the one without them
      refine .get fun d _ => ?_
      refine .bind ?_ fun _ => shown
      have asked : ∀ key : Key, Run.EndsOn id c
          ((Host.query depth id key.toName).onHost : Run Deployment Bool) :=
        fun key => (Host.endsOn_query settled depth
          (FeatureName.key?_eq_some_iff.mpr key.key_toName)).onHost
      exact .forIn (fun key => (asked key).bind fun _ => .pure _) _

/-! ### Commands -/

/-- All features of the cache of a command have texts for names. -/
theorem names_of_layered {truths : SeedTruths} {defaults : Bool} {assigned : List Assignment}
    (layered : c.Layered truths defaults assigned) : ∀ key ∈ c.names, ∃ name, key = .text name := by
  intro key mem
  rw [layered.names] at mem
  obtain ⟨name, -, same⟩ := List.mem_map.mp mem
  exact ⟨name, same.symm⟩

/-- No feature comes twice in a seed. -/
theorem nodup_keys_seedAt {d : Deployment} {path : Option Files.Path} {truths : SeedTruths}
    (loaded : d.seedAt path = .ok truths) : truths.keys.Nodup := by
  cases path with
  | none =>
    cases loaded
    exact List.nodup_nil
  | some path => exact Seed.nodup_keys_ofFile loaded

theorem orBadSeed_of_ok {α : Type} {x : Run Deployment α} {d d' : Deployment} {a : α}
    (went : x.outcome d = (.ok a, d')) : (orBadSeed x).outcome d = (.ok (.ok a), d') := by
  have same : x d = (.ok a, d') := went
  simp only [Run.outcome, orBadSeed, same]

/-- A fault of another kind goes through. -/
theorem orBadSeed_of_fault {α : Type} {x : Run Deployment α} {d d' : Deployment} {f : Fault}
    (other : ∀ e, f ≠ .seed e) (went : x.outcome d = (.error (.fault f), d')) :
    (orBadSeed x).outcome d = (.error (.fault f), d') := by
  have same : x d = (.error (.fault f), d') := went
  simp only [Run.outcome, orBadSeed, same]
  cases f with
  | seed e => exact absurd rfl (other e)
  | _ => rfl

section Performing

variable {d d₁ : Deployment} {s : Settings} (read : currentSettings.outcome d = (.ok s, d₁))

include read

/-- With a seed a command does its task. -/
theorem perform_of_seeded (depth : Nat) (task : Task) {stock : Stock} {assigned : List Assignment}
    (features : stock.features =
      assigned.map fun a => .value (.text a.name, .value (.bool a.value)))
    {truths : SeedTruths} (loaded : d₁.seedAt (stock.seedPath s) = .ok truths) :
    ∃ lines d₂, (perform depth task stock).outcome d = (.ok ⟨0, lines⟩, d₂) := by
  obtain ⟨h, started, puts⟩ :=
    startCache_of_seeded (fun s => s.registerDefaults && stock.defaults) read loaded
  obtain ⟨k, assigns, left⟩ := outcome_assigning depth assigned puts
  have built : (buildCache depth stock).outcome d =
      (.ok ⟨d₁.host.caches.size⟩, { d₁ with host := k }) := by
    rw [buildCache_eq, Run.outcome_bind_of_ok started, features, assigns]
  have layered := Cache.layered_started (nodup_keys_seedAt loaded)
    (s.registerDefaults && stock.defaults) assigned
  obtain ⟨lines, d₂, ran, -⟩ := endsOn_run layered.settled (names_of_layered layered) depth task
    { d₁ with host := k } left.cache_self
  refine ⟨lines, d₂, ?_⟩
  rw [perform, Run.outcome_bind_of_ok (orBadSeed_of_ok built), Run.outcome_bind_of_ok ran]
  rfl

/-- A command does nothing after a bad seed: an error of the seed is printed, and any other fault
ends the run. -/
theorem perform_of_unseeded (depth : Nat) (task : Task) {stock : Stock} {f : Fault}
    (bad : d₁.seedAt (stock.seedPath s) = .error f) :
    (perform depth task stock).outcome d =
      match f with
      | .seed e => (.ok ⟨1, textLines (errorText e)⟩, d₁)
      | f => (.error (.fault f), d₁) := by
  have unbuilt : (buildCache depth stock).outcome d = (.error (.fault f), d₁) := by
    rw [buildCache_eq, Run.outcome_bind_of_error (startCache_of_unseeded _ read bad)]
  cases f with
  | seed e => exact perform_of_badSeed unbuilt
  | _ =>
    rw [perform, Run.outcome_bind_of_error (orBadSeed_of_fault (fun e => by simp) unbuilt)]

/-- Whatever loader reads the documents, this comes of a command by what comes of its seed file.
With a seed, or without a seed file, it does its task and ends well. An error of the seed is printed
and nothing else is done. Any other fault of the seed file ends the run before anything is done or
printed. -/
theorem perform_by_seed (depth : Nat) (task : Task) (assigned : List Assignment)
    (seed : Option (Given String)) (noDefaults : Bool) :
    let stock := (Supply.mk (assigned.map .value) seed noDefaults).stock
    let ran := (perform depth task stock).outcome d
    let endsWell := ∃ lines d₂, ran = (.ok ⟨0, lines⟩, d₂)
    match stock.seedPath s with
    | none => endsWell
    | some path =>
      (∃ truths, Seed.ofFile d₁.loader d₁.files path = .ok truths) ∧ endsWell ∨
      (∃ cause, Seed.ofFile d₁.loader d₁.files path = .error (.seed ⟨path.toText, cause⟩) ∧
        ran = (.ok ⟨1, textLines (errorText ⟨path.toText, cause⟩)⟩, d₁)) ∨
      ∃ f, Seed.Escapes d₁.loader d₁.files path f ∧ ran = (.error (.fault f), d₁) := by
  intro stock ran endsWell
  have withSeed : ∀ truths, d₁.seedAt (stock.seedPath s) = .ok truths → endsWell :=
    fun _ => perform_of_seeded read depth task (features_stock assigned seed noDefaults)
  have withoutSeed := fun f (bad : d₁.seedAt (stock.seedPath s) = .error f) =>
    perform_of_unseeded read depth task bad
  cases named : stock.seedPath s with
  | none => exact withSeed .empty (by rw [named]; rfl)
  | some path =>
    simp only [named, seedAt] at withSeed withoutSeed
    rcases Seed.ofFile_cases d₁.loader d₁.files path with
      ⟨truths, loaded⟩ | ⟨cause, bad⟩ | ⟨f, escapes⟩
    · exact .inl ⟨⟨truths, loaded⟩, withSeed truths loaded⟩
    · exact .inr (.inl ⟨cause, bad, withoutSeed _ bad⟩)
    · refine .inr (.inr ⟨f, escapes, ?_⟩)
      have ended := withoutSeed f escapes.ofFile.1
      cases f with
      | seed e => exact absurd rfl (escapes.ofFile.2 e)
      | _ => exact ended

end Performing

/-- A process whose seed file holds a byte that begins no character. -/
def undecodableDeployment : Deployment :=
  .start Yaml.load ⟨⟨[(["seed.yaml"], .file [97, 58, 32, 255, 10])]⟩⟩
    ⟨[("HASCOND_SEED_FILE", "seed.yaml")]⟩ ""

/-- A byte that begins no character ends the command, and nothing is printed. -/
theorem perform_by_seed_undecodable :
    let s : Settings := ⟨"INFO", "", "seed.yaml", true, false⟩
    let d₁ := (currentSettings.outcome undecodableDeployment).2
    currentSettings.outcome undecodableDeployment = (.ok s, d₁) ∧
      (perform 0 (.features false) (Supply.mk [] none false).stock).outcome undecodableDeployment =
        (.error (.fault (.encoding ⟨.startByte, 255, 3, 4⟩)), d₁) := by
  intro s d₁
  have settings : (currentSettings.outcome undecodableDeployment).1 = .ok s :=
    eq_ok_of_toOption (by decide +kernel)
  have read : currentSettings.outcome undecodableDeployment = (.ok s, d₁) := Prod.ext settings rfl
  have named : (Supply.mk [] none false).stock.seedPath s = some ⟨"", ["seed.yaml"]⟩ := by
    decide +kernel
  have there : d₁.files.read ⟨"", ["seed.yaml"]⟩ = .ok [97, 58, 32, 255, 10] :=
    eq_ok_of_toOption (by decide +kernel)
  clear_value s d₁
  have refused : Seed.Escapes d₁.loader d₁.files ⟨"", ["seed.yaml"]⟩
      (.encoding ⟨.startByte, 255, 3, 4⟩) := .encoding there rfl
  have failed := refused.ofFile.1
  refine ⟨read, ?_⟩
  have ends := perform_by_seed read 0 (.features false) [] none false
  simp only [List.map_nil, named] at ends
  rcases ends with ⟨⟨truths, loaded⟩, -⟩ | ⟨cause, bad, -⟩ | ⟨f, escapes, ended⟩
  · rw [failed] at loaded
    cases loaded
  · rw [failed] at bad
    cases bad
  · have same := escapes.ofFile.1
    rw [failed] at same
    cases same
    exact ended

/-- So a bad seed file is not always reported as such: its bytes may be no text. -/
theorem not_always_reported :
    ¬ ∀ (files : Files.Tree) (path : Files.Path),
      (∃ truths, Seed.ofFile Yaml.load files path = .ok truths) ∨
        ∃ e, Seed.ofFile Yaml.load files path = .error (.seed e) := by
  intro reported
  have there : undecodableDeployment.files.read ⟨"", ["seed.yaml"]⟩ = .ok [97, 58, 32, 255, 10] :=
    eq_ok_of_toOption (by decide +kernel)
  have refused : Seed.Escapes Yaml.load undecodableDeployment.files ⟨"", ["seed.yaml"]⟩
      (.encoding ⟨.startByte, 255, 3, 4⟩) := .encoding there rfl
  have failed := refused.ofFile.1
  rcases reported undecodableDeployment.files ⟨"", ["seed.yaml"]⟩ with ⟨truths, loaded⟩ | ⟨e, bad⟩
  · rw [failed] at loaded
    cases loaded
  · rw [failed] at bad
    cases bad

end Command

end FeatureChoice
