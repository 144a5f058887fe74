import FeatureChoice.Proofs.Deployment.Steps
import FeatureChoice.Proofs.Number.DigitLimit
/-!
What a bootstrap makes. A host whose own cache reports the feature API keeps that cache. Any other
host gets a new one, with what its seed gives, and after that those of the default features that the
seed does not give. Nothing else happens, but for the one query that finds out.

* `Seed.ofMapping_cases`: a seed is what a mapping of the host offers, under normalised names.
* `Cache.entries_yieldTruths`, `Cache.entries_sow`: offers that yield come after what is there, and
  what a new cache starts with.
* `Host.outcome_registerDefaults`: what registering the default features does to any cache.
* `bootstrap_contents`: the outcome of every bootstrap.
-/

namespace FeatureChoice

/-! ### Seeds -/

namespace Seed

/-- Pairs with the keys of their names, or a name without a key. -/
theorem mapM_key_cases (pairs : List (FeatureName × Offer)) :
    (∃ keys : List (Key × Offer),
      (pairs.mapM fun (name, o) => return (← name.key, o) : Except NoKey _) = .ok keys ∧
        keys.map (fun b => (b.1.toName, b.2)) = pairs.map fun b => (b.1.normalize, b.2)) ∨
      ∃ pair ∈ pairs, ∃ e, pair.1.key = .error e ∧
        (pairs.mapM fun (name, o) => return (← name.key, o) : Except NoKey _) = .error e := by
  induction pairs with
  | nil => exact .inl ⟨[], rfl, rfl⟩
  | cons head rest ih =>
    obtain ⟨name, o⟩ := head
    cases named : name.key with
    | error e =>
      refine .inr ⟨_, List.mem_cons_self, e, named, ?_⟩
      rw [List.mapM_cons]
      simp [named, bind, Except.bind]
    | ok key =>
      rcases ih with ⟨keys, read, same⟩ | ⟨pair, mem, e, unnamed, failed⟩
      · refine .inl ⟨(key, o) :: keys, ?_, ?_⟩
        · rw [List.mapM_cons, read]
          simp [named, bind, Except.bind, pure, Except.pure]
        · have normal :=
            (name.normalize_eq_toName_iff key).mpr (FeatureName.key?_eq_some_iff.mpr named)
          rw [List.map_cons, List.map_cons, same, normal]
      · refine .inr ⟨pair, List.mem_cons_of_mem _ mem, e, unnamed, ?_⟩
        rw [List.mapM_cons, failed]
        simp [named, bind, Except.bind, pure, Except.pure]

/-- What a mapping offers. -/
def offered (seed : List (FeatureName × Offer)) : List (FeatureName × Offer) :=
  seed.filter fun pair => !pair.2.isNothing

/-- A cache takes what a mapping offers under normalised names, unless one of them has no key. -/
theorem ofMapping_cases (seed : List (FeatureName × Offer)) :
    (∃ keys, ofMapping seed = .ok keys ∧
      keys.map (fun b => (b.1.toName, b.2)) = (offered seed).map fun b => (b.1.normalize, b.2)) ∨
      ∃ pair ∈ offered seed, ∃ e, pair.1.key = .error e ∧ ofMapping seed = .error e :=
  mapM_key_cases (offered seed)

/-- What a seed gives: its offers but for those of nothing, as entries. -/
def given (seed : List (Key × Offer)) : List (Key × Entry) :=
  (seed.filter fun b => !b.2.isNothing).map fun b => (b.1, .ofOffer b.2)

end Seed

/-! ### What yields -/

/-- The truths whose names are none of these keys, as entries. -/
def lacking (keys : List Key) (truths : List (String × Bool)) : List (Key × Entry) :=
  (truths.filter fun t => .text t.1 ∉ keys).map fun t => (.text t.1, .resolved t.2)

/-- Which features are lacking depends on what is there of them alone. -/
theorem lacking_congr {keys keys' : List Key} {truths : List (String × Bool)}
    (same : ∀ t ∈ truths, Key.text t.1 ∈ keys ↔ Key.text t.1 ∈ keys') :
    lacking keys truths = lacking keys' truths := by
  unfold lacking
  congr 1
  apply List.filter_congr
  intro t mem
  simp only [same t mem]

namespace Cache

variable {c : Cache} {truths : List (String × Bool)}

/-- A truth is not registered over what is there. -/
theorem offer_truth_of_present {key : Key} (present : key ∈ c.names) (b : Bool) :
    c.offer key (.value (.bool b)) false = c := by
  have there : c.entries.contains key = true := (c.entries.mem_keys_iff key).mp present
  simp [offer, there]

/-- An offer for a new feature puts its entry, if it is one. -/
theorem offer_of_fresh {key : Key} (fresh : key ∉ c.names) (o : Offer) :
    c.offer key o false = if o.isNothing then c else c.store key (.ofOffer o) := by
  have away : c.entries.contains key = false := by
    rw [← Bool.not_eq_true, ← c.entries.mem_keys_iff key]
    exact fresh
  have unchanged : c.remove key = c := by
    have others : ∀ b ∈ c.entries.entries, decide (b.1 ≠ key) = true := by
      intro b mem
      apply decide_eq_true
      rintro rfl
      exact fresh (List.mem_map.mpr ⟨b, mem, rfl⟩)
    rw [remove, OrderedMap.erase, List.filter_eq_self.mpr others]
  rw [offer, away, unchanged]
  rfl

/-- Truths that yield come after what is there, which stays as it is. -/
theorem entries_yieldTruths (c : Cache) (distinct : (truths.map Prod.fst).Nodup) :
    (c.offerTruths false truths).entries.entries = c.entries.entries ++ lacking c.names truths := by
  induction truths generalizing c with
  | nil => simp [offerTruths, lacking]
  | cons t truths ih =>
    obtain ⟨name, b⟩ := t
    obtain ⟨fresh, distinct⟩ := List.nodup_cons.mp distinct
    rw [offerTruths, List.foldl_cons, ← offerTruths]
    by_cases present : Key.text name ∈ c.names
    · rw [offer_truth_of_present present, ih c distinct]
      simp [lacking, present]
    · -- the name does not come again
      have others : lacking (c.store (.text name) (.resolved b)).names truths =
          lacking c.names truths := by
        apply lacking_congr
        intro t mem
        have other : t.1 ≠ name := fun same => fresh (List.mem_map.mpr ⟨t, mem, same⟩)
        rw [names_store, if_neg present]
        simp [other]
      have first : c.offer (.text name) (.value (.bool b)) false =
          c.store (.text name) (.resolved b) := offer_of_fresh present _
      rw [first, ih _ distinct, others]
      simp [store, OrderedMap.entries_insert_of_fresh present, lacking, present]

/-- Truths that yield to what is there change nothing when all of them are there. -/
theorem yieldTruths_of_present (present : ∀ t ∈ truths, Key.text t.1 ∈ c.names) :
    c.offerTruths false truths = c := by
  induction truths with
  | nil => rfl
  | cons t truths ih =>
    rw [offerTruths, List.foldl_cons, ← offerTruths,
      offer_truth_of_present (present t List.mem_cons_self)]
    exact ih fun other mem => present other (List.mem_cons_of_mem _ mem)

/-- After truths that yield all of them are there. -/
theorem mem_names_yieldTruths (c : Cache) (distinct : (truths.map Prod.fst).Nodup)
    {t : String × Bool} (mem : t ∈ truths) :
    Key.text t.1 ∈ (c.offerTruths false truths).names := by
  rw [names, OrderedMap.keys, entries_yieldTruths c distinct, List.map_append, List.mem_append]
  by_cases present : Key.text t.1 ∈ c.names
  · exact .inl present
  · apply Or.inr
    refine List.mem_map.mpr ⟨(.text t.1, .resolved t.2), ?_, rfl⟩
    exact List.mem_map.mpr ⟨t, List.mem_filter.mpr ⟨mem, decide_eq_true present⟩, rfl⟩

/-- Sowing inserts what the seed gives, one after the other. -/
theorem entries_sow (c : Cache) (seed : List (Key × Offer)) :
    (c.sow seed).entries =
      (Seed.given seed).foldl (fun m binding => m.insert binding.1 binding.2) c.entries := by
  induction seed generalizing c with
  | nil => rfl
  | cons b seed ih =>
    obtain ⟨key, o⟩ := b
    rw [sow, ih]
    cases nothing : o.isNothing <;> simp [Seed.given, nothing, store]

/-- A new cache starts with what its seed gives. -/
theorem entries_sow_new (context : Context) (seed : List (Key × Offer)) :
    ((new context).sow seed).entries = .ofList (Seed.given seed) :=
  entries_sow _ seed

end Cache

/-! ### Hosts -/

/-- No default feature is listed twice. -/
theorem nodup_defaultFeatures (hasDocument takesListeners : Bool) :
    ((defaultFeatures hasDocument takesListeners).map Prod.fst).Nodup := by
  rw [map_fst_defaultFeatures]
  decide

namespace Host

variable {id : CacheId} {c : Cache} {h k : Host}

theorem setCache_cache (known : id ∈ h.caches.keys) : h.setCache id (h.cache id) = h := by
  obtain ⟨c, bound⟩ := Option.isSome_iff_exists.mp ((h.caches.mem_keys_iff id).mp known)
  have same : h.cache id = c := by simp [cache, bound]
  rw [setCache, same, OrderedMap.insert_of_get? bound]

theorem Puts.known (puts : h.Puts id c k) : id ∈ k.caches.keys := by
  obtain ⟨journal, rfl⟩ := puts
  apply (OrderedMap.mem_keys_iff ..).mpr
  simp [setCache, OrderedMap.contains]

theorem puts_cache (known : id ∈ h.caches.keys) : h.Puts id (h.cache id) h :=
  ⟨h.journal, by rw [setCache_cache known]⟩

theorem context_stocked (h : Host) (context : Context) (seed : List (Key × Offer))
    (defaults : Bool) : (h.stocked context seed defaults).context = context := by
  cases defaults <;> simp [stocked, Cache.new]

/-- The features that a new cache starts with. -/
theorem entries_stocked (h : Host) (context : Context) (seed : List (Key × Offer))
    (defaults : Bool) :
    (h.stocked context seed defaults).entries.entries =
      (OrderedMap.ofList (Seed.given seed)).entries ++
        if defaults then
          lacking ((Seed.given seed).map Prod.fst)
            (defaultFeatures context.document.isSome (h.takesListeners context))
        else [] := by
  cases defaults with
  | false => simp [stocked, Cache.entries_sow_new]
  | true =>
    have names : ((Cache.new context).sow seed).names =
        ((Seed.given seed).map Prod.fst).eraseDups := by
      rw [Cache.names, Cache.entries_sow_new, OrderedMap.keys_ofList]
    simp only [stocked, if_true]
    rw [Cache.entries_yieldTruths _ (nodup_defaultFeatures _ _), Cache.entries_sow_new, names]
    congr 1
    apply lacking_congr
    intro t _
    exact List.mem_eraseDups

/-- Registering the default features adds those that are not there. Doing it again does nothing. -/
theorem outcome_registerDefaults (known : id ∈ h.caches.keys) :
    ∃ c k journal, (registerDefaults id).outcome h = (.ok (), k) ∧ h.Puts id c k ∧
      c.context = (h.cache id).context ∧
      c.entries.entries =
        (h.cache id).entries.entries ++ lacking (h.cache id).names (h.defaultsOf id) ∧
      (registerDefaults id).outcome k = (.ok (), { k with journal := journal }) := by
  let defaults := h.defaultsOf id
  let c := (h.cache id).offerTruths false defaults
  have distinct : (defaults.map Prod.fst).Nodup := nodup_defaultFeatures _ _
  have context : c.context = (h.cache id).context := Cache.context_offerTruths ..
  obtain ⟨k, first, puts⟩ := puts_registerDefaults (puts_cache known)
  obtain ⟨l, second, again⟩ := puts_registerDefaults (puts_cache puts.known)
  -- the second time there is nothing that is not there
  have unchanged : (k.cache id).offerTruths false (k.defaultsOf id) = k.cache id := by
    have same : k.defaultsOf id = defaults := by
      obtain ⟨journal, rfl⟩ := puts
      exact (defaultsOf_setCache h id c).trans (by rw [context]; rfl)
    rw [same, puts.cache_self]
    exact Cache.yieldTruths_of_present fun t => Cache.mem_names_yieldTruths _ distinct
  rw [unchanged] at again
  obtain ⟨journal, rfl⟩ := again
  rw [setCache_cache puts.known] at second
  exact ⟨c, k, journal, first, puts, context, Cache.entries_yieldTruths _ distinct, second⟩

/-- Whether the cache of a host, if there is one, reports the feature API. -/
def reportsApi (depth : Nat) : Option CacheId → Run Host Bool
  | none => pure false
  | some id => query depth id (.text hostFeatureApi)

/-- A bootstrap asks the host first, and makes a cache only if the answer is no. -/
theorem outcome_bootstrap (depth : Nat) (host : Option CacheId) (context : Context)
    (seed : List (FeatureName × Offer)) (defaults : Bool) (h : Host) :
    match (reportsApi depth host).outcome h with
    | (.error stop, k) =>
      (bootstrap depth host context seed defaults).outcome h = (.error stop, k)
    | (.ok true, k) => ∃ id journal, host = some id ∧
      (bootstrap depth host context seed defaults).outcome h =
        (.ok id, { k with journal := journal })
    | (.ok false, k) =>
      (bootstrap depth host context seed defaults).outcome h =
        (keysOf seed >>= fun keys => freshCache context keys defaults).outcome k := by
  cases host with
  | none => rfl
  | some id =>
    rcases asked : (query depth id (.text hostFeatureApi)).outcome h with ⟨stop | answer, k⟩
    · simp only [reportsApi, asked]
      exact Run.outcome_bind_of_error asked _
    · have went := Run.outcome_bind_of_ok asked fun reports =>
        if reports then do
          say bootstrapLogger s!"using host feature cache {(← look (·.cache id)).display}"
          return id
        else do freshCache context (← keysOf seed) defaults
      simp only [reportsApi, asked]
      cases answer with
      | false => exact went
      | true => exact ⟨id, _, rfl, went⟩

/-- Asking the host for its feature API adds no cache. -/
theorem keys_reportsApi (numbered : h.Numbered) {host : Option CacheId}
    (known : ∀ id, host = some id → id ∈ h.caches.keys) (depth : Nat) :
    ((reportsApi depth host).outcome h).2.caches.keys = h.caches.keys ∧
      ((reportsApi depth host).outcome h).2.workspace = h.workspace := by
  cases host with
  | none => exact ⟨rfl, rfl⟩
  | some id =>
    have known := known id rfl
    let scope := Scope.of numbered id known
    have used : id ∈ scope.used := List.mem_cons_self
    have after := (holds_query depth used (.text hostFeatureApi)).outcome
      (within_of numbered id known)
    exact ⟨after.ids, after.workspace⟩

end Host

open Host in
/-- If a host has a cache and this cache, when queried, reports the feature API, a bootstrap yields
this cache and does nothing else. If the query fails, so does the bootstrap, and there is no new
cache. Else, unless something is offered under a name without a key, the outcome is a new cache,
which holds first what the seed offers, under normalised names and without having called a probe,
and then, if they are wanted, those of the default features that the seed offers nothing for; all
else is as the query left it. Registering the default features for any cache changes no entry that
is there and calls no probe, and doing it again does nothing. -/
theorem bootstrap_contents (depth : Nat) (h : Host) (numbered : h.Numbered)
    (host : Option CacheId) (known : ∀ id, host = some id → id ∈ h.caches.keys)
    (context : Context) (seed : List (FeatureName × Offer)) (defaults : Bool) :
    (let asked := (reportsApi depth host).outcome h
      let booted := (bootstrap depth host context seed defaults).outcome h
      ((∃ id, host = some id ∧ booted.1 = .ok id) ↔ asked.1 = .ok true) ∧
      match asked with
      | (.error stop, k) => booted = (.error stop, k) ∧ k.caches.keys = h.caches.keys
      | (.ok true, k) => ∃ journal, booted.2 = { k with journal := journal }
      | (.ok false, k) =>
        (∃ pair ∈ Seed.offered seed, ∃ e, pair.1.key = .error e ∧
          booted = (.error (.fault (.ofNoKey e)), k)) ∨
        ∃ keys id c, Seed.ofMapping seed = .ok keys ∧
          keys.map (fun b => (b.1.toName, b.2)) =
            (Seed.offered seed).map (fun b => (b.1.normalize, b.2)) ∧
          booted.1 = .ok id ∧ id ∉ k.caches.keys ∧ k.Puts id c booted.2 ∧ c.context = context ∧
          c.entries.entries = (OrderedMap.ofList (Seed.given keys)).entries ++
            if defaults then
              lacking ((Seed.given keys).map Prod.fst)
                (defaultFeatures context.document.isSome (k.takesListeners context))
            else []) ∧
    ∀ id ∈ h.caches.keys,
      ∃ c k journal, (registerDefaults id).outcome h = (.ok (), k) ∧ h.Puts id c k ∧
        c.context = (h.cache id).context ∧
        c.entries.entries =
          (h.cache id).entries.entries ++ lacking (h.cache id).names (h.defaultsOf id) ∧
        (registerDefaults id).outcome k = (.ok (), { k with journal := journal }) := by
  refine ⟨?_, fun id => outcome_registerDefaults⟩
  intro asked booted
  have outcome := outcome_bootstrap depth host context seed defaults h
  obtain ⟨ids, workspace⟩ := keys_reportsApi numbered known depth
  rcases reported : (reportsApi depth host).outcome h with ⟨result, k⟩
  simp only [reported] at outcome ids workspace
  simp only [asked, booted, reported]
  cases result with
  | error stop => simp [outcome, ids]
  | ok answer =>
    cases answer with
    | true =>
      obtain ⟨id, journal, rfl, outcome⟩ := outcome
      simp [outcome]
    | false =>
      rcases Seed.ofMapping_cases seed with ⟨keys, read, names⟩ | ⟨pair, mem, e, unnamed, failed⟩
      · have fresh := (numbered.of_same ids workspace).fresh
        obtain ⟨l, made, puts⟩ := puts_freshCache context keys defaults k
        have keyed : (keysOf seed).outcome k = (.ok keys, k) := by
          rw [keysOf, read]
          rfl
        have went : (bootstrap depth host context seed defaults).outcome h = (.ok _, l) :=
          outcome.trans ((Run.outcome_bind_of_ok keyed _).trans made)
        simp only [went]
        refine ⟨⟨?_, nofun⟩, .inr ⟨keys, _, k.stocked context keys defaults, read, names, rfl,
          fresh, puts, ?_, ?_⟩⟩
        · -- the new cache is none of those of the host
          rintro ⟨id, rfl, same⟩
          cases same
          exact absurd (known _ rfl) (ids ▸ fresh)
        · exact k.context_stocked context keys defaults
        · exact k.entries_stocked context keys defaults
      · have stops : (keysOf seed).outcome k = (.error (.fault (.ofNoKey e)), k) := by
          rw [keysOf, failed]
          rfl
        have went : (bootstrap depth host context seed defaults).outcome h =
            (.error (.fault (.ofNoKey e)), k) := outcome.trans (Run.outcome_bind_of_error stops _)
        simp only [went]
        exact ⟨⟨nofun, nofun⟩, .inl ⟨pair, mem, e, unnamed, rfl⟩⟩

/-- A host whose cache has a probe for the feature API, which finds out that there is none. -/
def modestHost : Host :=
  let probe : Probe := ⟨"api", "api", fun _ => .finish (.bool false)⟩
  { Host.empty with workspace := some ⟨0⟩ }.setCache ⟨0⟩
    ((Cache.new .plain).sow [(.text hostFeatureApi, .probe probe)])

/-- A seed with a probe under an integer, with nothing for one default feature and with the contrary
of another one. -/
def modestSeed : List (FeatureName × Offer) :=
  [(.number 7, .probe ⟨"seven", "seven", fun _ => .finish (.bool true)⟩),
    (.text "dom", .nothing), (.text "dojo-sniff", .value (.bool false))]

open Host in
/-- A host with a modest cache gets a new one, in which the probe of the seed is pending. -/
theorem bootstrap_contents_modest :
    let booted := (bootstrap 1 (some ⟨0⟩) .plain modestSeed true).outcome modestHost
    ∃ id, booted.1 = .ok id ∧ id ≠ ⟨0⟩ ∧
      (booted.2.cache id).snapshot.entries =
        [(.text "7", none), (.text "dojo-sniff", some false), (.text "host-browser", some false),
          (.text "dom", some false), (.text "host-addEventListener", some false),
          (.text "loader-pageLoadApi", some true)] := by
  have numbered : modestHost.Numbered := by
    constructor
    · decide
    · rintro id ⟨⟩
      decide
  have known : ∀ id, some ⟨0⟩ = some id → id ∈ modestHost.caches.keys := by
    rintro id ⟨⟩
    decide
  intro booted
  have given : Seed.ofMapping modestSeed = .ok [(.text "7", modestSeed[0].2),
    (.text "dojo-sniff", .value (.bool false))] := rfl
  obtain ⟨⟨_, outcome⟩, _⟩ :=
    bootstrap_contents 1 modestHost numbered (some ⟨0⟩) known .plain modestSeed true
  rcases outcome with
    ⟨pair, mem, e, unnamed, _⟩ | ⟨keys, id, c, read, _, made, fresh, puts, _, entries⟩
  · rcases mem with _ | ⟨_, mem⟩
    · cases unnamed
    · cases List.mem_singleton.mp mem
      cases unnamed
  · refine ⟨id, made, ?_, ?_⟩
    · rintro rfl
      exact fresh (by decide)
    · cases given.symm.trans read
      rw [puts.cache_self, Cache.snapshot, OrderedMap.mapValues, entries]
      rfl

open Host in
/-- A name for which a seed gives nothing is among the default features nevertheless. And there is
no new cache for a seed with an integer that cannot be written. -/
theorem nothing_is_not_given :
    let booted := (bootstrap 0 none .plain [(.text "dom", .nothing)] true).outcome empty
    (booted.2.cache ⟨0⟩).find? (.text "dom") = some (.resolved false) ∧
      (bootstrap 0 none .plain [(.overlong, .value (.bool true))] true).outcome empty =
        (.error (.fault .longInteger), empty) := by
  refine ⟨rfl, ?_⟩
  have read : Seed.ofMapping [(.overlong, .value (.bool true))] = .error .longInteger := by
    have offers : [(FeatureName.overlong, Offer.value (.bool true))].filter
        (fun pair => !pair.2.isNothing) = [(.overlong, .value (.bool true))] := rfl
    rw [Seed.ofMapping, offers, List.mapM_cons]
    simp only [FeatureName.key_overlong]
    rfl
  have stops : (keysOf [(.overlong, .value (.bool true))]).outcome empty =
      (.error (.fault .longInteger), empty) := by
    rw [keysOf, read]
    rfl
  exact Run.outcome_bind_of_error stops _

end FeatureChoice
