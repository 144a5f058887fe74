import FeatureChoice.Proofs.Feature.History
import FeatureChoice.Seed.Load
/-!
Stocking a cache with truths. A seed, the default features and assignments are all truths that are
offered one after the other. Offers that are forced override what is there, and the last one wins;
other offers yield to what is there. Either way a feature stands where it was offered first.

* `Cache.offerTruths`, with what it makes of a feature (`find?_forceTruths`, `find?_yieldTruths`)
  and of the order (`Cache.Lists.offerTruths`).
* `Host.puts_registerDefaults`, `Host.puts_freshCache`: what registering the default features does
  to a cache, and what a new cache starts with.
-/

namespace FeatureChoice

/-! ### Truths in a cache -/

namespace Cache

variable {c : Cache} {force : Bool} {truths : List (String × Bool)} {names : List String}

/-- A cache that truths are offered to, one after the other. -/
def offerTruths (c : Cache) (force : Bool) (truths : List (String × Bool)) : Cache :=
  truths.foldl (fun c t => c.offer (.text t.1) (.value (.bool t.2)) force) c

/-- A truth that is forced counts; one that is not counts for a feature that is not there. -/
theorem find?_offer_truth (c : Cache) (name : String) (b force : Bool) :
    (c.offer (.text name) (.value (.bool b)) force).find? (.text name) =
      if force then some (.resolved b) else (c.find? (.text name)).or (some (.resolved b)) := by
  have there : c.entries.contains (.text name) = (c.find? (.text name)).isSome := rfl
  simp only [offer, there, Offer.isNothing]
  cases force with
  | true => simp [find?_store, Entry.ofOffer, Value.truth]
  | false =>
    cases found : c.find? (.text name) <;> simp [found, find?_store, Entry.ofOffer, Value.truth]

/-- Of forced truths the last one counts, before what was there. -/
theorem find?_forceTruths (c : Cache) (truths : List (String × Bool)) (name : String) :
    (c.offerTruths true truths).find? (.text name) =
      ((truths.reverse.lookup name).map .resolved).or (c.find? (.text name)) := by
  induction truths generalizing c with
  | nil => rfl
  | cons t truths ih =>
    obtain ⟨first, b⟩ := t
    have rest := ih (c.offer (.text first) (.value (.bool b)) true)
    rw [offerTruths, List.foldl_cons, ← offerTruths, rest, List.reverse_cons, List.lookup_append]
    by_cases same : name = first
    · subst same
      cases truths.reverse.lookup name <;> simp [find?_offer_truth]
    · have other : (name == first) = false := by simpa using same
      rw [get?_offer_of_ne c (by simpa using same)]
      cases truths.reverse.lookup name <;> simp [List.lookup_cons, other]

/-- Of truths that yield the first one counts, after what was there. -/
theorem find?_yieldTruths (c : Cache) (truths : List (String × Bool)) (name : String) :
    (c.offerTruths false truths).find? (.text name) =
      (c.find? (.text name)).or ((truths.lookup name).map .resolved) := by
  induction truths generalizing c with
  | nil => simp [offerTruths]
  | cons t truths ih =>
    obtain ⟨first, b⟩ := t
    have rest := ih (c.offer (.text first) (.value (.bool b)) false)
    rw [offerTruths, List.foldl_cons, ← offerTruths, rest]
    by_cases same : name = first
    · subst same
      cases found : c.find? (.text name) <;> simp [find?_offer_truth, found]
    · have other : (name == first) = false := by simpa using same
      rw [get?_offer_of_ne c (by simpa using same)]
      simp [List.lookup_cons, other]

/-- Truths change nothing under keys that are no texts. -/
theorem find?_offerTruths_of_ne {key : Key} (other : ∀ name, key ≠ .text name) :
    (c.offerTruths force truths).find? key = c.find? key := by
  induction truths generalizing c with
  | nil => rfl
  | cons t truths ih =>
    rw [offerTruths, List.foldl_cons, ← offerTruths, ih, get?_offer_of_ne c (other t.1)]

@[simp] theorem context_offerTruths (c : Cache) (force : Bool) (truths : List (String × Bool)) :
    (c.offerTruths force truths).context = c.context := by
  induction truths generalizing c with
  | nil => rfl
  | cons t truths ih =>
    rw [offerTruths, List.foldl_cons, ← offerTruths, ih, context_offer]

/-- The features of a cache are these, each where it stands first. -/
def Lists (c : Cache) (names : List String) : Prop := c.names = names.eraseDups.map Key.text

/-- A truth for a feature that is there does not move it, and a new one goes to the end. -/
theorem names_offer_truth (c : Cache) (key : Key) (b force : Bool) :
    (c.offer key (.value (.bool b)) force).names =
      if key ∈ c.names then c.names else c.names ++ [key] := by
  have there : c.entries.contains key = true ↔ key ∈ c.names := (c.entries.mem_keys_iff key).symm
  unfold offer
  split
  · next kept =>
    rw [Bool.and_eq_true, there] at kept
    rw [if_pos kept.1]
  · exact names_store c key _

/-- With one more truth, one more name is listed. -/
theorem Lists.offer (lists : c.Lists names) (name : String) (b force : Bool) :
    (c.offer (.text name) (.value (.bool b)) force).Lists (names ++ [name]) := by
  unfold Lists at lists ⊢
  rw [names_offer_truth, List.eraseDups_append, List.map_append, ← lists]
  have listed : Key.text name ∈ c.names ↔ name ∈ names := by
    rw [lists]
    simp
  by_cases present : name ∈ names
  · rw [if_pos (listed.mpr present)]
    simp [List.removeAll, present]
  · rw [if_neg (mt listed.mp present)]
    simp [List.removeAll, present, List.eraseDups_cons]

/-- The names of truths are listed after those that were. -/
theorem Lists.offerTruths (lists : c.Lists names) (force : Bool) (truths : List (String × Bool)) :
    (c.offerTruths force truths).Lists (names ++ truths.map Prod.fst) := by
  induction truths generalizing c names with
  | nil => simpa [Cache.offerTruths] using lists
  | cons t truths ih =>
    have rest := ih (lists.offer t.1 t.2 force)
    rwa [List.append_assoc] at rest

/-- The truths of a seed are offered like forced ones. -/
theorem sow_toOffers (c : Cache) (seed : SeedTruths) :
    c.sow (Seed.toOffers seed) = c.offerTruths true seed.entries := by
  obtain ⟨truths⟩ := seed
  induction truths generalizing c with
  | nil => rfl
  | cons t truths ih =>
    obtain ⟨name, b⟩ := t
    have first : c.offer (.text name) (.value (.bool b)) true =
        c.store (.text name) (.resolved b) := by
      simp [offer, Offer.isNothing, Entry.ofOffer, Value.truth]
    rw [offerTruths, List.foldl_cons, ← offerTruths, first]
    exact ih (c.store (.text name) (.resolved b))

@[simp] theorem context_sow (c : Cache) (seed : List (Key × Offer)) :
    (c.sow seed).context = c.context := by
  induction seed generalizing c with
  | nil => rfl
  | cons binding seed ih =>
    rw [sow, ih]
    split <;> rfl

/-- A new cache with the truths of a seed, and then the default features, if they are wanted. -/
def started (seed : SeedTruths) (defaults : Bool) : Cache :=
  let seeded := (new .plain).offerTruths true seed.entries
  if defaults then seeded.offerTruths false (defaultFeatures false false) else seeded

end Cache

/-! ### Seeds -/

namespace Seed

/-- In a map of distinct keys the last binding of a key is its only one. -/
theorem lookup_reverse_entries {seed : SeedTruths} (distinct : seed.keys.Nodup) (name : String) :
    seed.entries.reverse.lookup name = seed.get? name := by
  obtain ⟨l⟩ := seed
  simp only [OrderedMap.keys, OrderedMap.get?] at distinct ⊢
  induction l with
  | nil => rfl
  | cons head rest ih =>
    obtain ⟨first, b⟩ := head
    obtain ⟨fresh, distinct⟩ := List.nodup_cons.mp distinct
    rw [List.reverse_cons, List.lookup_append, ih distinct]
    by_cases same : first = name
    · -- the name does not come again
      subst same
      have absent : OrderedMap.find first rest = none :=
        (OrderedMap.get?_eq_none_iff ⟨rest⟩ first).mpr fresh
      simp [OrderedMap.find, absent]
    · have other : (name == first) = false := by simpa using Ne.symm same
      simp [OrderedMap.find, same, List.lookup_cons, other]

theorem nodup_keys_items {seed truths : SeedTruths} {entries : List (Value × Value)}
    (distinct : seed.keys.Nodup) (read : items seed entries = .ok truths) : truths.keys.Nodup := by
  induction entries generalizing seed with
  | nil =>
    cases read
    exact distinct
  | cons entry entries ih =>
    obtain ⟨name, value⟩ := entry
    rw [items] at read
    cases first : item name value with
    | error cause => simp [first, bind, Except.bind] at read
    | ok binding =>
      rw [first] at read
      exact ih (OrderedMap.nodup_keys_insert distinct _ _) read

/-- What is parsed as a seed has no key twice. -/
theorem nodup_keys_parse {source : String} {data : Value} {truths : SeedTruths}
    (read : parse source data = .ok truths) : truths.keys.Nodup := by
  have ofData : ofData data = .ok truths := by
    unfold parse at read
    cases ends : ofData data with
    | error cause =>
      rw [ends] at read
      cases read
    | ok found =>
      rw [ends] at read
      cases read
      rfl
  have empty : (.empty : SeedTruths).keys.Nodup := List.nodup_nil
  cases data with
  | none =>
    cases ofData
    exact empty
  | map entries => exact nodup_keys_items empty ofData
  | _ => cases ofData

/-- A seed that was read from a file has every name once. -/
theorem nodup_keys_ofFile {loader : Yaml.Loader} {files : Files.Tree} {path : Files.Path}
    {truths : SeedTruths} (read : ofFile loader files path = .ok truths) : truths.keys.Nodup := by
  unfold ofFile at read
  split at read
  · cases read
  · cases read
  · next bytes _ =>
    unfold ofBytes at read
    cases decoded : Text.decodeUtf8 bytes with
    | error e => simp [decoded] at read
    | ok text =>
      simp only [decoded, ofText] at read
      cases loaded : loader (Text.unifyLineEnds text) with
      | error e => cases e <;> simp [loaded] at read
      | ok data =>
        rw [loaded] at read
        exact nodup_keys_parse read

end Seed

namespace Cache

/-- A feature of a started cache has the truth of the seed, or else that of the default features. -/
theorem find?_started {seed : SeedTruths} (distinct : seed.keys.Nodup) (defaults : Bool)
    (name : String) :
    (started seed defaults).find? (.text name) =
      ((seed.get? name).or
        (if defaults then (defaultFeatures false false).lookup name else none)).map .resolved := by
  have seeded := find?_forceTruths (new .plain) seed.entries name
  have empty : (new .plain).find? (.text name) = none := rfl
  rw [Seed.lookup_reverse_entries distinct, empty] at seeded
  cases defaults with
  | false => simpa [started] using seeded
  | true =>
    rw [started, if_pos rfl, find?_yieldTruths, seeded]
    cases seed.get? name <;> simp

/-- A started cache lists the seed and then the default features. -/
theorem lists_started (seed : SeedTruths) (defaults : Bool) :
    (started seed defaults).Lists (seed.keys ++ if defaults then defaultNames else []) := by
  have empty : (new .plain).Lists [] := rfl
  have seeded := empty.offerTruths true seed.entries
  cases defaults with
  | false => simpa [started, OrderedMap.keys] using seeded
  | true => exact seeded.offerTruths false (defaultFeatures false false)

/-- All features of a started cache have texts for names. -/
theorem find?_started_of_ne {seed : SeedTruths} {defaults : Bool} {key : Key}
    (other : ∀ name, key ≠ .text name) : (started seed defaults).find? key = none := by
  have empty : (new .plain).find? key = none := rfl
  cases defaults with
  | false => rw [started, if_neg Bool.false_ne_true, find?_offerTruths_of_ne other, empty]
  | true =>
    rw [started, if_pos rfl, find?_offerTruths_of_ne other, find?_offerTruths_of_ne other, empty]

end Cache

/-! ### Hosts with a changed cache -/

theorem OrderedMap.insert_insert {κ α : Type} [DecidableEq κ] (m : OrderedMap κ α) (key : κ)
    (first second : α) : (m.insert key first).insert key second = m.insert key second := by
  obtain ⟨l⟩ := m
  simp only [insert, OrderedMap.mk.injEq]
  induction l with
  | nil => simp [put]
  | cons head rest ih =>
    obtain ⟨k, a⟩ := head
    by_cases hk : k = key <;> simp [put, hk, ih]

namespace Host

variable {id : CacheId} {c c' : Cache} {h k l : Host}

namespace Puts

/-- Of two caches put one after the other in the same place the last one stays. -/
theorem trans (first : h.Puts id c k) (second : k.Puts id c' l) : h.Puts id c' l := by
  obtain ⟨journal, rfl⟩ := first
  obtain ⟨journal', rfl⟩ := second
  refine ⟨journal', ?_⟩
  simp only [setCache, OrderedMap.insert_insert]

theorem log (puts : h.Puts id c k) (row : Log.Row) : h.Puts id c (k.log row) := by
  obtain ⟨journal, rfl⟩ := puts
  exact ⟨_, rfl⟩

/-- Where the log was changed before, a cache is put all the same. -/
theorem of_relogged {journal : Log.Journal}
    (puts : { h with journal := journal }.Puts id c k) : h.Puts id c k := by
  obtain ⟨journal', rfl⟩ := puts
  exact ⟨journal', rfl⟩

end Puts

/-- Offering truths to a cache that was changed before. -/
theorem puts_enterTruths (puts : h.Puts id c k) (force : Bool) (truths : List (String × Bool)) :
    ∃ l, (truths.forM fun t => enter id (.text t.1) (.value (.bool t.2)) force).outcome k =
        (.ok (), l) ∧ h.Puts id (c.offerTruths force truths) l := by
  induction truths generalizing c k with
  | nil => exact ⟨k, rfl, puts⟩
  | cons t truths ih =>
    have named : (FeatureName.text t.1).key = .ok (.text t.1) := rfl
    obtain ⟨k', entered, changed⟩ := puts_enter named k id (.value (.bool t.2)) force
    rw [puts.cache_self] at changed
    obtain ⟨l, rest, left⟩ := ih (puts.trans changed)
    exact ⟨l, (Run.outcome_bind_of_ok entered _).trans rest, left⟩

theorem defaultsOf_setCache (h : Host) (id : CacheId) (c : Cache) :
    (h.setCache id c).defaultsOf id =
      defaultFeatures c.context.document.isSome (h.takesListeners c.context) := by
  simp only [defaultsOf, cache_setCache, if_true]
  rfl

/-- Registering the default features for a cache that was changed before. -/
theorem puts_registerDefaults (puts : h.Puts id c k) :
    ∃ l, (registerDefaults id).outcome k = (.ok (), l) ∧
      h.Puts id (c.offerTruths false (k.defaultsOf id)) l := by
  obtain ⟨l, entered, left⟩ := puts_enterTruths puts false (k.defaultsOf id)
  exact ⟨l, (Run.outcome_bind_of_ok (outcome_look _ _) _).trans entered, left⟩

/-- What a new cache starts with: what its seed holds, and then the default features of its context,
if they are wanted. -/
def stocked (h : Host) (context : Context) (seed : List (Key × Offer)) (defaults : Bool) : Cache :=
  let seeded := (Cache.new context).sow seed
  if defaults then
    seeded.offerTruths false
      (defaultFeatures context.document.isSome (h.takesListeners context))
  else seeded

/-- Making a new cache does nothing else. -/
theorem puts_freshCache (context : Context) (seed : List (Key × Offer)) (defaults : Bool)
    (h : Host) :
    ∃ k, (freshCache context seed defaults).outcome h = (.ok ⟨h.caches.size⟩, k) ∧
      h.Puts ⟨h.caches.size⟩ (h.stocked context seed defaults) k := by
  let id : CacheId := ⟨h.caches.size⟩
  let seeded := (Cache.new context).sow seed
  have made : h.Puts id seeded (h.setCache id seeded) := ⟨h.journal, rfl⟩
  have new : (newCache context seed).outcome h = (.ok id, h.setCache id seeded) := rfl
  -- what is said of the new cache in the end leaves it as it is
  let row (k : Host) : Log.Row :=
    ⟨.debug, bootstrapLogger, s!"bootstrapped {(k.cache id).display}"⟩
  have rest : ∀ k, (do
      say bootstrapLogger s!"bootstrapped {(← look (·.cache id)).display}"
      return id : Run Host CacheId).outcome k = (.ok id, k.log (row k)) := fun _ => rfl
  rw [freshCache, Run.outcome_bind_of_ok new]
  cases defaults with
  | false => exact ⟨_, rest _, made.log _⟩
  | true =>
    obtain ⟨k, registered, puts⟩ := puts_registerDefaults made
    rw [defaultsOf_setCache, Cache.context_sow] at puts
    refine ⟨k.log (row k), ?_, puts.log _⟩
    simp only [if_true]
    rw [Run.outcome_bind_of_ok registered]
    exact rest k

/-- What a new cache without a document starts with, if its seed holds truths. -/
theorem outcome_freshCache (seed : SeedTruths) (defaults : Bool) (h : Host) :
    ∃ k, (freshCache .plain (Seed.toOffers seed) defaults).outcome h =
        (.ok ⟨h.caches.size⟩, k) ∧ h.Puts ⟨h.caches.size⟩ (.started seed defaults) k := by
  have same : h.stocked .plain (Seed.toOffers seed) defaults = .started seed defaults := by
    simp [stocked, Cache.started, Cache.sow_toOffers, Context.plain, takesListeners]
  rw [← same]
  exact puts_freshCache .plain (Seed.toOffers seed) defaults h

end Host

end FeatureChoice
