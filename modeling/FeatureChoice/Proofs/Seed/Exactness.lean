import FeatureChoice.Proofs.Feature.Bootstrapping
import FeatureChoice.Proofs.Seed.Validation
import Mathlib.Data.List.Induction
import Mathlib.Data.List.Nodup
import Mathlib.Data.Prod.Basic
/-!
Seeds and the caches that are made from them. A cache can be made from data as it is, or from the
seed that is read from the data; two loops turn names and values into features, and the last value of
a name wins in both. A registration yields to what is there, so the first one wins; if no two names
are the same this makes no difference.

* `Seed.ofMapping_pairsOf`, `Cache.sow_of_given`: what a new cache makes of data.
* `OrderedMap.entries_ofList_map`: maps of pairs whose keys have other names.
* `Cache.sow_eq_offers`: of distinct features, the last offers and the first ones win alike.
* `seed_validation_exact`: the seed that is read from data, and the caches that are made from both.
-/

namespace FeatureChoice

/-- Different keys are different names. -/
theorem Key.toName_injective : Function.Injective Key.toName := by
  intro a b same
  have keys := congrArg FeatureName.key same
  simpa only [key_toName, Except.ok.injEq] using keys

namespace Seed

variable {entries : List (Value × Value)} {truths : SeedTruths}

/-! ### Seeds of caches -/

/-- The name of a feature that a value is. -/
def hostName? : Value → Option FeatureName
  | .text s => some (.text s)
  | .int n => some (.number n)
  | _ => none

/-- The items of a mapping, as a host hands them to a cache. -/
def pairsOf (entries : List (Value × Value)) : List (FeatureName × Offer) :=
  entries.filterMap fun e => (hostName? e.1).map fun name => (name, .value e.2)

/-- The items of a mapping, as a cache takes them. -/
def offersOf (entries : List (Value × Value)) : List (Key × Offer) :=
  entries.filterMap fun e => (textOf e.1).map fun name => (.text name, .value e.2)

/-- A seed as data. -/
def asData (truths : SeedTruths) : Value :=
  .map (truths.entries.map fun b => (.text b.1, .bool b.2))

/-- The name of a feature has a key if it can be written. -/
theorem hostName?_cases {v : Value} (writable : v.isWritable = true) :
    (hostName? v = none ∧ textOf v = none) ∨
      ∃ name text, hostName? v = some name ∧ textOf v = some text ∧
        name.key = .ok (.text text) ∧ name.normalize = .text text := by
  cases v with
  | text s => exact .inr ⟨_, _, rfl, rfl, rfl, rfl⟩
  | int n =>
    have normal : (FeatureName.number n).normalize = .text (toString n) := by
      have written : Numeral.written? n = some (toString n) := if_pos writable
      rw [FeatureName.normalize, written]
      rfl
    exact .inr ⟨_, _, rfl, rfl, by rw [FeatureName.key, normal], normal⟩
  | _ => exact .inl ⟨rfl, rfl⟩

section Pairs

variable (writable : ∀ e ∈ entries, e.1.isWritable = true)

include writable

/-- The names of a mapping are normalised to its keys. -/
theorem map_normalize_pairsOf :
    (pairsOf entries).map (fun p => (p.1.normalize, p.2)) =
      (offersOf entries).map fun b => (b.1.toName, b.2) := by
  induction entries with
  | nil => rfl
  | cons e entries ih =>
    obtain ⟨first, writable⟩ := List.forall_mem_cons.mp writable
    have rest := ih writable
    simp only [pairsOf, offersOf, List.filterMap_cons] at rest ⊢
    rcases hostName?_cases first with ⟨none, none'⟩ | ⟨name, text, named, same, _, normal⟩
    · simpa only [none, none', Option.map_none] using rest
    · simp only [named, same, Option.map_some, List.map_cons, rest, normal]
      rfl

/-- Every name in a mapping of integers that can be written has a key. -/
theorem key_of_mem_pairsOf {pair : FeatureName × Offer} (mem : pair ∈ pairsOf entries) :
    ∃ key, pair.1.key = .ok key := by
  obtain ⟨e, listed, same⟩ := List.mem_filterMap.mp mem
  rcases hostName?_cases (writable e listed) with ⟨none, _⟩ | ⟨name, text, named, _, key, _⟩
  · simp [none] at same
  · simp only [named, Option.map_some, Option.some.injEq] at same
    exact ⟨.text text, by rw [← same, key]⟩

/-- A cache takes the items of a mapping to truths under their texts. -/
theorem ofMapping_pairsOf (truthful : ∀ e ∈ entries, isTruth e.2 = true) :
    ofMapping (pairsOf entries) = .ok (offersOf entries) := by
  have all : offered (pairsOf entries) = pairsOf entries := by
    apply List.filter_eq_self.mpr
    intro pair mem
    obtain ⟨e, listed, same⟩ := List.mem_filterMap.mp mem
    obtain ⟨name, _, rfl⟩ := Option.map_eq_some_iff.mp same
    have truth := truthful e listed
    cases value : e.2 <;> first | rfl | simp [value, isTruth] at truth
  rcases ofMapping_cases (pairsOf entries) with ⟨keys, read, names⟩ | ⟨pair, mem, e, unnamed, _⟩
  · rw [all, map_normalize_pairsOf writable] at names
    have injective : Function.Injective (Prod.map Key.toName id : Key × Offer → _) :=
      Key.toName_injective.prodMap Function.injective_id
    rw [read, List.map_injective_iff.mpr injective names]
  · rw [all] at mem
    obtain ⟨key, named⟩ := key_of_mem_pairsOf writable mem
    cases unnamed.symm.trans named

end Pairs

/-- Of a mapping to truths the readings are given. -/
theorem given_offersOf (truthful : ∀ e ∈ entries, isTruth e.2 = true) :
    given (offersOf entries) = (readings entries).map fun b => (.text b.1, .resolved b.2) := by
  induction entries with
  | nil => rfl
  | cons e entries ih =>
    obtain ⟨first, truthful⟩ := List.forall_mem_cons.mp truthful
    have something : (Offer.value e.2).isNothing = false := by
      cases value : e.2 <;> first | rfl | simp [value, isTruth] at first
    have rest := ih truthful
    simp only [offersOf, readings, List.filterMap_cons, given] at rest ⊢
    cases textOf e.1 with
    | none => exact rest
    | some text => simpa [something, Entry.ofOffer] using rest

end Seed

/-! ### Maps with other keys -/

namespace OrderedMap

variable {κ κ' α β : Type} [DecidableEq κ] [DecidableEq κ'] {f : κ → κ'}

theorem put_map (injective : Function.Injective f) (g : α → β) (key : κ) (value : α)
    (l : List (κ × α)) :
    put (f key) (g value) (l.map (Prod.map f g)) = (put key value l).map (Prod.map f g) := by
  induction l with
  | nil => rfl
  | cons head rest ih =>
    obtain ⟨k, a⟩ := head
    by_cases same : k = key
    · simp [put, same]
    · simp [put, same, injective.eq_iff, ih]

/-- Other names for the keys make no difference. -/
theorem entries_ofList_map (injective : Function.Injective f) (g : α → β)
    (pairs : List (κ × α)) :
    (ofList (pairs.map (Prod.map f g))).entries = (ofList pairs).entries.map (Prod.map f g) := by
  induction pairs using List.reverseRecOn with
  | nil => rfl
  | append_singleton pairs b ih =>
    obtain ⟨key, value⟩ := b
    have rest := put_map injective g key value (ofList pairs).entries
    rw [← ih] at rest
    rw [List.map_append, ofList_concat, List.map_singleton, Prod.map_apply, ofList_concat]
    exact rest

end OrderedMap

/-! ### Caches of data -/

namespace Cache

/-- The cache that holds the truths of a seed. -/
def holding (context : Context) (truths : SeedTruths) : Cache :=
  ⟨context, ⟨truths.entries.map (Prod.map Key.text Entry.resolved)⟩⟩

/-- A cache that holds truths shows them as they are. -/
theorem snapshot_holding (context : Context) (truths : SeedTruths) :
    (holding context truths).snapshot.entries = truths.entries.map (Prod.map Key.text some) := by
  simp [holding, snapshot, OrderedMap.mapValues, Prod.map, Entry.result?]

/-- A new cache holds what its seed says. -/
theorem sow_of_given {context : Context} {seed : List (Key × Offer)}
    {readings : List (String × Bool)}
    (given : Seed.given seed = readings.map (Prod.map Key.text Entry.resolved)) :
    (new context).sow seed = holding context (.ofList readings) := by
  have injective : Function.Injective Key.text := fun _ _ => Key.text.inj
  have entries : ((new context).sow seed).entries =
      ⟨(OrderedMap.ofList readings).entries.map (Prod.map Key.text Entry.resolved)⟩ := by
    rw [entries_sow_new, given, ← OrderedMap.entries_ofList_map injective]
  have same : ((new context).sow seed).context = context := context_sow _ _
  cases made : (new context).sow seed with
  | mk =>
    rw [made] at entries same
    rw [holding, ← entries, ← same]

/-- Sowing truths under distinct names makes the cache that holds them. -/
theorem sow_toOffers_eq_holding (context : Context) {truths : SeedTruths}
    (distinct : truths.keys.Nodup) :
    (new context).sow (Seed.toOffers truths) = holding context truths := by
  have given : Seed.given (Seed.toOffers truths) =
      truths.entries.map (Prod.map Key.text Entry.resolved) := by
    have something : ∀ b ∈ Seed.toOffers truths, (!b.2.isNothing) = true := by
      intro b mem
      obtain ⟨t, _, rfl⟩ := List.mem_map.mp mem
      rfl
    rw [Seed.given, List.filter_eq_self.mpr something, Seed.toOffers, List.map_map]
    rfl
  rw [sow_of_given given, OrderedMap.ofList_entries distinct]

/-- Of distinct features the last offers and the first ones win alike. -/
theorem sow_eq_offers {c : Cache} {seed : List (Key × Offer)}
    (distinct : (seed.map Prod.fst).Nodup) (fresh : ∀ b ∈ seed, b.1 ∉ c.names) :
    seed.foldl (fun c b => c.offer b.1 b.2 false) c = c.sow seed := by
  induction seed generalizing c with
  | nil => rfl
  | cons b seed ih =>
    obtain ⟨key, o⟩ := b
    obtain ⟨first, fresh⟩ := List.forall_mem_cons.mp fresh
    obtain ⟨other, distinct⟩ := List.nodup_cons.mp distinct
    rw [List.foldl_cons, offer_of_fresh first, sow]
    apply ih distinct
    intro b mem
    split
    · exact fresh b mem
    · have ne : b.1 ≠ key := fun same => other (List.mem_map.mpr ⟨b, mem, same⟩)
      rw [names_store, if_neg first]
      simpa [ne] using fresh b mem

end Cache

namespace Host

variable {id : CacheId} {c : Cache} {h k : Host}

/-- Register offers one by one; they yield to what is there. -/
def registerAll (depth : Nat) (id : CacheId) (pairs : List (FeatureName × Offer)) : Run Host Unit :=
  pairs.forM fun pair => do
    let _ ← register depth id pair.1 pair.2 false false

/-- Registering a mapping item by item offers its items one after the other. -/
theorem puts_registerAll (puts : h.Puts id c k) (depth : Nat) {entries : List (Value × Value)}
    (writable : ∀ e ∈ entries, e.1.isWritable = true) :
    ∃ l, (registerAll depth id (Seed.pairsOf entries)).outcome k = (.ok (), l) ∧
      h.Puts id ((Seed.offersOf entries).foldl (fun c b => c.offer b.1 b.2 false) c) l := by
  induction entries generalizing c k with
  | nil => exact ⟨k, rfl, puts⟩
  | cons e entries ih =>
    obtain ⟨first, writable⟩ := List.forall_mem_cons.mp writable
    simp only [Seed.pairsOf, Seed.offersOf, List.filterMap_cons] at ih ⊢
    rcases Seed.hostName?_cases first with ⟨none, none'⟩ | ⟨name, text, named, same, key, _⟩
    · simpa only [none, none', Option.map_none] using ih puts writable
    · obtain ⟨k', entered, changed⟩ := puts_enter key k id (.value e.2) false
      rw [puts.cache_self] at changed
      obtain ⟨l, rest, left⟩ := ih (puts.trans changed) writable
      simp only [named, same, Option.map_some]
      refine ⟨l, ?_, left⟩
      let registering : Run Host (Option Bool) := register depth id name (.value e.2) false false
      have registered : registering.outcome k = (.ok none, k') := Run.outcome_bind_of_ok entered _
      have first : (do let _ ← registering).outcome k = (.ok (), k') :=
        Run.outcome_bind_of_ok registered _
      exact (Run.outcome_bind_of_ok first _).trans rest

end Host

/-! ### Seeds and caches -/

namespace Seed

variable {data : Value} {entries : List (Value × Value)} {truths : SeedTruths}

theorem readings_asData (truths : SeedTruths) :
    readings (entriesIn (asData truths)) = truths.entries := by
  simp [asData, entriesIn, readings, textOf, Value.truth, List.filterMap_map]

/-- A seed that was read is read again as it is. -/
theorem parse_asData (source : String) (distinct : truths.keys.Nodup) :
    parse source (asData truths) = .ok truths := by
  apply (parse_eq_ok_iff ..).mpr
  have items : ∀ e ∈ entriesIn (asData truths), IsRead e := by
    intro e mem
    obtain ⟨b, _, rfl⟩ := List.mem_map.mp mem
    exact ⟨⟨rfl, rfl⟩, rfl⟩
  refine ⟨⟨.map fun e mem => (items e mem).toIsItem, fun e mem => (items e mem).writable⟩, ?_⟩
  rw [readings_asData, OrderedMap.ofList_entries distinct]

/-- All values of a seed are truths. -/
theorem IsSeed.isTruth (good : IsSeed data) : ∀ e ∈ entriesIn data, isTruth e.2 = true := by
  cases good with
  | none => exact nofun
  | map items => exact fun e mem => (items e mem).truth

/-- A new cache of data holds the seed in the data. -/
theorem sow_offersOf (context : Context) (good : IsSeed data) :
    (Cache.new context).sow (offersOf (entriesIn data)) =
      .holding context (.ofList (readings (entriesIn data))) :=
  Cache.sow_of_given (given_offersOf good.isTruth)

theorem nodup_offersOf (writable : ∀ e ∈ entries, e.1.isWritable = true)
    (distinct : ((pairsOf entries).map fun p => p.1.normalize).Nodup) :
    ((offersOf entries).map Prod.fst).Nodup := by
  have names := congrArg (List.map Prod.fst) (map_normalize_pairsOf writable)
  simp only [List.map_map, Function.comp_def] at names
  rw [names] at distinct
  apply List.Nodup.of_map Key.toName
  simpa only [List.map_map, Function.comp_def] using distinct

end Seed

open Seed Host in
/-- Data is read as a seed exactly if it is nothing, or a mapping of texts and integers to truths
and integers, in which every integer that is a name can be written. For all other data it is
reported what is wrong with it, or with the first item with something wrong, whose name is looked at
first. The seed is the map of what the items say, one after the other: an integer and its text are
one name, which has the value that comes last, at the place where it comes first. It is read again
as it is. A new cache of the data holds this seed and nothing else, and so does a new cache of the
seed; if no two names are the same, so does a cache for which the items are registered one by one. -/
theorem seed_validation_exact (source : String) (data : Value) (context : Context) (depth : Nat)
    (h : Host) :
    ((∃ truths, parse source data = .ok truths) ↔
      IsSeed data ∧ ∀ e ∈ entriesIn data, e.1.isWritable = true) ∧
    (∀ fault, parse source data = .error fault ↔
      ∃ cause, Offends data cause ∧ fault = cause.fault source) ∧
    ∀ truths, parse source data = .ok truths →
      truths = .ofList (readings (entriesIn data)) ∧
      parse source (asData truths) = .ok truths ∧
      ∃ seed, ofMapping (pairsOf (entriesIn data)) = .ok seed ∧
        let cache := (Cache.new context).sow seed
        cache.snapshot.entries = truths.entries.map (Prod.map Key.text some) ∧
        (Cache.new context).sow (toOffers truths) = cache ∧
        (((pairsOf (entriesIn data)).map fun p => p.1.normalize).Nodup →
          let made := h.addCache (.new context)
          ∃ k, (registerAll depth made.1 (pairsOf (entriesIn data))).outcome made.2 = (.ok (), k) ∧
            k.cache made.1 = cache) := by
  refine ⟨?_, parse_eq_error_iff source data, ?_⟩
  · constructor
    · rintro ⟨truths, read⟩
      exact ((parse_eq_ok_iff ..).mp read).1
    · intro good
      exact ⟨_, (parse_eq_ok_iff ..).mpr ⟨good, rfl⟩⟩
  intro truths read
  obtain ⟨⟨good, writable⟩, same⟩ := (parse_eq_ok_iff ..).mp read
  have distinct := nodup_keys_parse read
  refine ⟨same, parse_asData source distinct, ?_⟩
  refine ⟨offersOf (entriesIn data), ofMapping_pairsOf writable good.isTruth, ?_⟩
  have holds := sow_offersOf context good
  rw [← same] at holds
  intro cache
  refine ⟨?_, ?_, ?_⟩
  · rw [← Cache.snapshot_holding context truths, ← holds]
  · exact (Cache.sow_toOffers_eq_holding context distinct).trans holds.symm
  · intro distinctNames made
    have new : made.2.cache made.1 = .new context := by simp [made, addCache]
    have start : h.Puts made.1 (.new context) made.2 := ⟨h.journal, rfl⟩
    obtain ⟨k, registered, puts⟩ := puts_registerAll start depth writable
    refine ⟨k, registered, ?_⟩
    rw [puts.cache_self]
    exact Cache.sow_eq_offers (nodup_offersOf writable distinctNames) nofun

/-- An integer and its text, in this order, with something else between them. -/
def collidingData : Value :=
  .map [(.int 42, .bool true), (.text "dom", .int 2), (.text "42", .int 0)]

/-- The value that comes last is read, at the place where the name comes first. -/
theorem seed_validation_exact_colliding :
    ∃ truths, Seed.parse "seed.yaml" collidingData = .ok truths ∧
      truths.entries = [("42", false), ("dom", true)] ∧
      ∃ seed, Seed.ofMapping (Seed.pairsOf (Seed.entriesIn collidingData)) = .ok seed ∧
        ((Cache.new .plain).sow seed).snapshot.entries =
          [(.text "42", some false), (.text "dom", some true)] := by
  obtain ⟨accepted, _, reads⟩ :=
    seed_validation_exact "seed.yaml" collidingData .plain 0 Host.empty
  have good : Seed.IsSeed collidingData := by
    apply Seed.IsSeed.map
    simp only [List.forall_mem_cons]
    exact ⟨⟨rfl, rfl⟩, ⟨rfl, rfl⟩, ⟨rfl, rfl⟩, nofun⟩
  have writable : ∀ e ∈ Seed.entriesIn collidingData, e.1.isWritable = true := by
    simp only [Seed.entriesIn, collidingData, List.forall_mem_cons]
    exact ⟨rfl, rfl, rfl, nofun⟩
  obtain ⟨truths, read⟩ := accepted.mpr ⟨good, writable⟩
  obtain ⟨rfl, _, seed, given, snapshot, _⟩ := reads truths read
  exact ⟨_, read, rfl, seed, given, snapshot⟩

/-- A mapping with an integer for its only name. -/
def integerNamed (n : Int) : Value := .map [(.int n, .bool true)]

theorem isSeed_integerNamed (n : Int) : Seed.IsSeed (integerNamed n) := by
  apply Seed.IsSeed.map
  simp only [List.forall_mem_cons]
  exact ⟨⟨rfl, rfl⟩, nofun⟩

/-- A name with too many digits is not read. -/
theorem parse_integerNamed {n : Int} (long : Numeral.isWritable n = false) (source : String) :
    Seed.parse source (integerNamed n) = .error .longInteger := by
  apply (Seed.parse_eq_error_iff ..).mpr
  have unwritable : (Value.int n).isWritable = false := long
  have wrong : Seed.Wrong (.int n, .bool true) (.badName (.int n)) := .long rfl unwritable
  have offends : Seed.Offends (integerNamed n) (.badName (.int n)) :=
    .item (List.forall_mem_nil _) wrong
  refine ⟨_, offends, ?_⟩
  rw [Seed.Cause.fault, Seed.Cause.isWritable, unwritable]
  rfl

/-- Not every seed is read: a name may have too many digits. -/
theorem not_every_seed_is_read :
    Seed.IsSeed (integerNamed (10 ^ Numeral.maxDigits)) ∧
      ¬ ((∃ truths, Seed.parse "seed.yaml" (integerNamed (10 ^ Numeral.maxDigits)) = .ok truths) ↔
        Seed.IsSeed (integerNamed (10 ^ Numeral.maxDigits))) := by
  have long := Numeral.isWritable_pow (Nat.le_refl Numeral.maxDigits)
  refine ⟨isSeed_integerNamed _, fun exact => ?_⟩
  obtain ⟨truths, read⟩ := exact.mpr (isSeed_integerNamed _)
  rw [parse_integerNamed long] at read
  cases read

end FeatureChoice
