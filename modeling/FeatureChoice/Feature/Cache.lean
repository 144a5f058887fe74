import FeatureChoice.Data.OrderedMap
import FeatureChoice.Feature.Probe
/-!
Feature caches: for each feature a resolved truth or a probe that has not run yet, in the order in
which the features arrived. This module holds what can be read off a cache and how it is filled;
running probes is in `FeatureChoice.Feature.Query`.

Main statements: the reading operations agree with each other (`contains_iff`, `isPending_iff`),
and offering something for a feature changes that feature's entry alone (`get?_offer_of_ne`).
-/

namespace FeatureChoice

/-- What a host offers for a feature: a ready value, or a probe to be run later. -/
inductive Offer where
  | value (v : Value)
  | probe (p : Probe)
  deriving Inhabited

/-- What a cache holds for a feature. -/
inductive Entry where
  | resolved (b : Bool)
  | pending (p : Probe)

def Offer.nothing : Offer := .value .none

def Offer.isNothing : Offer → Bool
  | .value .none => true
  | _ => false

namespace Entry

def ofOffer : Offer → Entry
  | .value v => .resolved v.truth
  | .probe p => .pending p

def isPending : Entry → Bool
  | .resolved _ => false
  | .pending _ => true

/-- The truth, once it is known. -/
def result? : Entry → Option Bool
  | .resolved b => some b
  | .pending _ => none

def display : Entry → String
  | .resolved b => s!"Resolved({Value.displayBool b})"
  | .pending p => s!"Pending({p.title})"

theorem isPending_iff (e : Entry) : e.isPending = true ↔ e.result? = none := by
  cases e <;> simp [isPending, result?]

end Entry

/-- A cache: the context of its probes and an entry for each feature. -/
structure Cache where
  context : Context
  entries : OrderedMap Key Entry

namespace Cache

def new (context : Context) : Cache := ⟨context, .empty⟩

instance : Inhabited Cache := ⟨new .plain⟩

def find? (c : Cache) (key : Key) : Option Entry := c.entries.get? key

def contains (c : Cache) (name : FeatureName) : Except NoKey Bool :=
  name.sought.map fun key => key.any c.entries.contains

def isPending (c : Cache) (name : FeatureName) : Except NoKey Bool :=
  name.sought.map fun key => (key.bind c.find?).any Entry.isPending

def names (c : Cache) : List Key := c.entries.keys

def size (c : Cache) : Nat := c.entries.size

def snapshot (c : Cache) : OrderedMap Key (Option Bool) := c.entries.mapValues Entry.result?

def pendingCount (c : Cache) : Nat :=
  c.entries.entries.countP fun binding => binding.2.isPending

def display (c : Cache) : String :=
  s!"FeatureCache(features={c.size}, pending={c.pendingCount})"

/-- Set the entry of a feature. -/
def store (c : Cache) (key : Key) (e : Entry) : Cache :=
  { c with entries := c.entries.insert key e }

def remove (c : Cache) (key : Key) : Cache := { c with entries := c.entries.erase key }

/-- Offer something for a feature. An entry that is there stays, unless the offer is forced; a
forced offer of nothing removes it. -/
def offer (c : Cache) (key : Key) (o : Offer) (force : Bool) : Cache :=
  if c.entries.contains key && !force then c
  else if o.isNothing then c.remove key
  else c.store key (.ofOffer o)

/-! ### Seeds -/

/-- Copy the results that a host supplies; nothing is stored for one that is nothing. -/
def sow (c : Cache) : List (Key × Offer) → Cache
  | [] => c
  | (key, o) :: seed => (if o.isNothing then c else c.store key (.ofOffer o)).sow seed

/-! ### Laws -/

/-- A cache contains a name exactly if its key is among the names of the cache. -/
theorem contains_iff (c : Cache) (name : FeatureName) :
    c.contains name = .ok true ↔ ∃ key, name.key? = some key ∧ key ∈ c.names := by
  simp only [contains, names, OrderedMap.mem_keys_iff]
  cases named : name.key? with
  | none => rcases name.sought_of_unnamed named with eq | eq <;> simp [eq, Except.map]
  | some key => simp [name.sought_of_key? named, Except.map]

/-- A snapshot shows the results of the entries. -/
theorem get?_snapshot (c : Cache) (key : Key) :
    c.snapshot.get? key = (c.find? key).map Entry.result? := by
  obtain ⟨context, l⟩ := c
  obtain ⟨l⟩ := l
  simp only [snapshot, find?, OrderedMap.get?, OrderedMap.mapValues]
  induction l with
  | nil => rfl
  | cons head rest ih =>
    obtain ⟨k, e⟩ := head
    by_cases hk : k = key <;> simp [OrderedMap.find, hk, ih]

/-- A name is pending exactly if the snapshot shows its key without a result. -/
theorem isPending_iff (c : Cache) (name : FeatureName) :
    c.isPending name = .ok true ↔
      ∃ key, name.key? = some key ∧ c.snapshot.get? key = some none := by
  simp only [isPending, get?_snapshot]
  cases named : name.key? with
  | none => rcases name.sought_of_unnamed named with eq | eq <;> simp [eq, Except.map]
  | some key =>
    cases found : c.find? key <;>
      simp [name.sought_of_key? named, Except.map, found, Entry.isPending_iff]

theorem find?_store (c : Cache) (key other : Key) (e : Entry) :
    (c.store key e).find? other = if other = key then some e else c.find? other :=
  OrderedMap.get?_insert c.entries key other e

theorem find?_remove (c : Cache) (key other : Key) :
    (c.remove key).find? other = if other = key then none else c.find? other :=
  OrderedMap.get?_erase c.entries key other

/-- A new feature comes last; a present one keeps its place. -/
theorem names_store (c : Cache) (key : Key) (e : Entry) :
    (c.store key e).names = if key ∈ c.names then c.names else c.names ++ [key] :=
  OrderedMap.keys_insert c.entries key e

theorem names_remove (c : Cache) (key : Key) :
    (c.remove key).names = c.names.filter (· ≠ key) :=
  OrderedMap.keys_erase c.entries key

theorem find?_eq_none_iff (c : Cache) (key : Key) : c.find? key = none ↔ key ∉ c.names :=
  OrderedMap.get?_eq_none_iff c.entries key

/-- Replacing an entry does not move it. -/
theorem names_store_of_found {c : Cache} {key : Key} {old : Entry}
    (found : c.find? key = some old) (e : Entry) : (c.store key e).names = c.names := by
  have present : key ∈ c.names := by
    refine Decidable.of_not_not (mt (find?_eq_none_iff c key).mpr ?_)
    simp [found]
  rw [names_store, if_pos present]

/-- An offer leaves the other features alone. -/
theorem get?_offer_of_ne (c : Cache) {key other : Key} (h : other ≠ key) (o : Offer)
    (force : Bool) : (c.offer key o force).find? other = c.find? other := by
  unfold offer
  split
  · rfl
  · split <;> simp [find?, remove, store, OrderedMap.get?_erase, OrderedMap.get?_insert, h]

@[simp] theorem context_offer (c : Cache) (key : Key) (o : Offer) (force : Bool) :
    (c.offer key o force).context = c.context := by
  unfold offer
  split
  · rfl
  · split <;> rfl

end Cache

end FeatureChoice
