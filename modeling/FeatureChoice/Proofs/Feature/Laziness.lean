import FeatureChoice.Proofs.Feature.History
import FeatureChoice.Proofs.Feature.Quiet
import Mathlib.Data.List.Forall2
/-!
Lazy caches. A cache may hold a probe that another cache has already replaced by the truth of the
value that the probe returns. As long as probes do nothing but return a value, every operation finds
the same in both caches, and leaves them as they are to each other.

* `Probe.Returns`: the probes in question.
* `Cache.Lazier`: the relation between the two caches, kept by every change of a cache.
* `Host.coupled_query`, `Host.coupled_register`: what the operations find is the same.
* `Host.coupled_hastened`: so it is if only one of the registrations queries its feature at once.
-/

namespace FeatureChoice

variable {context : Context}

/-! ### Probes that return a value -/

/-- In a context a probe returns a value, whatever the host is like, and leaves all of the host but
the variables as it is. -/
def Probe.Returns (p : Probe) (context : Context) (v : Value) : Prop :=
  ∀ h : Host, ∃ ambient, ((p.body context).run .barred p.label context.element).outcome h =
    (.ok v, { h with ambient := ambient })

namespace Probe.Returns

variable {p : Probe} {v : Value}

/-- A probe that returns is called without a change of any cache. -/
theorem outcome_invoke (returns : p.Returns context v) (via : Access Host) {id : CacheId} {h : Host}
    (called : (h.cache id).context = context) :
    ∃ k, (Host.invoke via id p).outcome h = (.ok v.truth, k) ∧ k.cache = h.cache := by
  let noted := h.note (h.invocation p.label context)
  obtain ⟨ambient, answers⟩ := returns noted
  have completes := (over_barred via).script (p.body context) p.label context.element noted
  simp only [Hosted.host, Hosted.withHost, id_eq, answers] at completes
  have answered := completes.resolve_left (by simp)
  refine ⟨{ noted with ambient := ambient }, ?_, rfl⟩
  simp [Host.invoke, Run.outcome_bind, Run.outcome_map, Run.onHost_self, called, noted, answered,
    Except.map]

/-- A query of a feature whose probe returns stores the truth of what it returns. -/
theorem outcome_query (returns : p.Returns context v) {h : Host} {id : CacheId}
    {name : FeatureName} {key : Key} (called : (h.cache id).context = context)
    (named : name.key? = some key) (pending : (h.cache id).find? key = some (.pending p))
    (depth : Nat) :
    ∃ k, (Host.query (depth + 1) id name).outcome h = (.ok v.truth, k) ∧
      k.cache id = (h.cache id).store key (.resolved v.truth) := by
  obtain ⟨k, answered, same⟩ := returns.outcome_invoke (Host.access depth) called
  refine ⟨((Host.keep id key v.truth).outcome k).2, ?_, ?_⟩
  · rw [Host.query_of_pending named pending, Host.outcome_settle, answered]
    rfl
  · rw [Host.cache_keep, Caches.set, if_pos rfl, same]

end Probe.Returns

/-! ### Lazy entries and caches -/

/-- An entry beside one that is the same or holds what its probe returns. -/
inductive Entry.Lazier (context : Context) : Entry → Entry → Prop where
  | resolved (b : Bool) : Lazier context (.resolved b) (.resolved b)
  | pending {p v} (returns : p.Returns context v) : Lazier context (.pending p) (.pending p)
  | settled {p v} (returns : p.Returns context v) :
    Lazier context (.pending p) (.resolved v.truth)

/-- An offer beside one that is the same or has a probe replaced by the truth of what it returns. -/
inductive Offer.Lazier (context : Context) : Offer → Offer → Prop where
  | value (v : Value) : Lazier context (.value v) (.value v)
  | probe {p v} (returns : p.Returns context v) : Lazier context (.probe p) (.probe p)
  | settled {p v} (returns : p.Returns context v) :
    Lazier context (.probe p) (.value (.bool v.truth))

/-- Seeds for the same features, with such offers. -/
def Seed.Lazier (context : Context) : List (Key × Offer) → List (Key × Offer) → Prop :=
  List.Forall₂ fun b b' => b.1 = b'.1 ∧ b.2.Lazier context b'.2

/-- A cache beside one with the same features in the same order, some of which may have been settled
already. -/
structure Cache.Lazier (context : Context) (c c' : Cache) : Prop where
  left : c.context = context
  right : c'.context = context
  names : c'.names = c.names
  entries : ∀ key, Option.Rel (Entry.Lazier context) (c.find? key) (c'.find? key)

namespace Offer.Lazier

variable {o o' : Offer}

theorem isNothing_eq (lazier : o.Lazier context o') : o'.isNothing = o.isNothing := by
  cases lazier <;> rfl

/-- An offer that is lazier makes an entry that is. -/
theorem ofOffer (lazier : o.Lazier context o') :
    (Entry.ofOffer o).Lazier context (.ofOffer o') := by
  cases lazier with
  | value v => exact .resolved _
  | probe returns => exact .pending returns
  | @settled p v returns =>
    show Entry.Lazier context (.pending p) (.resolved v.truth)
    exact .settled returns

end Offer.Lazier

namespace Cache.Lazier

variable {c c' : Cache} {key : Key} {e e' : Entry} {o o' : Offer}

theorem contains_eq (lazier : c.Lazier context c') (key : Key) :
    c'.entries.contains key = c.entries.contains key := by
  rw [Bool.eq_iff_iff, ← OrderedMap.mem_keys_iff, ← OrderedMap.mem_keys_iff]
  exact iff_of_eq (congrArg (key ∈ ·) lazier.names)

theorem size_eq (lazier : c.Lazier context c') : c'.size = c.size := by
  have lengths := congrArg List.length lazier.names
  simp only [Cache.names, OrderedMap.keys, List.length_map] at lengths
  exact lengths

theorem store (lazier : c.Lazier context c') (entry : e.Lazier context e') :
    (c.store key e).Lazier context (c'.store key e') where
  left := lazier.left
  right := lazier.right
  names := by rw [names_store, names_store, lazier.names]
  entries other := by
    rw [find?_store, find?_store]
    split
    · exact .some entry
    · exact lazier.entries other

theorem remove (lazier : c.Lazier context c') : (c.remove key).Lazier context (c'.remove key) where
  left := lazier.left
  right := lazier.right
  names := by rw [names_remove, names_remove, lazier.names]
  entries other := by
    rw [find?_remove, find?_remove]
    split
    · exact .none
    · exact lazier.entries other

/-- An entry of the first cache may be settled when that of the second one has been. -/
theorem store_left (lazier : c.Lazier context c') {old : Entry} (found : c.find? key = some old)
    (found' : c'.find? key = some e') (entry : e.Lazier context e') :
    (c.store key e).Lazier context c' where
  left := lazier.left
  right := lazier.right
  names := by rw [names_store_of_found found, lazier.names]
  entries other := by
    rw [find?_store]
    split
    · next same =>
      rw [same, found']
      exact .some entry
    · exact lazier.entries other

/-- An entry of the second cache may be settled at any time. -/
theorem store_right (lazier : c.Lazier context c') {old : Entry} (found : c.find? key = some e)
    (found' : c'.find? key = some old) (entry : e.Lazier context e') :
    c.Lazier context (c'.store key e') where
  left := lazier.left
  right := lazier.right
  names := by rw [names_store_of_found found', lazier.names]
  entries other := by
    rw [find?_store]
    split
    · next same =>
      rw [same, found]
      exact .some entry
    · exact lazier.entries other

/-- A lazier offer leaves a lazier cache. -/
theorem offer (lazier : c.Lazier context c') (offers : o.Lazier context o') (force : Bool) :
    (c.offer key o force).Lazier context (c'.offer key o' force) := by
  rw [Cache.offer, Cache.offer, lazier.contains_eq, offers.isNothing_eq]
  split
  · exact lazier
  · split
    · exact lazier.remove
    · exact lazier.store offers.ofOffer

theorem new (context : Context) : (Cache.new context).Lazier context (.new context) :=
  ⟨rfl, rfl, rfl, fun _ => .none⟩

/-- A lazier seed makes a lazier cache. -/
theorem sow (lazier : c.Lazier context c') {seed seed' : List (Key × Offer)}
    (seeds : Seed.Lazier context seed seed') :
    (c.sow seed).Lazier context (c'.sow seed') := by
  induction seeds generalizing c c' with
  | nil => exact lazier
  | @cons b b' _ _ bindings _ ih =>
    obtain ⟨key, o⟩ := b
    obtain ⟨_, o'⟩ := b'
    obtain ⟨rfl, offers⟩ := bindings
    rw [Cache.sow, Cache.sow, offers.isNothing_eq]
    refine ih ?_
    split
    · exact lazier
    · exact lazier.store offers.ofOffer

end Cache.Lazier

/-! ### Operations on the caches -/

namespace Host

/-- A host whose cache is lazier than that of another one. -/
def Lazier (context : Context) (id : CacheId) (h h' : Host) : Prop :=
  (h.cache id).Lazier context (h'.cache id)

variable {id : CacheId} {o o' : Offer}

/-- A query comes to the same on a lazier cache, and both caches know the answer afterwards. -/
theorem coupled_query (depth : Nat) (name : FeatureName) :
    Run.Coupled Stop.IsFault (Lazier context id) Eq (query (depth + 1) id name)
      (query (depth + 1) id name) := by
  intro h h' lazier
  cases named : name.key? with
  | none =>
    rw [query_of_unnamed named, query_of_unnamed named]
    refine ⟨?_, lazier⟩
    rcases name.sought_of_unnamed named with sought | sought
    · rw [unnamed, sought]
      exact .answers rfl
    · rw [unnamed, sought]
      exact .stopped ⟨_, rfl⟩
  | some key =>
    have entries := lazier.entries key
    generalize found : (h.cache id).find? key = entry at entries
    generalize found' : (h'.cache id).find? key = entry' at entries
    cases entries with
    | none =>
      rw [query_of_missing named found, query_of_missing named found']
      exact ⟨.answers rfl, lazier⟩
    | some entries =>
      cases entries with
      | resolved b =>
        rw [query_of_resolved named found, query_of_resolved named found']
        exact ⟨.answers rfl, lazier⟩
      | pending returns =>
        obtain ⟨k, asked, stored⟩ := returns.outcome_query lazier.left named found depth
        obtain ⟨k', asked', stored'⟩ := returns.outcome_query lazier.right named found' depth
        rw [asked, asked']
        refine ⟨.answers rfl, ?_⟩
        rw [Lazier, stored, stored']
        exact lazier.store (.resolved _)
      | settled returns =>
        obtain ⟨k, asked, stored⟩ := returns.outcome_query lazier.left named found depth
        rw [asked, query_of_resolved named found']
        refine ⟨.answers rfl, ?_⟩
        rw [Lazier, stored]
        exact lazier.store_left found found' (.resolved _)

/-- A query of the second cache alone ends too, and the first one is still lazier. -/
theorem lazier_query_right (depth : Nat) {name : FeatureName} {key : Key} {h h' : Host}
    (named : name.key? = some key) (lazier : Lazier context id h h') :
    ∃ b k', (query (depth + 1) id name).outcome h' = (.ok b, k') ∧ Lazier context id h k' := by
  have entries := lazier.entries key
  generalize found : (h.cache id).find? key = entry at entries
  generalize found' : (h'.cache id).find? key = entry' at entries
  cases entries with
  | none => exact ⟨false, h', query_of_missing named found' _, lazier⟩
  | some entries =>
    cases entries with
    | resolved b => exact ⟨b, h', query_of_resolved named found' _, lazier⟩
    | settled returns => exact ⟨_, h', query_of_resolved named found' _, lazier⟩
    | pending returns =>
      obtain ⟨k', asked, stored⟩ := returns.outcome_query lazier.right named found' depth
      refine ⟨_, k', asked, ?_⟩
      rw [Lazier, stored]
      exact lazier.store_right found found' (.settled returns)

/-- What changes no cache keeps a host lazier. -/
theorem coupled_aside (f : Host → Host) (keeps : ∀ h id, (f h).cache id = h.cache id) :
    Run.Coupled Stop.IsFault (Lazier context id) Eq (change f).onHost (change f).onHost := by
  refine Run.Coupled.modify fun h h' lazier => ?_
  show Cache.Lazier context ((f h).cache id) ((f h').cache id)
  rw [keeps, keeps]
  exact lazier

/-- Entering a lazier offer keeps a host lazier. -/
theorem coupled_enter (offers : o.Lazier context o') (name : FeatureName) (force : Bool) :
    Run.Coupled Stop.IsFault (Lazier context id) Eq (enter id name o force)
      (enter id name o' force) := by
  intro h h' lazier
  cases named : name.key with
  | error e =>
    rw [outcome_enter_of_error named, outcome_enter_of_error named]
    exact ⟨.stopped ⟨_, rfl⟩, lazier⟩
  | ok key =>
    obtain ⟨k, entered, changed⟩ := outcome_enter named id o force h
    obtain ⟨k', entered', changed'⟩ := outcome_enter named id o' force h'
    rw [entered, entered']
    refine ⟨.answers rfl, ?_⟩
    simp only [Lazier, changed, changed', Caches.set, if_true]
    exact lazier.offer offers force

/-- Registering a lazier offer comes to the same and keeps a host lazier. -/
theorem coupled_register (offers : o.Lazier context o') (depth : Nat) (name : FeatureName)
    (now force : Bool) :
    Run.Coupled Stop.IsFault (Lazier context id) Eq (register (depth + 1) id name o now force)
      (register (depth + 1) id name o' now force) := by
  refine (coupled_enter offers name force).bind_eq fun _ => ?_
  cases now with
  | false => exact .pure rfl
  | true => exact (coupled_query depth name).map some

/-- Whether what is registered is queried at once makes no difference but for the answer. -/
theorem coupled_hastened (offers : o.Lazier context o') (depth : Nat) (name : FeatureName)
    (force : Bool) :
    Run.Coupled Stop.IsFault (Lazier context id)
      (fun answer answer' => answer = none ∧ answer'.isSome)
      (register (depth + 1) id name o false force)
      (register (depth + 1) id name o' true force) := by
  intro h h' lazier
  cases named : name.key with
  | error e =>
    rw [outcome_register_of_error named, outcome_register_of_error named]
    exact ⟨.stopped ⟨_, rfl⟩, lazier⟩
  | ok key =>
    obtain ⟨_, left⟩ := coupled_enter offers name force h h' lazier
    obtain ⟨k, entered, _⟩ := outcome_enter named id o force h
    obtain ⟨l, entered', _⟩ := outcome_enter named id o' force h'
    rw [entered, entered'] at left
    obtain ⟨b, k', asked, lazier'⟩ :=
      lazier_query_right depth (FeatureName.key?_eq_some_iff.mpr named) left
    rw [outcome_register entered, outcome_register entered', if_neg Bool.false_ne_true,
      if_pos rfl, Run.outcome_map, asked]
    exact ⟨.answers ⟨rfl, rfl⟩, lazier'⟩

end Host

end FeatureChoice
