/-!
Maps that keep the order in which their keys arrived. Putting a new value under a present key
leaves the key where it stands; erasing a key and putting it back moves it to the end.

Main statements: what each operation does to the two views of a map, its lookup (`get?_insert`,
`get?_erase`) and its list of keys (`keys_insert`, `keys_erase`), that both operations keep the
keys distinct (`nodup_keys_insert`, `nodup_keys_erase`), and what is in the map of a list of pairs
(`keys_ofList`, `get?_ofList`, `entries_ofList`).
-/

namespace FeatureChoice

universe u v w

/-- Bindings in order of arrival. -/
structure OrderedMap (κ : Type u) (α : Type v) where
  entries : List (κ × α)
  deriving DecidableEq, Repr

namespace OrderedMap

variable {κ : Type u} {α : Type v} {β : Type w}

def empty : OrderedMap κ α := ⟨[]⟩

instance : Inhabited (OrderedMap κ α) := ⟨empty⟩

def keys (m : OrderedMap κ α) : List κ := m.entries.map Prod.fst

def size (m : OrderedMap κ α) : Nat := m.entries.length

def mapValues (f : α → β) (m : OrderedMap κ α) : OrderedMap κ β :=
  ⟨m.entries.map fun binding => (binding.1, f binding.2)⟩

@[simp] theorem keys_empty : (empty : OrderedMap κ α).keys = [] := rfl

@[simp] theorem keys_mapValues (f : α → β) (m : OrderedMap κ α) :
    (m.mapValues f).keys = m.keys := by
  simp [keys, mapValues, Function.comp_def]

variable [DecidableEq κ]

def find (key : κ) : List (κ × α) → Option α
  | [] => none
  | (k, a) :: rest => if k = key then some a else find key rest

def put (key : κ) (value : α) : List (κ × α) → List (κ × α)
  | [] => [(key, value)]
  | (k, a) :: rest => if k = key then (key, value) :: rest else (k, a) :: put key value rest

def get? (m : OrderedMap κ α) (key : κ) : Option α := find key m.entries

/-- Whether a key is bound. -/
def contains (m : OrderedMap κ α) (key : κ) : Bool := (m.get? key).isSome

def insert (m : OrderedMap κ α) (key : κ) (value : α) : OrderedMap κ α :=
  ⟨put key value m.entries⟩

def erase (m : OrderedMap κ α) (key : κ) : OrderedMap κ α :=
  ⟨m.entries.filter fun binding => binding.1 ≠ key⟩

/-- Bind the pairs one after the other: the last value of a key wins, at the first one's place. -/
def ofList (pairs : List (κ × α)) : OrderedMap κ α :=
  pairs.foldl (fun m binding => m.insert binding.1 binding.2) empty

/-! ### Lookup -/

/-- Putting changes what is found under its own key alone. -/
theorem find_put (key other : κ) (value : α) (l : List (κ × α)) :
    find other (put key value l) = if other = key then some value else find other l := by
  induction l with
  | nil => simp [put, find, eq_comm]
  | cons head rest ih =>
    obtain ⟨k, a⟩ := head
    by_cases hk : k = key
    · subst hk
      by_cases ho : other = k
      · simp [put, find, ho]
      · simp [put, find, ho, Ne.symm ho]
    · by_cases ho : k = other
      · subst ho
        simp [put, find, hk]
      · simp [put, find, hk, ho, ih]

theorem find_filter (key other : κ) (l : List (κ × α)) :
    find other (l.filter fun binding => binding.1 ≠ key) =
      if other = key then none else find other l := by
  induction l with
  | nil => simp [find]
  | cons head rest ih =>
    obtain ⟨k, a⟩ := head
    by_cases hk : k = key
    · subst hk
      by_cases ho : other = k
      · subst ho
        simpa using ih
      · simpa [find, ho, Ne.symm ho] using ih
    · by_cases ho : k = other
      · subst ho
        simp [find, hk]
      · simpa [find, hk, ho] using ih

/-- What is found is among the bindings. -/
theorem mem_of_find {key : κ} {value : α} {l : List (κ × α)} (found : find key l = some value) :
    (key, value) ∈ l := by
  induction l with
  | nil => cases found
  | cons head rest ih =>
    obtain ⟨k, a⟩ := head
    by_cases hk : k = key
    · simp only [find, hk, if_true, Option.some.injEq] at found
      simp [hk, found]
    · simp only [find, hk, if_false] at found
      exact List.mem_cons_of_mem _ (ih found)

/-- After an insertion the key has its new value and every other key the old one. -/
theorem get?_insert (m : OrderedMap κ α) (key other : κ) (value : α) :
    (m.insert key value).get? other = if other = key then some value else m.get? other :=
  find_put key other value m.entries

/-- After an erasure the key is gone and every other key has its old value. -/
theorem get?_erase (m : OrderedMap κ α) (key other : κ) :
    (m.erase key).get? other = if other = key then none else m.get? other :=
  find_filter key other m.entries

@[simp] theorem get?_empty (key : κ) : (empty : OrderedMap κ α).get? key = none := rfl

@[simp] theorem get?_insert_self (m : OrderedMap κ α) (key : κ) (value : α) :
    (m.insert key value).get? key = some value := by simp [get?_insert]

/-! ### Keys -/

/-- The keys are what is contained. -/
theorem mem_keys_iff (m : OrderedMap κ α) (key : κ) : key ∈ m.keys ↔ m.contains key = true := by
  obtain ⟨l⟩ := m
  induction l with
  | nil => simp [keys, contains, get?, find]
  | cons head rest ih =>
    obtain ⟨k, a⟩ := head
    by_cases hk : k = key
    · simp [keys, contains, get?, find, hk]
    · simp only [keys, contains, get?, List.map_cons, List.mem_cons, find, hk, if_false,
        Ne.symm hk, false_or] at ih ⊢
      exact ih

theorem get?_eq_none_iff (m : OrderedMap κ α) (key : κ) : m.get? key = none ↔ key ∉ m.keys := by
  simp [mem_keys_iff, contains]

/-- A new key goes to the end; a present one keeps its place. -/
theorem keys_insert (m : OrderedMap κ α) (key : κ) (value : α) :
    (m.insert key value).keys = if key ∈ m.keys then m.keys else m.keys ++ [key] := by
  obtain ⟨l⟩ := m
  simp only [keys, insert]
  induction l with
  | nil => simp [put]
  | cons head rest ih =>
    obtain ⟨k, a⟩ := head
    by_cases hk : k = key
    · simp [put, hk]
    · by_cases hm : key ∈ rest.map Prod.fst <;> simp_all [put, Ne.symm hk]

/-- A new binding comes last, and the others stay. -/
theorem entries_insert_of_fresh {m : OrderedMap κ α} {key : κ} (fresh : key ∉ m.keys) (value : α) :
    (m.insert key value).entries = m.entries ++ [(key, value)] := by
  obtain ⟨l⟩ := m
  simp only [keys, insert] at fresh ⊢
  induction l with
  | nil => rfl
  | cons head rest ih =>
    obtain ⟨k, a⟩ := head
    have other : k ≠ key := fun same => fresh (same ▸ List.mem_cons_self)
    rw [put, if_neg other, ih fun mem => fresh (List.mem_cons_of_mem _ mem), List.cons_append]

/-- To bind a key to what it is bound to changes nothing. -/
theorem insert_of_get? {m : OrderedMap κ α} {key : κ} {value : α}
    (bound : m.get? key = some value) : m.insert key value = m := by
  obtain ⟨l⟩ := m
  simp only [get?, insert, OrderedMap.mk.injEq] at bound ⊢
  induction l with
  | nil => cases bound
  | cons head rest ih =>
    obtain ⟨k, a⟩ := head
    by_cases same : k = key
    · simp only [find, same, if_true, Option.some.injEq] at bound
      rw [put, if_pos same, same, bound]
    · simp only [find, same, if_false] at bound
      rw [put, if_neg same, ih bound]

/-- Removing a key leaves the other ones in their order. -/
theorem keys_erase (m : OrderedMap κ α) (key : κ) :
    (m.erase key).keys = m.keys.filter (· ≠ key) := by
  simp [keys, erase, List.filter_map, Function.comp_def]

theorem nodup_keys_insert {m : OrderedMap κ α} (distinct : m.keys.Nodup) (key : κ) (value : α) :
    (m.insert key value).keys.Nodup := by
  rw [keys_insert]
  split
  · exact distinct
  · next absent =>
    exact List.nodup_append.mpr ⟨distinct, by simp, by
      intro a ha b hb hab
      simp only [List.mem_singleton] at hb
      exact absent (hb ▸ hab ▸ ha)⟩

theorem nodup_keys_erase {m : OrderedMap κ α} (distinct : m.keys.Nodup) (key : κ) :
    (m.erase key).keys.Nodup := by
  rw [keys_erase]
  exact distinct.filter _

/-- With distinct keys, a key is bound to what it stands beside. -/
theorem get?_eq_some_iff {m : OrderedMap κ α} (distinct : m.keys.Nodup) {key : κ} {value : α} :
    m.get? key = some value ↔ (key, value) ∈ m.entries := by
  obtain ⟨l⟩ := m
  simp only [keys, get?] at distinct ⊢
  refine ⟨mem_of_find, fun mem => ?_⟩
  induction l with
  | nil => cases mem
  | cons head rest ih =>
    obtain ⟨k, a⟩ := head
    obtain ⟨fresh, distinct⟩ := List.nodup_cons.mp distinct
    rcases List.mem_cons.mp mem with same | later
    · cases same
      simp [find]
    · have other : k ≠ key := by
        rintro rfl
        exact fresh (List.mem_map.mpr ⟨_, later, rfl⟩)
      simp [find, other, ih distinct later]

/-! ### Maps of lists -/

/-- The last pair of a list is inserted last. -/
theorem ofList_concat (pairs : List (κ × α)) (key : κ) (value : α) :
    ofList (pairs ++ [(key, value)]) = (ofList pairs).insert key value := by
  simp [ofList]

/-- Every key stands where it comes first. -/
theorem keys_ofList (pairs : List (κ × α)) :
    (ofList pairs).keys = (pairs.map Prod.fst).eraseDups := by
  -- by induction from the last pair on
  rw [← pairs.reverse_reverse]
  induction pairs.reverse with
  | nil => rfl
  | cons b l ih =>
    obtain ⟨key, value⟩ := b
    rw [List.reverse_cons, ofList_concat, keys_insert, ih, List.map_append, List.eraseDups_append]
    generalize l.reverse.map Prod.fst = keys
    by_cases present : key ∈ keys
    · simp [List.removeAll, present]
    · simp [List.removeAll, present, List.eraseDups_cons]

/-- Every key has the value that comes with it last. -/
theorem get?_ofList (pairs : List (κ × α)) (key : κ) :
    (ofList pairs).get? key = find key pairs.reverse := by
  have rev := pairs.reverse_reverse
  generalize pairs.reverse = l at rev ⊢
  subst rev
  induction l with
  | nil => rfl
  | cons b l ih =>
    obtain ⟨k, a⟩ := b
    rw [List.reverse_cons, ofList_concat, get?_insert, ih, find]
    simp only [eq_comm]

/-- Pairs with distinct keys are the bindings. -/
theorem entries_ofList {pairs : List (κ × α)} (distinct : (pairs.map Prod.fst).Nodup) :
    (ofList pairs).entries = pairs := by
  have rev := pairs.reverse_reverse
  generalize pairs.reverse = l at rev
  subst rev
  induction l with
  | nil => rfl
  | cons b l ih =>
    obtain ⟨key, value⟩ := b
    rw [List.reverse_cons, List.map_append, List.nodup_append] at distinct
    have fresh : key ∉ (ofList l.reverse).keys := by
      rw [keys_ofList, List.mem_eraseDups]
      intro mem
      exact distinct.2.2 key mem key List.mem_cons_self rfl
    rw [List.reverse_cons, ofList_concat, entries_insert_of_fresh fresh, ih distinct.1]

/-- A map is the map of its bindings. -/
theorem ofList_entries {m : OrderedMap κ α} (distinct : m.keys.Nodup) : ofList m.entries = m :=
  congrArg OrderedMap.mk (entries_ofList distinct)

end OrderedMap

end FeatureChoice
