import FeatureChoice.Proofs.Number.DigitLimit
import FeatureChoice.Proofs.Seed.Loading
/-!
Which data is a seed, and what it says. Data is a seed if it is nothing or a mapping of names, texts
or integers, to truths or integers. Of other data the first item that is no item of a seed is
reported, and of a seed the first name that is an integer with too many digits.

* `Seed.IsSeed`, `Seed.readings`: seeds, and what their items say one after the other.
* `Seed.Wrong`, `Seed.Offends`: what is wrong with an item, and with data that is not read.
* `Seed.parse_eq_ok_iff`, `Seed.parse_eq_error_iff`: what comes of data.
-/

namespace FeatureChoice

namespace Seed

variable {entries : List (Value × Value)} {e : Value × Value} {data : Value} {cause : Cause}
  {seed truths : SeedTruths}

/-! ### Items -/

/-- Whether a value can name a feature in a seed: it is a text or an integer. -/
def isName : Value → Bool
  | .text _ | .int _ => true
  | _ => false

/-- Whether a value can be a truth in a seed: it is a truth or an integer. -/
def isTruth : Value → Bool
  | .bool _ | .int _ => true
  | _ => false

/-- An item of a seed. -/
structure IsItem (e : Value × Value) : Prop where
  name : isName e.1 = true
  truth : isTruth e.2 = true

/-- An item that is read: its name is no integer with too many digits. -/
structure IsRead (e : Value × Value) : Prop extends IsItem e where
  writable : e.1.isWritable = true

/-- What is wrong with an item that is not read. Its name is looked at first. -/
inductive Wrong (e : Value × Value) : Cause → Prop where
  | name (bad : isName e.1 = false) : Wrong e (.badName e.1)
  | long (named : isName e.1 = true) (unwritable : e.1.isWritable = false) : Wrong e (.badName e.1)
  | value (named : isName e.1 = true) (writable : e.1.isWritable = true)
    (bad : isTruth e.2 = false) : Wrong e (.badValue e.1 e.2)

/-- The text of the name that a value is. -/
def textOf : Value → Option String
  | .text s => some s
  | .int n => some (toString n)
  | _ => none

/-- What the items of a mapping say, one after the other. -/
def readings (entries : List (Value × Value)) : List (String × Bool) :=
  entries.filterMap fun e => (textOf e.1).map fun name => (name, e.2.truth)

/-- A value names a feature if it is a text or an integer that can be written. -/
theorem nameOf_eq (name : Value) :
    nameOf name = if isName name && name.isWritable then textOf name else none := by
  cases name <;> simp [nameOf, isName, textOf, Value.isWritable, Numeral.written?]

theorem truthOf_eq (value : Value) :
    truthOf value = if isTruth value then some value.truth else none := by
  cases value <;> simp [truthOf, isTruth, Value.truth]

theorem exists_textOf {name : Value} (named : isName name = true) :
    ∃ text, textOf name = some text := by
  cases name with
  | text s => exact ⟨s, rfl⟩
  | int n => exact ⟨toString n, rfl⟩
  | _ => cases named

/-- An item that is read yields its name and its truth. -/
theorem item_of_isRead (read : IsRead e) :
    ∃ text, textOf e.1 = some text ∧ item e.1 e.2 = .ok (text, e.2.truth) := by
  obtain ⟨text, same⟩ := exists_textOf read.name
  exact ⟨text, same, by simp [item, nameOf_eq, truthOf_eq, read.name, read.writable, read.truth, same]⟩

/-- An item that is wrong yields its cause. -/
theorem item_of_wrong (wrong : Wrong e cause) : item e.1 e.2 = .error cause := by
  cases wrong with
  | name bad => simp [item, nameOf_eq, bad]
  | long named unwritable => simp [item, nameOf_eq, unwritable]
  | value named writable bad =>
    obtain ⟨text, same⟩ := exists_textOf named
    simp [item, nameOf_eq, truthOf_eq, named, writable, bad, same]

/-- An item is read or something is wrong with it. -/
theorem isRead_or_wrong (e : Value × Value) : IsRead e ∨ ∃ cause, Wrong e cause := by
  cases named : isName e.1 with
  | false => exact .inr ⟨_, .name named⟩
  | true =>
    cases writable : e.1.isWritable with
    | false => exact .inr ⟨_, .long named writable⟩
    | true =>
      cases truth : isTruth e.2 with
      | false => exact .inr ⟨_, .value named writable truth⟩
      | true => exact .inl ⟨⟨named, truth⟩, writable⟩

/-! ### Data -/

/-- Items are read one after the other. -/
theorem items_of_isRead (read : ∀ e ∈ entries, IsRead e) (seed : SeedTruths) :
    items seed entries =
      .ok ((readings entries).foldl (fun m binding => m.insert binding.1 binding.2) seed) := by
  induction entries generalizing seed with
  | nil => rfl
  | cons e entries ih =>
    obtain ⟨text, named, first⟩ := item_of_isRead (read e List.mem_cons_self)
    rw [items, first]
    have rest := ih (fun other mem => read other (List.mem_cons_of_mem _ mem))
      (seed.insert text e.2.truth)
    simp only [readings, List.filterMap_cons, named, Option.map_some, List.foldl_cons]
    exact rest

/-- The first item with something wrong ends the reading. -/
theorem items_of_wrong {before after : List (Value × Value)} (read : ∀ e ∈ before, IsRead e)
    (wrong : Wrong e cause) (seed : SeedTruths) :
    items seed (before ++ e :: after) = .error cause := by
  induction before generalizing seed with
  | nil =>
    rw [List.nil_append, items, item_of_wrong wrong]
    rfl
  | cons head before ih =>
    obtain ⟨text, _, first⟩ := item_of_isRead (read head List.mem_cons_self)
    rw [List.cons_append, items, first]
    exact ih (fun other mem => read other (List.mem_cons_of_mem _ mem)) _

/-- Data that is a seed. -/
inductive IsSeed : Value → Prop where
  | none : IsSeed .none
  | map {entries : List (Value × Value)} (items : ∀ e ∈ entries, IsItem e) : IsSeed (.map entries)

/-- The entries of data that is a mapping. -/
def entriesIn : Value → List (Value × Value)
  | .map entries => entries
  | _ => []

/-- What is wrong with data that is not read: it is no mapping, or this is wrong with its first item
with something wrong. -/
inductive Offends : Value → Cause → Prop where
  | notMapping {data : Value} (something : data ≠ .none) (other : ∀ entries, data ≠ .map entries) :
    Offends data (.notMapping data)
  | item {before after : List (Value × Value)} {e : Value × Value} {cause : Cause}
    (read : ∀ e ∈ before, IsRead e) (wrong : Wrong e cause) :
    Offends (.map (before ++ e :: after)) cause

/-- A seed whose names can be written is read as its readings. -/
theorem ofData_of_isSeed (good : IsSeed data)
    (writable : ∀ e ∈ entriesIn data, e.1.isWritable = true) :
    ofData data = .ok (.ofList (readings (entriesIn data))) := by
  cases good with
  | none => rfl
  | map items => exact items_of_isRead (fun e mem => ⟨items e mem, writable e mem⟩) .empty

/-- Of data that offends the cause is found. -/
theorem ofData_of_offends (offends : Offends data cause) : ofData data = .error cause := by
  cases offends with
  | notMapping something other =>
    cases data with
    | none => exact absurd rfl something
    | map entries => exact absurd rfl (other entries)
    | _ => rfl
  | item read wrong => exact items_of_wrong read wrong .empty

/-- Either all items are read, or there is a first one with something wrong. -/
theorem isRead_or_exists_wrong (entries : List (Value × Value)) :
    (∀ e ∈ entries, IsRead e) ∨ ∃ before e after cause, entries = before ++ e :: after ∧
      (∀ e ∈ before, IsRead e) ∧ Wrong e cause := by
  induction entries with
  | nil => exact .inl nofun
  | cons head rest ih =>
    rcases isRead_or_wrong head with first | ⟨cause, wrong⟩
    · rcases ih with all | ⟨before, e, after, cause, rfl, read, wrong⟩
      · exact .inl (List.forall_mem_cons.mpr ⟨first, all⟩)
      · exact .inr ⟨head :: before, e, after, cause, rfl,
          List.forall_mem_cons.mpr ⟨first, read⟩, wrong⟩
    · exact .inr ⟨[], head, rest, cause, rfl, nofun, wrong⟩

/-- Data is read or something is wrong with it. -/
theorem isSeed_or_offends (data : Value) :
    (IsSeed data ∧ ∀ e ∈ entriesIn data, e.1.isWritable = true) ∨ ∃ cause, Offends data cause := by
  cases data with
  | none => exact .inl ⟨.none, nofun⟩
  | map entries =>
    rcases isRead_or_exists_wrong entries with all | ⟨before, e, after, cause, rfl, read, wrong⟩
    · exact .inl ⟨.map fun e mem => (all e mem).toIsItem, fun e mem => (all e mem).writable⟩
    · exact .inr ⟨cause, .item read wrong⟩
  | _ => exact .inr ⟨_, .notMapping nofun nofun⟩

/-- What is reported of a cause, which cannot be quoted if it holds an integer with too many
digits. -/
def Cause.fault (source : String) (cause : Cause) : Fault :=
  if cause.isWritable then .seed ⟨source, cause⟩ else .longInteger

/-- Data is read if it is a seed and its names can be written. -/
theorem parse_eq_ok_iff (source : String) (data : Value) (truths : SeedTruths) :
    parse source data = .ok truths ↔
      (IsSeed data ∧ ∀ e ∈ entriesIn data, e.1.isWritable = true) ∧
        truths = .ofList (readings (entriesIn data)) := by
  rcases isSeed_or_offends data with ⟨good, writable⟩ | ⟨cause, offends⟩
  · rw [parse_of_ok source (ofData_of_isSeed good writable), Except.ok.injEq, eq_comm]
    exact ⟨fun same => ⟨⟨good, writable⟩, same⟩, And.right⟩
  · have wrong := ofData_of_offends offends
    rw [parse_of_error source wrong]
    refine ⟨nofun, ?_⟩
    rintro ⟨⟨good, writable⟩, _⟩
    rw [ofData_of_isSeed good writable] at wrong
    cases wrong

/-- Other data is refused for what is wrong with it. -/
theorem parse_eq_error_iff (source : String) (data : Value) (fault : Fault) :
    parse source data = .error fault ↔ ∃ cause, Offends data cause ∧ fault = cause.fault source := by
  constructor
  · intro failed
    rcases isSeed_or_offends data with ⟨good, writable⟩ | ⟨cause, offends⟩
    · rw [parse_of_ok source (ofData_of_isSeed good writable)] at failed
      cases failed
    · rw [parse_of_error source (ofData_of_offends offends)] at failed
      cases failed
      exact ⟨cause, offends, rfl⟩
  · rintro ⟨cause, offends, rfl⟩
    exact parse_of_error source (ofData_of_offends offends)

end Seed

end FeatureChoice
