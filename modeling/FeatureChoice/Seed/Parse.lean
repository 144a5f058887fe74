import FeatureChoice.Data.OrderedMap
import FeatureChoice.Host.Fault
/-!
Seeds: the truths of features that a host supplies as data. A seed is a mapping whose names are
texts or integers and whose values are truths or integers; no data at all is the empty seed.

Main statement: an item is accepted exactly when its name can name a feature and its value is a
truth or an integer (`item_ok_iff`).
-/

namespace FeatureChoice

abbrev SeedTruths := OrderedMap String Bool

namespace Seed

/-- The name of a feature, if a value can be one. -/
def nameOf : Value → Option String
  | .text s => some s
  | .int n => Numeral.written? n
  | _ => none

/-- The truth that a value of a seed stands for. -/
def truthOf : Value → Option Bool
  | .bool b => some b
  | .int n => some (n ≠ 0)
  | _ => none

def item (name value : Value) : Except Cause (String × Bool) :=
  match nameOf name, truthOf value with
  | some n, some b => .ok (n, b)
  | some _, none => .error (.badValue name value)
  | none, _ => .error (.badName name)

def items (seed : SeedTruths) : List (Value × Value) → Except Cause SeedTruths
  | [] => .ok seed
  | (name, value) :: rest => do
    let (n, b) ← item name value
    items (seed.insert n b) rest

/-- The seed in some data. -/
def ofData : Value → Except Cause SeedTruths
  | .none => .ok .empty
  | .map entries => items .empty entries
  | data => .error (.notMapping data)

/-- The seed in some data of a source. An integer with too many digits is a fault of its own, be it
a name or in what a message has to quote. -/
def parse (source : String) (data : Value) : Except Fault SeedTruths :=
  (ofData data).mapError fun cause =>
    if cause.isWritable then .seed ⟨source, cause⟩ else .longInteger

/-- An item is read exactly if its name and its truth are. -/
theorem item_ok_iff (name value : Value) (n : String) (b : Bool) :
    item name value = .ok (n, b) ↔ nameOf name = some n ∧ truthOf value = some b := by
  unfold item
  cases nameOf name <;> cases truthOf value <;> simp

end Seed

end FeatureChoice
