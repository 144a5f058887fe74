import FeatureChoice.Text.Quoted
import FeatureChoice.Value
/-!
Names of features. A host names a feature by a text or by an integer; an integer stands for its
decimal text. Truths and the absent value are kept as names of their own. A compound value cannot
name anything, and neither can an integer that has too many digits to be written; the one reads as a
feature that is not there, and the other cannot be read under at all.

Main statement: two names are the same feature exactly when they become equal after integers are
replaced by their decimal texts (`key_eq_iff`).
-/

namespace FeatureChoice

/-- The kinds of compound values, which cannot be keys. -/
inductive Compound where
  | list
  | map
  deriving DecidableEq, Repr

/-- A name as a host gives it. -/
inductive FeatureName where
  | text (s : String)
  | number (n : Int)
  | truth (b : Bool)
  | absent
  | compound (kind : Compound)
  deriving DecidableEq, Repr

/-- A name as a cache keeps it. -/
inductive Key where
  | text (s : String)
  | truth (b : Bool)
  | absent
  deriving DecidableEq, Repr

/-- Why a name has no key. -/
inductive NoKey where
  | compound (kind : Compound)
  /-- An integer has too many digits to be written. -/
  | longInteger
  deriving DecidableEq, Repr

namespace FeatureName

/-- A name with its integer replaced by the decimal text, where that can be written. -/
def normalize : FeatureName → FeatureName
  | .number n => ((Numeral.written? n).map .text).getD (.number n)
  | name => name

/-- The key of a name, or why it has none. -/
def key (name : FeatureName) : Except NoKey Key :=
  match name.normalize with
  | .text s => .ok (.text s)
  | .number _ => .error .longInteger
  | .truth b => .ok (.truth b)
  | .absent => .ok .absent
  | .compound kind => .error (.compound kind)

def key? (name : FeatureName) : Option Key := name.key.toOption

/-- The key to look for under a name. Under a compound value there is nothing to be found. -/
def sought (name : FeatureName) : Except NoKey (Option Key) :=
  match name.key with
  | .ok key => .ok (some key)
  | .error (.compound _) => .ok none
  | .error .longInteger => .error .longInteger

def compound? : FeatureName → Option Compound
  | .compound kind => some kind
  | _ => none

def toValue : FeatureName → Value
  | .text s => .text s
  | .number n => .int n
  | .truth b => .bool b
  | .absent => .none
  | .compound .list => .list []
  | .compound .map => .map []

/-- An integer becomes a text, or stays as it is if it cannot be written. -/
theorem normalize_number (n : Int) :
    normalize (.number n) = .number n ∨ ∃ s, normalize (.number n) = .text s := by
  cases written : Numeral.written? n with
  | none => exact .inl (by simp [normalize, written])
  | some s => exact .inr ⟨s, by simp [normalize, written]⟩

@[simp] theorem normalize_normalize (name : FeatureName) :
    name.normalize.normalize = name.normalize := by
  cases name with
  | number n =>
    rcases normalize_number n with same | ⟨s, text⟩
    · rw [same, same]
    · rw [text]
      rfl
  | _ => rfl

@[simp] theorem key_normalize (name : FeatureName) : name.normalize.key = name.key := by
  rw [key, key, normalize_normalize]

@[simp] theorem key?_normalize (name : FeatureName) : name.normalize.key? = name.key? := by
  rw [key?, key?, key_normalize]

/-- Names with a key are the same feature exactly when they are equal once integers are replaced by
their decimal texts. -/
theorem key_eq_iff {a b : FeatureName} {k : Key} (h : a.key = .ok k) :
    b.key = .ok k ↔ a.normalize = b.normalize := by
  unfold key at h ⊢
  generalize a.normalize = a at h ⊢
  generalize b.normalize = b
  cases a <;> cases b <;> simp_all [eq_comm]

theorem key?_eq_some_iff {name : FeatureName} {k : Key} : name.key? = some k ↔ name.key = .ok k := by
  rw [key?]
  cases name.key <;> simp [Except.toOption]

theorem sought_of_key? {name : FeatureName} {k : Key} (named : name.key? = some k) :
    name.sought = .ok (some k) := by
  rw [sought, key?_eq_some_iff.mp named]

/-- A name without a key reads as nothing, or cannot be read under. -/
theorem sought_of_unnamed {name : FeatureName} (unnamed : name.key? = none) :
    name.sought = .ok none ∨ name.sought = .error .longInteger := by
  rw [key?] at unnamed
  rw [sought]
  match named : name.key with
  | .ok key => rw [named] at unnamed; cases unnamed
  | .error (.compound _) => exact .inl rfl
  | .error .longInteger => exact .inr rfl

end FeatureName

namespace Key

def display : Key → String
  | .text s => Text.quoted s
  | .truth b => Value.displayBool b
  | .absent => "None"

def toName : Key → FeatureName
  | .text s => .text s
  | .truth b => .truth b
  | .absent => .absent

/-- The kind of a key in messages. -/
def kindName (k : Key) : String := k.toName.toValue.kindName

/-- A key is the key of the name that it is. -/
@[simp] theorem key_toName (k : Key) : k.toName.key = .ok k := by cases k <;> rfl

end Key

/-- A name is normalised to a key exactly if it has this key. -/
theorem FeatureName.normalize_eq_toName_iff (name : FeatureName) (key : Key) :
    name.normalize = key.toName ↔ name.key? = some key := by
  rw [key?_eq_some_iff, FeatureName.key]
  cases name.normalize <;> cases key <;> simp [Key.toName]

end FeatureChoice
