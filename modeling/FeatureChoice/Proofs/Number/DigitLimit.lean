import FeatureChoice.Feature.Query
import Mathlib.Algebra.Ring.Int.Defs
import Mathlib.Algebra.Ring.Nat
/-!
Integers beyond the limit on decimal digits. Such an integer has no decimal text, so as a name it
has no key, and whatever is done under it stops before anything happens.

* `Numeral.isWritable_iff`: which integers can be written.
* `FeatureName.overlong`, `FeatureName.overlongText`: the least positive integer that cannot be
  written, and the text that it would have.
* `Host.query_overlong`, `Host.register_overlong`, `Host.contains_overlong`: what comes of it as a
  name.
-/

namespace FeatureChoice

namespace Numeral

/-- An integer can be written if it has few enough digits. -/
theorem isWritable_iff (n : Int) : isWritable n = true ↔ n.natAbs < 10 ^ maxDigits := by
  rw [isWritable, decide_eq_true_iff]
  exact Nat.length_toDigits_le_iff (by decide) (by decide)

/-- A power of ten with more digits than the limit cannot be written. -/
theorem isWritable_pow {d : Nat} (long : maxDigits ≤ d) : isWritable (10 ^ d) = false := by
  have size : (10 ^ d : Int).natAbs = 10 ^ d := Int.natAbs_pow 10 d
  rw [← Bool.not_eq_true, isWritable_iff, size]
  exact Nat.not_lt.mpr (Nat.pow_le_pow_right (by decide) long)

end Numeral

namespace FeatureName

/-- The least positive integer that cannot be written. -/
def overlong : FeatureName := .number (10 ^ Numeral.maxDigits)

/-- Its digits. -/
def overlongText : FeatureName := .text (toString (10 ^ Numeral.maxDigits : Int))

theorem key_overlong : overlong.key = .error .longInteger := by
  have unwritten : Numeral.written? (10 ^ Numeral.maxDigits) = none := by
    rw [Numeral.written?, Numeral.isWritable_pow (Nat.le_refl _)]
    rfl
  rw [key, overlong, normalize, unwritten]
  rfl

theorem sought_overlong : overlong.sought = .error .longInteger := by
  rw [sought, key_overlong]

end FeatureName

namespace Host

open FeatureName (overlong)

/-- An integer that cannot be written cannot be queried. -/
theorem query_overlong (depth : Nat) (id : CacheId) (h : Host) :
    (query depth id overlong).outcome h = (.error (.fault .longInteger), h) := by
  have without : overlong.key? = none := by
    rw [FeatureName.key?, FeatureName.key_overlong]
    rfl
  rw [query_of_unnamed without, unnamed, FeatureName.sought_overlong]
  rfl

/-- Nothing can be registered under an integer that cannot be written. -/
theorem register_overlong (depth : Nat) (id : CacheId) (o : Offer) (now force : Bool) (h : Host) :
    (register depth id overlong o now force).outcome h = (.error (.fault .longInteger), h) :=
  outcome_register_of_error FeatureName.key_overlong depth id o now force h

/-- It cannot be asked for an integer that cannot be written whether it is there. -/
theorem contains_overlong (id : CacheId) (h : Host) :
    (readUnder Cache.contains id overlong).outcome h = (.error (.fault .longInteger), h) := by
  rw [outcome_readUnder, Cache.contains, FeatureName.sought_overlong]
  rfl

/-- The digits of such an integer are a name like any other text. -/
theorem query_overlongText {h : Host} {id : CacheId} (empty : (h.cache id).entries = .empty)
    (depth : Nat) : (query depth id FeatureName.overlongText).outcome h = (.ok false, h) := by
  have named : FeatureName.overlongText.key? =
      some (.text (toString (10 ^ Numeral.maxDigits : Int))) := rfl
  refine query_of_missing named ?_ depth
  rw [Cache.find?, empty]
  rfl

end Host

end FeatureChoice
