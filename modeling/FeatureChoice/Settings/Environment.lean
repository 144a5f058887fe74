import FeatureChoice.Data.OrderedMap
/-!
The environment of a program: variables by name. A name with an equals sign in it, or a null
character anywhere, cannot be handed to the system.
-/

namespace FeatureChoice

abbrev Environment := OrderedMap String String

/-- Why a variable cannot be set. -/
inductive VariableError where
  | nullByte
  | badName
  deriving DecidableEq, Repr

def VariableError.message : VariableError → String
  | .nullByte => "embedded null byte"
  | .badName => "illegal environment variable name"

namespace Environment

def set (env : Environment) (name value : String) : Except VariableError Environment :=
  if name.toList.any (·.toNat = 0) || value.toList.any (·.toNat = 0) then .error .nullByte
  else if name.toList.contains '=' then .error .badName
  else .ok (env.insert name value)

def unset (env : Environment) (name : String) : Environment := env.erase name

/-- A variable that is set has its new value, and the others keep theirs. -/
theorem get?_set {env env' : Environment} {name value : String}
    (h : env.set name value = .ok env') (other : String) :
    env'.get? other = if other = name then some value else env.get? other := by
  unfold set at h
  split at h
  · simp at h
  · split at h
    · simp at h
    · simp only [Except.ok.injEq] at h
      rw [← h, OrderedMap.get?_insert]

end Environment

end FeatureChoice
