import FeatureChoice.Expression.Term
/-!
Explanations: a term in which every guard is marked with its answer, or as not asked, and every
leaf as reached or not. Exactly one leaf is reached, and only guards on the way to it are asked.
-/

namespace FeatureChoice

/-- A term with what happened at each place of it. -/
inductive Explanation where
  | leaf (name : Option String) (reached : Bool)
  | guarded (feature : String) (answer : Option Bool) (whenTrue whenFalse : Explanation)
  deriving DecidableEq, Repr

namespace Explanation

def term : Explanation → Expression.Term
  | .leaf name _ => .leaf name
  | .guarded feature _ t u => .guarded feature t.term u.term

def results : Explanation → List (Option String)
  | .leaf name reached => if reached then [name] else []
  | .guarded _ _ t u => t.results ++ u.results

/-- The guards that were asked, with their answers, from top to bottom. -/
def asked : Explanation → List (String × Bool)
  | .leaf .. => []
  | .guarded feature answer t u =>
    (answer.map fun b => (feature, b)).toList ++ t.asked ++ u.asked

/-- A term of which nothing is reached. -/
def passed : Expression.Term → Explanation
  | .leaf name => .leaf name false
  | .guarded feature t u => .guarded feature none (passed t) (passed u)

@[simp] theorem term_passed (t : Expression.Term) : (passed t).term = t := by
  induction t with
  | leaf => rfl
  | guarded f t u iht ihu => simp [passed, term, iht, ihu]

@[simp] theorem results_passed (t : Expression.Term) : (passed t).results = [] := by
  induction t with
  | leaf => rfl
  | guarded f t u iht ihu => simp [passed, results, iht, ihu]

@[simp] theorem asked_passed (t : Expression.Term) : (passed t).asked = [] := by
  induction t with
  | leaf => rfl
  | guarded f t u iht ihu => simp [passed, asked, iht, ihu]

universe u

variable {m : Type → Type u} [Monad m]

/-- Explain a term to which the way was taken or not. Both branches of a guard are visited; the
guard is asked only on the way that was taken, and then its answer says which branch goes on with
it. -/
def visit (ask : String → m Bool) (taken : Bool) : Expression.Term → m Explanation
  | .leaf name => pure (.leaf name taken)
  | .guarded feature t u => do
    let answer ← (if taken then some <$> ask feature else pure none)
    let whenTrue ← visit ask (taken && answer.getD false) t
    let whenFalse ← visit ask (taken && !answer.getD false) u
    return .guarded feature answer whenTrue whenFalse

/-- Explain a term, asking the guards on the way to the leaf that is reached. -/
def of (ask : String → m Bool) (t : Expression.Term) : m Explanation := visit ask true t

/-- Off the way nothing is asked. -/
theorem visit_false [LawfulMonad m] (ask : String → m Bool) (t : Expression.Term) :
    visit ask false t = pure (passed t) := by
  induction t with
  | leaf name => rfl
  | guarded f t u iht ihu => simp [visit, passed, iht, ihu]

/-- A guard on the way is asked, and its answer says where the way goes on. -/
theorem of_guarded [LawfulMonad m] (ask : String → m Bool) (feature : String)
    (t u : Expression.Term) :
    of ask (.guarded feature t u) = (do
      let b ← ask feature
      if b then return .guarded feature (some b) (← of ask t) (passed u)
      else return .guarded feature (some b) (passed t) (← of ask u)) := by
  simp only [of, visit, if_true, bind_map_left]
  congr 1
  funext b
  cases b <;> simp [visit_false]

end Explanation

end FeatureChoice
