import FeatureChoice.Expression.Evaluate
import FeatureChoice.Host.Run
/-!
Evaluating expressions on a host, given what answers the guards. Every guard that is asked becomes
a decision; the one-pass evaluator also writes them to the debug trace. The state may be any that
has the host inside.

Main statement: the one-pass evaluator and the walk over the tree make the same decisions
(`choose_decideBy`).
-/

namespace FeatureChoice

abbrev Deciding := Host × List Decision

variable {σ : Type}

/-- Ask a guard and keep the decision. -/
def decideBy (ask : FeatureName → Run σ Bool) (feature : String) :
    Run (σ × List Decision) Bool := do
  let b ← (ask (.text feature)).onFirst
  modify fun s => (s.1, s.2 ++ [⟨feature, b⟩])
  return b

/-- Evaluate a tree; the decisions made so far stay known if it stops early. -/
def walkBy (ask : FeatureName → Run σ Bool) (t : Expression.Term) :
    Run (σ × List Decision) (Option String) :=
  t.evaluate (decideBy ask)

variable [Hosted σ]

/-- Ask a guard, keep the decision and write it to the debug trace. -/
def traceBy (ask : FeatureName → Run σ Bool) (expression feature : String) :
    Run (σ × List Decision) Bool := do
  let b ← decideBy ask feature
  (Host.change (·.trace (Trace.guardRow expression ⟨feature, b⟩))).onHost
  return b

/-- Evaluate an expression in one pass. -/
def selectBy (ask : FeatureName → Run σ Bool) (expression : String) : Run σ Selection := do
  let (value, decisions) ← Run.collecting [] (Expression.choose (traceBy ask expression) expression)
  let s : Selection := ⟨expression, value, decisions⟩
  (Host.change (·.trace (Trace.selectedRow s))).onHost
  return s

omit [Hosted σ] in
/-- Whatever is done at each guard, one pass over the text and the walk over its tree come to the
same. -/
theorem choose_decideBy (ask : FeatureName → Run σ Bool) (expression : String) :
    Expression.choose (decideBy ask) expression = walkBy ask (Expression.parse expression) :=
  Expression.choose_eq_evaluate _ _

end FeatureChoice
