import FeatureChoice.Selection.Evaluate
/-!
Evaluation as a descent. Both evaluators of a host keep the decisions in a part of the state that
the guards cannot see, so each of them is a plain recursion on the tree, which returns the name at
the leaf together with the decisions on the way.

* `collects_evaluate`: a walk over the tree keeps the decisions that the descent returns.
* `selectBy_eq_descend`: the one-pass evaluator is the descent into the tree of its text.
-/

namespace FeatureChoice

universe u

/-- Follow the answers of the guards down a tree: the name at the leaf that is reached, with the
decisions on the way. -/
def Expression.Term.descend {m : Type → Type u} [Monad m] (ask : String → m Bool) :
    Expression.Term → m (Option String × List Decision)
  | .leaf name => pure (name, [])
  | .guarded feature whenTrue whenFalse => do
    let b ← ask feature
    let (value, decisions) ← (if b then whenTrue.descend ask else whenFalse.descend ask)
    pure (value, ⟨feature, b⟩ :: decisions)

variable {σ α : Type}

/-- A guard is asked first, and its answer is the first decision. -/
theorem outcome_descend_guarded (ask : String → Run σ Bool) (feature : String)
    (t u : Expression.Term) (s : σ) :
    ((Expression.Term.guarded feature t u).descend ask).outcome s =
      match (ask feature).outcome s with
      | (.ok b, s') =>
        let rest := ((if b then t else u).descend ask).outcome s'
        (rest.1.map fun found => (found.1, ⟨feature, b⟩ :: found.2), rest.2)
      | (.error stop, s') => (.error stop, s') := by
  rw [Expression.Term.descend, Run.outcome_bind]
  rcases (ask feature).outcome s with ⟨result, s'⟩
  cases result with
  | error stop => rfl
  | ok b =>
    dsimp only
    rw [bind_pure_comp, Run.outcome_map]
    cases b with
    | false => rfl
    | true => rfl

namespace Run

/-! ### Decisions kept and decisions returned -/

/-- A run that adds decisions to those made so far, beside a run that returns them. If they stop,
the decisions made until then stay known to the first one alone. -/
def Collects (x : Run (σ × List Decision) α) (y : Run σ (α × List Decision)) : Prop :=
  ∀ s made, ∃ more,
    x.outcome (s, made) =
      ((y.outcome s).1.map Prod.fst, ((y.outcome s).2, made ++ more)) ∧
    ∀ result, (y.outcome s).1 = .ok result → more = result.2

theorem collects_pure (a : α) : Collects (pure a : Run (σ × List Decision) α) (pure (a, [])) := by
  intro s made
  refine ⟨[], by simp [Except.map], ?_⟩
  rintro _ ⟨⟩
  rfl

/-- To visit a guard is to ask for it and to add the decision to those made so far. -/
def Visits (visit : Run (σ × List Decision) Bool) (feature : String) (ask : Run σ Bool) : Prop :=
  ∀ s made, visit.outcome (s, made) =
    match ask.outcome s with
    | (.ok b, s') => (.ok b, (s', made ++ [⟨feature, b⟩]))
    | (.error stop, s') => (.error stop, (s', made))

/-- What visits a guard and then collects the decisions below it collects its own first. -/
theorem Visits.collects {visit : Run (σ × List Decision) Bool} {feature : String}
    {ask : Run σ Bool} (visits : Visits visit feature ask)
    {next : Bool → Run (σ × List Decision) α} {next' : Bool → Run σ (α × List Decision)}
    (goesOn : ∀ b, Collects (next b) (next' b)) :
    Collects (visit >>= next) (do
      let b ← ask
      let (value, decisions) ← next' b
      pure (value, ⟨feature, b⟩ :: decisions)) := by
  intro s made
  have visited := visits s made
  rcases asked : ask.outcome s with ⟨answer, s'⟩
  rw [asked] at visited
  cases answer with
  | error stop =>
    rw [outcome_bind_of_error visited, outcome_bind_of_error asked]
    exact ⟨[], by simp [Except.map], by simp⟩
  | ok b =>
    obtain ⟨more, went, ends⟩ := goesOn b s' (made ++ [⟨feature, b⟩])
    rw [outcome_bind_of_ok visited, outcome_bind_of_ok asked, went]
    refine ⟨⟨feature, b⟩ :: more, ?_⟩
    rcases branch : (next' b).outcome s' with ⟨result, s''⟩
    rw [branch] at ends
    cases result with
    | error stop =>
      rw [outcome_bind_of_error branch]
      exact ⟨by simp [Except.map], by simp⟩
    | ok result =>
      rw [outcome_bind_of_ok branch, ends result rfl]
      refine ⟨by simp [Except.map], ?_⟩
      rintro _ ⟨⟩
      rfl

/-- To keep the decisions if the run ends is to return them. -/
theorem Collects.collecting {x : Run (σ × List Decision) α} {y : Run σ (α × List Decision)}
    (collects : Collects x y) : Run.collecting [] x = y := by
  apply Run.ext
  intro s
  obtain ⟨more, same, ends⟩ := collects s []
  simp only [outcome, Run.collecting] at same ends ⊢
  rw [same]
  rcases ended : y s with ⟨result, s'⟩
  rw [ended] at ends
  cases result with
  | error stop => rfl
  | ok result =>
    rw [ends result rfl]
    rfl

end Run

open Run

/-! ### The evaluators -/

theorem visits_decideBy (ask : FeatureName → Run σ Bool) (feature : String) :
    Visits (decideBy ask feature) feature (ask (.text feature)) := by
  intro s made
  simp only [decideBy, outcome_bind, outcome_onFirst]
  obtain ⟨answer, s'⟩ := (ask (.text feature)).outcome s
  cases answer <;> rfl

/-- A walk over a tree keeps the decisions that the descent returns. -/
theorem collects_evaluate {visit : String → Run (σ × List Decision) Bool}
    {ask : String → Run σ Bool}
    (visits : ∀ feature, Visits (visit feature) feature (ask feature)) (t : Expression.Term) :
    Collects (t.evaluate visit) (t.descend ask) := by
  induction t with
  | leaf name => exact collects_pure name
  | guarded feature t u iht ihu =>
    have goesOn : ∀ b : Bool, Collects (if b then t.evaluate visit else u.evaluate visit)
        (if b then t.descend ask else u.descend ask) := by
      intro b
      cases b with
      | false => exact ihu
      | true => exact iht
    exact (visits feature).collects goesOn

/-- Walking a tree collects the decisions of the descent. -/
theorem collects_walkBy (ask : FeatureName → Run σ Bool) (t : Expression.Term) :
    Collects (walkBy ask t) (t.descend fun feature => ask (.text feature)) :=
  collects_evaluate (visits_decideBy ask) t

variable [Hosted σ]

/-- Ask a guard and write the answer to the debug trace. -/
def tracedAsk (ask : FeatureName → Run σ Bool) (expression feature : String) : Run σ Bool := do
  let b ← ask (.text feature)
  (Host.change (·.trace (Trace.guardRow expression ⟨feature, b⟩))).onHost
  return b

/-- A guard of a traced evaluation is visited as it is asked. -/
theorem visits_traceBy (ask : FeatureName → Run σ Bool) (expression feature : String) :
    Visits (traceBy ask expression feature) feature (tracedAsk ask expression feature) := by
  intro s made
  have decided := visits_decideBy ask feature s made
  simp only [traceBy, tracedAsk, outcome_bind, decided]
  obtain ⟨answer, s'⟩ := (ask (.text feature)).outcome s
  cases answer <;> rfl

/-- The one-pass evaluator is the descent into the tree of its text, and a last row of the debug
trace. -/
theorem selectBy_eq_descend (ask : FeatureName → Run σ Bool) (expression : String) :
    selectBy ask expression = (do
      let (value, decisions) ← (Expression.parse expression).descend (tracedAsk ask expression)
      (Host.change (·.trace (Trace.selectedRow ⟨expression, value, decisions⟩))).onHost
      return ⟨expression, value, decisions⟩) := by
  have descends := collects_evaluate (visits_traceBy ask expression) (Expression.parse expression)
  rw [selectBy, Expression.choose_eq_evaluate, descends.collecting]

end FeatureChoice
