import FeatureChoice.Proofs.Run.Comparison
/-!
The two evaluators of a host agree. The one-pass evaluator writes to the debug trace between the
guards, so the guards it asks start from hosts with another log than those that a walk over the
tree asks. Nothing that probes do depends on the log.

* `Host.agree_query`: a query does the same to hosts that differ in the log.
* `Host.select_agrees_walk`: evaluating an expression in one pass and walking over its tree come to
  the same.
-/

namespace FeatureChoice

/-- Doing the same to hosts that differ in the log, as a comparison. -/
def agreement : Comparison Host Host where
  Rel := Run.Agree
  pure := .pure
  throw := .throw
  bind := .bind
  attempt := .attempt
  neutral := Host.Neutral.agree

namespace Host

theorem agree_setCache (id : CacheId) (f : Host → Cache)
    (sees : ∀ h journal tracing, f h = f { h with journal := journal, tracing := tracing }) :
    Run.Agree (change fun h => h.setCache id (f h)) (change fun h => h.setCache id (f h)) := by
  apply Run.Agree.change
  intro h journal tracing
  rw [← sees h journal tracing]
  exact ⟨journal, tracing, rfl⟩

/-- Entering comes to the same on hosts that differ in their logs. -/
theorem agree_enter (id : CacheId) (name : FeatureName) (o : Offer) (force : Bool) :
    Run.Agree (enter id name o force) (enter id name o force) := by
  unfold enter
  cases name.key with
  | error kind => exact .throw _
  | ok key =>
    refine (neutral_cache id).agree.bind fun c => ?_
    have sets := agree_setCache id (fun _ => c.offer key o force) fun _ _ _ => rfl
    cases c.entries.contains key && !force with
    | false => exact sets
    | true => exact (neutral_say _ _).agree.bind fun _ => sets

theorem agree_keep (id : CacheId) (key : Key) (b : Bool) :
    Run.Agree (keep id key b) (keep id key b) := by
  have stores := agree_setCache id (fun h => (h.cache id).store key (.resolved b)) fun _ _ _ => rfl
  exact stores.bind fun _ => (neutral_say _ _).agree

/-- A query does the same to hosts that differ in the log, whatever probes do. -/
theorem agree_query (depth : Nat) (id : CacheId) (name : FeatureName) :
    Run.Agree (query depth id name) (query depth id name) := by
  induction depth generalizing id name with
  | zero => exact agreement.lookUp (fun _ _ => .throw _) id name
  | succ depth ih =>
    have ways : agreement.Over ⟨query depth, enter⟩ ⟨query depth, enter⟩ := ⟨ih, agree_enter⟩
    refine agreement.lookUp (fun key p => ?_) id name
    exact (ways.invoke id p).bind fun b => (agree_keep id key b).bind fun _ => .pure b

/-- Access agrees with itself on hosts that differ in their logs. -/
theorem over_access (depth : Nat) : agreement.Over (access depth) (access depth) :=
  ⟨agree_query depth, agree_enter⟩

/-- Follow the answers of a cache down a tree. -/
def follow (depth : Nat) (id : CacheId) (t : Expression.Term) :
    Run Host (Option String × List Decision) :=
  t.descend fun feature => query depth id (.text feature)

/-- A guard is asked first, and its answer is the first decision. -/
theorem outcome_follow_guarded (depth : Nat) (id : CacheId) (feature : String)
    (t u : Expression.Term) (h : Host) :
    (follow depth id (.guarded feature t u)).outcome h =
      match (query depth id (.text feature)).outcome h with
      | (.ok b, h') =>
        let found := (follow depth id (if b then t else u)).outcome h'
        (found.1.map fun result => (result.1, ⟨feature, b⟩ :: result.2), found.2)
      | (.error stop, h') => (.error stop, h') := by
  rw [follow, outcome_descend_guarded]
  rcases (query depth id (.text feature)).outcome h with ⟨answer, h'⟩
  cases answer with
  | error stop => rfl
  | ok b => rfl

/-- A walk over a tree keeps the decisions that are made on the way. -/
theorem collects_walk (depth : Nat) (id : CacheId) (t : Expression.Term) :
    Run.Collects (walk depth id t) (follow depth id t) :=
  collects_walkBy (query depth id) t

/-- The rows that the one-pass evaluator writes make no difference to its selection. -/
theorem outcome_select (depth : Nat) (id : CacheId) (expression : String) (h : Host) :
    let found := (follow depth id (Expression.parse expression)).outcome h
    let selected := (select depth id expression).outcome h
    selected.1 = found.1.map (fun result => ⟨expression, result.1, result.2⟩) ∧
      selected.2.Alike found.2 := by
  have eq : select depth id expression = _ := selectBy_eq_descend (query depth id) expression
  have guards : ∀ feature, Run.Agree (tracedAsk (query depth id) expression feature)
      (query depth id (.text feature)) := by
    intro feature
    rw [← bind_pure (query depth id (.text feature))]
    exact (agree_query depth id _).bind fun b => Run.Agree.traced _ (.pure b)
  have agree : Run.Agree (select depth id expression)
      ((fun result => ⟨expression, result.1, result.2⟩) <$>
        follow depth id (Expression.parse expression)) := by
    rw [eq, ← bind_pure_comp]
    exact (agreement.descend guards _).bind fun found => Run.Agree.traced _ (.pure _)
  obtain ⟨same, left⟩ := agree h h (.refl h)
  rw [Run.outcome_map] at same left
  exact ⟨same, left⟩

/-- Evaluating an expression in one pass and walking over its tree come to the same, on every cache
and with all probes: they end with the same name and the same decisions, or stop in the same way;
and they leave the same caches, with the same calls of probes, and differ in the log alone. -/
theorem select_agrees_walk (depth : Nat) (id : CacheId) (expression : String) (h : Host) :
    let selected := (select depth id expression).outcome h
    let walked := (walk depth id (Expression.parse expression)).outcome (h, [])
    selected.1 = walked.1.map (fun value => ⟨expression, value, walked.2.2⟩) ∧
      selected.2.Alike walked.2.1 := by
  obtain ⟨same, left⟩ := outcome_select depth id expression h
  obtain ⟨more, walked, ends⟩ := collects_walk depth id (Expression.parse expression) h []
  rcases found : (follow depth id (Expression.parse expression)).outcome h with ⟨result, k⟩
  simp only [found] at same left walked ends
  simp only [walked]
  cases result with
  | error stop => exact ⟨same, left⟩
  | ok result =>
    rw [ends result rfl]
    exact ⟨same, left⟩

end Host

end FeatureChoice
