import FeatureChoice.Proofs.Expression.Grammar
import FeatureChoice.Proofs.Selection.Agreement
/-!
The meaning of a conditional, put together from the meanings of its parts. In front of the branch
mark an empty branch is absent, and by itself it is an empty name; neither selects anything, so the
first branch is compared by what it selects. The second branch may be any text.

* `Host.outcome_select_guarded`: an expression with an answered guard goes on with a branch.
* `Host.follow_term`: a derivation selects the same wherever it stands.
* `Host.select_conditional`: evaluating a conditional asks its guard and then evaluates one branch.
* `Host.select_followed`: text behind a derivation and a branch mark makes no difference.
-/

namespace FeatureChoice.Host

open Expression

variable {depth : Nat} {id : CacheId} {h h' : Host}

/-! ### Guards in front -/

/-- If the first guard stops, nothing else is done. -/
theorem outcome_select_of_stopped {expression feature : String} {t u : Term} {stop : Stop}
    (read : parse expression = .guarded feature t u)
    (stopped : (query depth id (.text feature)).outcome h = (.error stop, h')) :
    (select depth id expression).outcome h = (.error stop, h') := by
  have eq : select depth id expression = _ := selectBy_eq_descend (query depth id) expression
  have traced : (tracedAsk (query depth id) expression feature).outcome h = (.error stop, h') :=
    Run.outcome_bind_of_error stopped _
  have descended : ((Term.guarded feature t u).descend
      (tracedAsk (query depth id) expression)).outcome h = (.error stop, h') :=
    Run.outcome_bind_of_error traced _
  rw [eq, read]
  exact Run.outcome_bind_of_error descended _

/-- Once the first guard is answered, the evaluation goes on with one of the branches. -/
theorem outcome_select_guarded {expression feature : String} {t u : Term} {b : Bool}
    (read : parse expression = .guarded feature t u)
    (asked : (query depth id (.text feature)).outcome h = (.ok b, h')) :
    let found := (follow depth id (if b then t else u)).outcome h'
    let selected := (select depth id expression).outcome h
    selected.1 = found.1.map
        (fun result => ⟨expression, result.1, ⟨feature, b⟩ :: result.2⟩) ∧
      selected.2.Alike found.2 := by
  intro found selected
  obtain ⟨same, left⟩ := outcome_select depth id expression h
  rw [read, outcome_follow_guarded, asked] at same left
  refine ⟨same.trans ?_, left⟩
  show (found.1.map _).map _ = _
  cases found.1 <;> rfl

/-! ### Branches -/

/-- What a name at a leaf selects. -/
def picks (value : Option String) : Option String := value.filter fun name => name ≠ ""

/-- A derivation selects the same wherever it stands, with the same decisions and leaving the same
host. -/
theorem follow_term (d : Derivation) (last last' : Bool) (h : Host) :
    let found := (follow depth id (d.term last)).outcome h
    let found' := (follow depth id (d.term last')).outcome h
    found.1.map (fun result => (picks result.1, result.2)) =
        found'.1.map (fun result => (picks result.1, result.2)) ∧
      found.2 = found'.2 := by
  induction d generalizing last last' h with
  | empty => cases last <;> cases last' <;> exact ⟨rfl, rfl⟩
  | name n => exact ⟨rfl, rfl⟩
  | conditional guard t u _ ihu =>
    simp only [Derivation.term, outcome_follow_guarded]
    obtain ⟨answer, h'⟩ := (query depth id (.text guard.text)).outcome h
    cases answer with
    | error stop => exact ⟨rfl, rfl⟩
    | ok b =>
      cases b with
      -- the first branch stands in front of a mark either way, only the second one differs
      | true => exact ⟨rfl, rfl⟩
      | false =>
        obtain ⟨same, left⟩ := ihu last last' h'
        have first : ∀ found : Except Stop (Option String × List Decision),
            (found.map fun result => (result.1, ⟨guard.text, false⟩ :: result.2)).map
                (fun result => (picks result.1, result.2)) =
              (found.map fun result => (picks result.1, result.2)).map
                fun result => (result.1, ⟨guard.text, false⟩ :: result.2) := by
          intro found
          cases found <;> rfl
        refine ⟨?_, left⟩
        rw [first, first]
        exact congrArg _ same

/-! ### Conditionals -/

/-- Evaluating a conditional asks its guard first. If that stops, nothing else is done. If the guard
is true, what is selected and all that is done besides is what evaluating the first branch alone
comes to from there. If it is false, the name at the leaf and all that is done besides is what
evaluating the second text alone comes to from there. -/
theorem select_conditional (guard : Name) (d : Derivation) (after : String) (depth : Nat)
    (id : CacheId) (h : Host) :
    let expression := guard.text ++ "?" ++ d.text ++ ":" ++ after
    let selected := (select depth id expression).outcome h
    match (query depth id (.text guard.text)).outcome h with
    | (.error stop, h') => selected = (.error stop, h')
    | (.ok true, h') =>
      let alone := (select depth id d.text).outcome h'
      selected.1.map (fun s => (s.identifier, s.decisions)) =
          alone.1.map (fun s => (s.identifier, ⟨guard.text, true⟩ :: s.decisions)) ∧
        selected.2.Alike alone.2
    | (.ok false, h') =>
      let alone := (select depth id after).outcome h'
      selected.1 =
          alone.1.map (fun s => ⟨expression, s.value, ⟨guard.text, false⟩ :: s.decisions⟩) ∧
        selected.2.Alike alone.2 := by
  intro expression selected
  have read : parse expression = .guarded guard.text (d.term false) (parse after) :=
    Derivation.parse_conditional guard d after
  rcases asked : (query depth id (.text guard.text)).outcome h with ⟨answer, h'⟩
  cases answer with
  | error stop => exact outcome_select_of_stopped read asked
  | ok b =>
    obtain ⟨whole, left⟩ := outcome_select_guarded read asked
    cases b with
    | true =>
      obtain ⟨alone, leftAlone⟩ := outcome_select depth id d.text h'
      obtain ⟨same, sameHost⟩ := follow_term d false true h'
      rw [Derivation.parse_text] at alone leftAlone
      refine ⟨?_, left.trans (sameHost ▸ leftAlone.symm)⟩
      -- both sides are what the tree selects, with the decision on the guard in front
      let withGuard := fun picked : Option String × List Decision =>
        (picked.1, (⟨guard.text, true⟩ : Decision) :: picked.2)
      calc selected.1.map (fun s => (s.identifier, s.decisions))
        _ = (((follow depth id (d.term false)).outcome h').1.map
              (fun result => (picks result.1, result.2))).map withGuard := by
          refine (congrArg _ whole).trans ?_
          show (((follow depth id (d.term false)).outcome h').1.map _).map _ = _
          cases ((follow depth id (d.term false)).outcome h').1 <;> rfl
        _ = (((follow depth id (d.term true)).outcome h').1.map
              (fun result => (picks result.1, result.2))).map withGuard := by rw [same]
        _ = ((select depth id d.text).outcome h').1.map
              (fun s => (s.identifier, ⟨guard.text, true⟩ :: s.decisions)) := by
          rw [alone]
          cases ((follow depth id (d.term true)).outcome h').1 <;> rfl
    | false =>
      obtain ⟨alone, leftAlone⟩ := outcome_select depth id after h'
      refine ⟨whole.trans ?_, left.trans leftAlone.symm⟩
      rw [alone]
      show ((follow depth id (parse after)).outcome h').1.map _ = _
      cases ((follow depth id (parse after)).outcome h').1 <;> rfl

/-! ### Texts behind a derivation -/

/-- What an evaluation selects, and what it decides on the way, is what a descent into the tree of
its text does. -/
theorem identified_select (depth : Nat) (id : CacheId) (expression : String) (h : Host) :
    ((select depth id expression).outcome h).1.map (fun s => (s.identifier, s.decisions)) =
      ((follow depth id (parse expression)).outcome h).1.map
        fun result => (picks result.1, result.2) := by
  rw [(outcome_select depth id expression h).1]
  cases ((follow depth id (parse expression)).outcome h).1 <;> rfl

/-- Text behind a derivation and a branch mark makes no difference, whatever it is, for no guard in
it is asked and no name in it is selected: the evaluation selects the same with the same decisions,
or stops in the same way, and leaves the same caches with the same calls of probes. What is read is
the tree of the derivation alone, with the last leaf absent if it was empty. -/
theorem select_followed (d : Derivation) (after : String) (depth : Nat) (id : CacheId) (h : Host) :
    let expression := d.text ++ ":" ++ after
    let whole := (select depth id expression).outcome h
    let alone := (select depth id d.text).outcome h
    whole.1.map (fun s => (s.identifier, s.decisions)) =
        alone.1.map (fun s => (s.identifier, s.decisions)) ∧
      whole.2.Alike alone.2 ∧
      parse expression = (parse d.text).leaveOpen := by
  intro expression whole alone
  have read : parse expression = d.term false := d.parse_followed after
  obtain ⟨same, sameHost⟩ := follow_term d false true h
  obtain ⟨_, left⟩ := outcome_select depth id expression h
  obtain ⟨_, leftAlone⟩ := outcome_select depth id d.text h
  rw [read] at left
  rw [d.parse_text] at leftAlone
  refine ⟨?_, left.trans (sameHost ▸ leftAlone.symm), ?_⟩
  · rw [identified_select, identified_select, read, d.parse_text]
    exact same
  · rw [read, d.parse_text, d.leaveOpen_term]

end FeatureChoice.Host
