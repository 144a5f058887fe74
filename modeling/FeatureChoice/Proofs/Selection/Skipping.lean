import FeatureChoice.Proofs.Expression.Reading
import FeatureChoice.Proofs.Selection.Descent
import FeatureChoice.Feature.Query
/-!
Evaluation as a recursion with a flag: a call evaluates the term at its cursor, or passes over it.
A call that passes over keeps step with the reader and does nothing else; one that evaluates stops
short of the reader's cursor as soon as a guard is true, and sees no token that it does not read.

* `Returns`: the calls that return, in both modes, over any state in which guards are asked.
* `returns_passing_iff`: a call that passes over a term.
* `returns_choosing_iff`: a call that evaluates a term is a run of the one-pass evaluator.
* `Returns.elsewhere`, `outcome_choose_elsewhere`: tokens that are not read make no difference.
* `Returns.position_le`: where a call that evaluates a term stops.
* `Host.skipping_keeps_step`: these for the caches of a host.
-/

namespace FeatureChoice

open Expression (Cursor)

variable {σ : Type}

/-! ### Calls -/

/-- A call that returns: the decisions that it adds, its value, the cursor that it leaves and the
state after it. A call that passes over a guard passes over both terms behind it. -/
inductive Returns (ask : String → Run σ Bool) : (passing : Bool) → Cursor → σ →
    List Decision → Option String → Cursor → σ → Prop where
  | mark {passing : Bool} {c : Cursor} {s : σ} (mark : c.AtMark) :
      Returns ask passing c s [] none (c.after 1) s
  | leaf {passing : Bool} {c : Cursor} {s : σ} (leaf : c.AtLeaf) :
      Returns ask passing c s [] c.next.1 (c.after 2) s
  | whenTrue {c c' : Cursor} {feature : String} {s k l : σ} {ds : List Decision}
      {v : Option String} (guard : c.AtGuard feature)
      (asked : (ask feature).outcome s = (.ok true, k))
      (first : Returns ask false (c.after 2) k ds v c' l) :
      Returns ask false c s (⟨feature, true⟩ :: ds) v c' l
  | whenFalse {c c₁ c₂ : Cursor} {feature : String} {s k k' l : σ} {ds ds' : List Decision}
      {v w : Option String} (guard : c.AtGuard feature)
      (asked : (ask feature).outcome s = (.ok false, k))
      (first : Returns ask true (c.after 2) k ds v c₁ k')
      (second : Returns ask false c₁ k' ds' w c₂ l) :
      Returns ask false c s (⟨feature, false⟩ :: (ds ++ ds')) w c₂ l
  | passed {c c₁ c₂ : Cursor} {feature : String} {s k l : σ} {ds ds' : List Decision}
      {v w : Option String} (guard : c.AtGuard feature)
      (first : Returns ask true (c.after 2) s ds v c₁ k)
      (second : Returns ask true c₁ k ds' w c₂ l) :
      Returns ask true c s (ds ++ ds') w c₂ l

variable {ask : String → Run σ Bool} {passing : Bool} {c c' d : Cursor} {s k : σ}
  {ds : List Decision} {v : Option String}

/-- A call at a branch mark returns nothing. -/
theorem returns_mark_iff (mark : c.AtMark) :
    Returns ask passing c s ds v c' k ↔ ds = [] ∧ v = none ∧ c' = c.after 1 ∧ k = s := by
  constructor
  · intro returns
    cases returns with
    | mark => exact ⟨rfl, rfl, rfl, rfl⟩
    | leaf leaf => exact (mark.not_atLeaf leaf).elim
    | whenTrue guard => exact (mark.not_atGuard guard).elim
    | whenFalse guard => exact (mark.not_atGuard guard).elim
    | passed guard => exact (mark.not_atGuard guard).elim
  · rintro ⟨rfl, rfl, rfl, rfl⟩
    exact .mark mark

/-- A call at a leaf returns its name. -/
theorem returns_leaf_iff (leaf : c.AtLeaf) :
    Returns ask passing c s ds v c' k ↔ ds = [] ∧ v = c.next.1 ∧ c' = c.after 2 ∧ k = s := by
  constructor
  · intro returns
    cases returns with
    | mark mark => exact (mark.not_atLeaf leaf).elim
    | leaf => exact ⟨rfl, rfl, rfl, rfl⟩
    | whenTrue guard => exact (leaf.not_atGuard guard).elim
    | whenFalse guard => exact (leaf.not_atGuard guard).elim
    | passed guard => exact (leaf.not_atGuard guard).elim
  · rintro ⟨rfl, rfl, rfl, rfl⟩
    exact .leaf leaf

/-! ### Passing over a term -/

/-- What a term comes to if all guards are false. -/
def Expression.Term.refused (t : Expression.Term) : Option String :=
  t.evaluate (m := Id) fun _ => false

/-- A call that passes over a term returns, having done nothing but read. -/
theorem returns_passing (ask : String → Run σ Bool) (c : Cursor) (s : σ) :
    Returns ask true c s [] c.readTerm.1.refused c.readTerm.2 s := by
  induction c using Cursor.descent with
  | mark c mark =>
    rw [mark.readTerm, Cursor.readTerm_snd, mark.skip]
    exact .mark mark
  | leaf c leaf =>
    rw [leaf.readTerm, Cursor.readTerm_snd, leaf.skip]
    exact .leaf leaf
  | guard c feature guard first second =>
    rw [Cursor.readTerm_snd] at first second
    rw [guard.readTerm, Cursor.readTerm_snd, guard.skip]
    exact .passed guard first second

/-- A call that passes over asks for nothing and returns what was refused. -/
theorem Returns.passing_eq (returns : Returns ask true c s ds v c' k) :
    ds = [] ∧ v = c.readTerm.1.refused ∧ c' = c.readTerm.2 ∧ k = s := by
  generalize mode : true = passing at returns
  induction returns with
  | mark mark =>
    rw [mark.readTerm, Cursor.readTerm_snd, mark.skip]
    exact ⟨rfl, rfl, rfl, rfl⟩
  | leaf leaf =>
    rw [leaf.readTerm, Cursor.readTerm_snd, leaf.skip]
    exact ⟨rfl, rfl, rfl, rfl⟩
  | whenTrue => cases mode
  | whenFalse => cases mode
  | passed guard _ _ ihFirst ihSecond =>
    obtain ⟨rfl, rfl, rfl, rfl⟩ := ihFirst rfl
    obtain ⟨rfl, rfl, rfl, rfl⟩ := ihSecond rfl
    refine ⟨rfl, ?_, ?_, rfl⟩
    · rw [guard.readTerm, Cursor.readTerm_snd]
      rfl
    · simp only [Cursor.readTerm_snd, guard.skip]

/-- A call that passes over a term comes to one thing only: the reader's cursor and nothing
changed. -/
theorem returns_passing_iff :
    Returns ask true c s ds v c' k ↔
      ds = [] ∧ v = c.readTerm.1.refused ∧ c' = c.readTerm.2 ∧ k = s := by
  constructor
  · exact Returns.passing_eq
  · rintro ⟨rfl, rfl, rfl, rfl⟩
    exact returns_passing ask c k

/-! ### Evaluating a term -/

/-- A call that evaluates a guard asks it, and goes on behind its mark, or behind the term there. -/
theorem returns_guard_iff {feature : String} (guard : c.AtGuard feature) :
    Returns ask false c s ds v c' k ↔
      ∃ b s' rest, (ask feature).outcome s = (.ok b, s') ∧ ds = ⟨feature, b⟩ :: rest ∧
        Returns ask false (if b then c.after 2 else (c.after 2).skip 1) s' rest v c' k := by
  constructor
  · intro returns
    cases returns with
    | mark mark => exact (mark.not_atGuard guard).elim
    | leaf leaf => exact (leaf.not_atGuard guard).elim
    | whenTrue guard' asked first =>
      obtain rfl := guard.feature_eq guard'
      exact ⟨true, _, _, asked, rfl, first⟩
    | whenFalse guard' asked first second =>
      obtain rfl := guard.feature_eq guard'
      obtain ⟨rfl, -, rfl, rfl⟩ := first.passing_eq
      rw [Cursor.readTerm_snd] at second
      exact ⟨false, _, _, asked, rfl, second⟩
  · rintro ⟨b, s', rest, asked, rfl, goesOn⟩
    cases b with
    | true => exact .whenTrue guard asked goesOn
    | false =>
      rw [if_neg (by decide), ← Cursor.readTerm_snd] at goesOn
      exact .whenFalse guard asked (returns_passing ask _ s') goesOn

/-- The calls that evaluate a term and return are the runs of the one-pass evaluator that end. -/
theorem returns_choosing_iff {visit : String → Run (σ × List Decision) Bool}
    (visits : ∀ feature, Run.Visits (visit feature) feature (ask feature))
    (c : Cursor) (s : σ) (made made' : List Decision) (v : Option String) (c' : Cursor) (k : σ) :
    (c.choose visit).outcome (s, made) = (.ok (v, c'), (k, made')) ↔
      ∃ ds, made' = made ++ ds ∧ Returns ask false c s ds v c' k := by
  induction c using Cursor.descent generalizing s made with
  | mark c mark =>
    rw [mark.choose, Run.outcome_pure]
    simp only [returns_mark_iff mark]
    constructor
    · rintro ⟨⟩
      exact ⟨[], (List.append_nil _).symm, rfl, rfl, rfl, rfl⟩
    · rintro ⟨_, rfl, rfl, rfl, rfl, rfl⟩
      rw [List.append_nil]
  | leaf c leaf =>
    rw [leaf.choose, Run.outcome_pure]
    simp only [returns_leaf_iff leaf]
    constructor
    · rintro ⟨⟩
      exact ⟨[], (List.append_nil _).symm, rfl, rfl, rfl, rfl⟩
    · rintro ⟨_, rfl, rfl, rfl, rfl, rfl⟩
      rw [List.append_nil]
  | guard c feature guard ihTrue ihFalse =>
    have visited := visits feature s made
    rw [guard.choose]
    simp only [returns_guard_iff guard]
    rcases asked : (ask feature).outcome s with ⟨stop | b, s'⟩
    · rw [asked] at visited
      rw [Run.outcome_bind_of_error visited]
      constructor
      · rintro ⟨⟩
      · rintro ⟨ds, -, b, s'', rest, answered, -⟩
        cases answered
    · rw [asked] at visited
      rw [Run.outcome_bind_of_ok visited]
      have goesOn : ((if b then (c.after 2).choose visit
            else ((c.after 2).skip 1).choose visit).outcome (s', made ++ [⟨feature, b⟩]) =
          (.ok (v, c'), (k, made'))) ↔
          ∃ rest, made' = made ++ [⟨feature, b⟩] ++ rest ∧
            Returns ask false (if b then c.after 2 else (c.after 2).skip 1) s' rest v c' k := by
        cases b with
        | true => exact ihTrue s' _
        | false => exact ihFalse s' _
      rw [goesOn]
      constructor
      · rintro ⟨rest, rfl, returns⟩
        exact ⟨_, List.append_assoc .., b, s', rest, rfl, rfl, returns⟩
      · rintro ⟨ds, rfl, b', s'', rest, answered, rfl, returns⟩
        cases answered
        exact ⟨rest, List.append_cons .., returns⟩

/-! ### What a call sees -/

/-- A call stops after some reads, and wherever these find the same tokens the call is the same. -/
theorem Returns.elsewhere (returns : Returns ask passing c s ds v c' k) :
    ∃ n, c' = c.after n ∧ ∀ d, c.Matches n d → Returns ask passing d s ds v (d.after n) k := by
  induction returns with
  | mark mark => exact ⟨1, rfl, fun d same => .mark (same.atMark mark)⟩
  | leaf leaf =>
    refine ⟨2, rfl, fun d same => ?_⟩
    rw [← same.first_eq]
    exact .leaf (same.atLeaf leaf)
  | whenTrue guard asked _ ih =>
    obtain ⟨n, rfl, elsewhere⟩ := ih
    refine ⟨2 + n, Cursor.after_after .., fun d same => ?_⟩
    have first := elsewhere _ same.after
    rw [Cursor.after_after] at first
    exact .whenTrue (same.before.atGuard guard) asked first
  | whenFalse guard asked _ _ ihFirst ihSecond =>
    obtain ⟨m, rfl, firstElsewhere⟩ := ihFirst
    obtain ⟨n, rfl, secondElsewhere⟩ := ihSecond
    refine ⟨2 + (m + n), by simp [Nat.add_assoc], fun d same => ?_⟩
    have first := firstElsewhere _ same.after.before
    have second := secondElsewhere _ same.after.after
    simp only [Cursor.after_after, Nat.add_assoc] at first second
    exact .whenFalse (same.before.atGuard guard) asked first second
  | passed guard _ _ ihFirst ihSecond =>
    obtain ⟨m, rfl, firstElsewhere⟩ := ihFirst
    obtain ⟨n, rfl, secondElsewhere⟩ := ihSecond
    refine ⟨2 + (m + n), by simp [Nat.add_assoc], fun d same => ?_⟩
    have first := firstElsewhere _ same.after.before
    have second := secondElsewhere _ same.after.after
    simp only [Cursor.after_after, Nat.add_assoc] at first second
    exact .passed (same.before.atGuard guard) first second

/-- A run that ends is the same over any tokens that are the same between its start and its end. -/
theorem outcome_choose_elsewhere {visit : String → Run (σ × List Decision) Bool}
    (visits : ∀ feature, Run.Visits (visit feature) feature (ask feature))
    {tokens others : List String} {position : Nat} {made made' : List Decision}
    (ended : ((Cursor.atPosition tokens position).choose visit).outcome (s, made) =
      (.ok (v, c'), (k, made')))
    (same : ∀ i, position ≤ i → i < c'.position → others[i]? = tokens[i]?) :
    ((Cursor.atPosition others position).choose visit).outcome (s, made) =
      (.ok (v, .atPosition others c'.position), (k, made')) := by
  rw [returns_choosing_iff visits] at ended ⊢
  obtain ⟨ds, added, returns⟩ := ended
  obtain ⟨n, rfl, elsewhere⟩ := returns.elsewhere
  have matched : (Cursor.atPosition tokens position).Matches n (.atPosition others position) := by
    refine ⟨rfl, fun i lt => ?_⟩
    have there := same (position + i) (Nat.le_add_right _ _) (Nat.add_lt_add_left lt position)
    simpa [Cursor.atPosition] using there
  have moved := elsewhere _ matched
  rw [Cursor.after_atPosition] at moved
  exact ⟨ds, added, moved⟩

/-! ### Where a call stops -/

/-- A call that evaluates a term goes no further than one that passes over it, and just as far if
and only if it takes no guard to be true. -/
theorem Returns.position_le (returns : Returns ask false c s ds v c' k) :
    c'.position ≤ (c.skip 1).position ∧
      (c'.position = (c.skip 1).position ↔ ∀ d ∈ ds, d.value = false) := by
  generalize mode : false = passing at returns
  induction returns with
  | mark mark =>
    rw [mark.skip]
    simp
  | leaf leaf =>
    rw [leaf.skip]
    simp
  | @whenTrue c c' feature _ _ _ ds _ guard _ _ ih =>
    -- the second term is still ahead
    have short := (ih rfl).1
    have ahead := Cursor.position_lt_skip ((c.after 2).skip 1)
    rw [guard.skip]
    refine ⟨by omega, fun same => by omega, fun none => ?_⟩
    have refused := none ⟨feature, true⟩ List.mem_cons_self
    cases refused
  | whenFalse guard _ first _ _ ih =>
    obtain ⟨rfl, -, rfl, rfl⟩ := first.passing_eq
    rw [guard.skip]
    simpa [Cursor.readTerm_snd] using ih rfl
  | passed => cases mode

/-! ### Evaluations on a host -/

namespace Host

/-- The evaluator keeps step with the reader, over any tokens, from any position and on any cache. A
call that passes over a term leaves the cursor where the reader does, and neither asks nor decides
nor changes anything; so the one-pass evaluator, which passes over a term and evaluates the next
one, evaluates it where the reader would go on. A call that evaluates a term is a run of the
one-pass evaluator. If it ends, it ends where the reader does or before, and there if and only if
no guard was true; and it ends in the same way over any tokens that are the same between its start
and its end. -/
theorem skipping_keeps_step (depth : Nat) (id : CacheId) (expression : String)
    (tokens : List String) (position : Nat) :
    let visit := traceBy (query depth id) expression
    let ask := tracedAsk (query depth id) expression
    let c := Cursor.atPosition tokens position
    (∀ h ds v c' k, Returns ask true c h ds v c' k ↔
      ds = [] ∧ v = c.readTerm.1.refused ∧ c' = c.readTerm.2 ∧ k = h) ∧
    Expression.chooseAfter visit 1 c.position c.rest = c.readTerm.2.choose visit ∧
    (∀ h made v c' k made', (c.choose visit).outcome (h, made) = (.ok (v, c'), (k, made')) ↔
      ∃ ds, made' = made ++ ds ∧ Returns ask false c h ds v c' k) ∧
    ∀ h made v c' k made', (c.choose visit).outcome (h, made) = (.ok (v, c'), (k, made')) →
      c' = .atPosition tokens c'.position ∧
      c'.position ≤ c.readTerm.2.position ∧
      (∃ ds, made' = made ++ ds ∧
        (c'.position = c.readTerm.2.position ↔ ∀ d ∈ ds, d.value = false)) ∧
      (∀ others : List String,
        (∀ i, position ≤ i → i < c'.position → others[i]? = tokens[i]?) →
        ((Cursor.atPosition others position).choose visit).outcome (h, made) =
          (.ok (v, .atPosition others c'.position), (k, made'))) ∧
      (c'.position ≤ tokens.length → ∀ behind : List String,
        let others := tokens.take c'.position ++ behind
        ((Cursor.atPosition others position).choose visit).outcome (h, made) =
          (.ok (v, .atPosition others c'.position), (k, made'))) := by
  intro visit ask c
  have visits := visits_traceBy (query depth id) expression
  refine ⟨fun h ds v c' k => returns_passing_iff, ?_, fun h made v c' k made' =>
    returns_choosing_iff visits c h made made' v c' k, ?_⟩
  · rw [Cursor.chooseAfter_eq_choose, Cursor.readTerm_snd]
  · intro h made v c' k made' ended
    obtain ⟨ds, added, returns⟩ := (returns_choosing_iff visits c h made made' v c' k).mp ended
    obtain ⟨short, whole⟩ := returns.position_le
    obtain ⟨n, left, -⟩ := returns.elsewhere
    rw [Cursor.readTerm_snd]
    refine ⟨?_, short, ⟨ds, added, whole⟩, fun others same => ?_, fun inside behind => ?_⟩
    · rw [left, Cursor.after_atPosition]
      rfl
    · exact outcome_choose_elsewhere visits ended same
    · apply outcome_choose_elsewhere visits ended
      intro i _ lt
      have front : i < (tokens.take c'.position).length := by
        rw [List.length_take]
        omega
      rw [List.getElem?_append_left front, List.getElem?_take_of_lt lt]

end Host

end FeatureChoice
