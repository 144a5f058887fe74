import FeatureChoice.Proofs.Expression.Mentions
/-!
Reading one term as a recursion. The reader goes over the tokens once and counts the terms that are
still to come; read as a recursion, a term is a branch mark, or a token with the one behind it, or
a guard with its mark and two more terms, the second from where the first one ends. Reading,
passing over and evaluating all stand at the same cursors, since each of them is told what to do
by the same two tokens.

* `Cursor.after`: the cursor after a number of reads; past the last token it still moves.
* `Cursor.AtMark`, `Cursor.AtLeaf`, `Cursor.AtGuard`: what can stand at a cursor, and what the
  reader, the pass over a term and the evaluator do there.
* `Cursor.descent`: what the recursion shows holds of every cursor.
* `Cursor.Matches`: cursors at which some reads find the same.
* `Cursor.chooseAfter_eq_choose`: passing over terms asks nothing.
* `Cursor.Reads`: the recursion, with the number of leaves that are branch marks. It comes to an
  end at every cursor, in one way only, and that is what the reader does (`Cursor.reads_iff`).
-/

namespace FeatureChoice.Expression

namespace Cursor

/-! ### Cursors after some reads -/

/-- The cursor after a number of reads. -/
def after (c : Cursor) (n : Nat) : Cursor := ⟨c.rest.drop n, c.position + n⟩

@[simp] theorem position_after (c : Cursor) (n : Nat) : (c.after n).position = c.position + n := rfl

@[simp] theorem length_rest_after (c : Cursor) (n : Nat) :
    (c.after n).rest.length = c.rest.length - n := List.length_drop

theorem next_snd (c : Cursor) : c.next.2 = c.after 1 := by simp [next, after]

@[simp] theorem after_after (c : Cursor) (m n : Nat) : (c.after m).after n = c.after (m + n) := by
  simp [after, Nat.add_assoc]

@[simp] theorem after_atPosition (tokens : List String) (position n : Nat) :
    (atPosition tokens position).after n = atPosition tokens (position + n) := by
  simp [after, atPosition]

/-- A read after some reads finds the token that many places ahead. -/
theorem next_after (c : Cursor) (n : Nat) : (c.after n).next.1 = c.rest[n]? := by
  simp [next, after, List.head?_drop]

theorem next_fst (c : Cursor) : c.next.1 = c.rest[0]? := List.head?_eq_getElem?

/-- Passing over terms is some reads. -/
theorem exists_skip_eq_after (count : Nat) (c : Cursor) : ∃ n, c.skip count = c.after n :=
  exists_skipTerms count c.position c.rest

/-- Skipping does not go back. -/
theorem length_rest_skip_le (count : Nat) (c : Cursor) :
    (c.skip count).rest.length ≤ c.rest.length := by
  obtain ⟨n, eq⟩ := exists_skip_eq_after count c
  rw [eq, length_rest_after]
  exact Nat.sub_le _ _

/-- Passing over some terms and then over more of them is passing over all of them. -/
theorem skip_add (count more : Nat) (c : Cursor) :
    c.skip (count + more) = (c.skip count).skip more := by
  obtain ⟨tokens, position⟩ := c
  show skipTerms (count + more) position tokens = (skipTerms count position tokens).skip more
  fun_induction skipTerms count position tokens with
  | case1 position tokens => rw [Nat.zero_add]; rfl
  | case2 count position =>
    rw [skip_nil]
    have all := skip_nil (count + 1 + more) position
    have reads : position + 2 * (count + 1 + more) = position + 2 * (count + 1) + 2 * more := by omega
    rw [reads] at all
    exact all
  | case3 count position ih => simpa [Nat.add_right_comm count 1 more, skipTerms] using ih
  | case4 count position token plain ih =>
    simpa [Nat.add_right_comm count 1 more, skipTerms, plain] using ih
  | case5 count position second tokens ih =>
    simpa [Nat.add_right_comm count 1 more, skipTerms] using ih
  | case6 count position token tokens plain ih =>
    rw [Nat.add_right_comm count 1 more, skipTerms]
    simpa [plain, Nat.add_right_comm count 2 more] using ih
  | case7 count position token second tokens plain unguarded ih =>
    simpa [Nat.add_right_comm count 1 more, skipTerms, plain, unguarded] using ih

/-! ### What stands at a cursor -/

/-- A branch mark. -/
def AtMark (c : Cursor) : Prop := c.next.1 = some branchToken

/-- A token that is no branch mark, or none at all, and no guard mark behind it. -/
structure AtLeaf (c : Cursor) : Prop where
  unmarked : c.next.1 ≠ some branchToken
  unguarded : c.next.2.next.1 ≠ some guardToken

/-- A token that is no branch mark, and a guard mark behind it. -/
structure AtGuard (c : Cursor) (feature : String) : Prop where
  token : c.next.1 = some feature
  unmarked : feature ≠ branchToken
  guarded : c.next.2.next.1 = some guardToken

variable {c c' : Cursor} {feature : String}

theorem AtMark.eq (mark : c.AtMark) : c = ⟨branchToken :: c.rest.tail, c.position⟩ := by
  obtain ⟨tokens, position⟩ := c
  obtain ⟨rest, rfl⟩ := List.head?_eq_some_iff.mp mark
  rfl

/-- A leaf stands behind the last token, is the last token, or takes the token behind it along. -/
theorem AtLeaf.cases (leaf : c.AtLeaf) :
    c = ⟨[], c.position⟩ ∨
      (∃ token, token ≠ branchToken ∧ c = ⟨[token], c.position⟩) ∨
      ∃ token second tokens, token ≠ branchToken ∧ second ≠ guardToken ∧
        c = ⟨token :: second :: tokens, c.position⟩ := by
  obtain ⟨tokens, position⟩ := c
  obtain ⟨unmarked, unguarded⟩ := leaf
  match tokens with
  | [] => exact .inl rfl
  | [token] =>
    refine .inr (.inl ⟨token, ?_, rfl⟩)
    exact fun eq => unmarked (congrArg some eq)
  | token :: second :: tokens =>
    refine .inr (.inr ⟨token, second, tokens, ?_, ?_, rfl⟩)
    · exact fun eq => unmarked (congrArg some eq)
    · exact fun eq => unguarded (congrArg some eq)

theorem AtGuard.eq (guard : c.AtGuard feature) :
    c = ⟨feature :: guardToken :: c.rest.drop 2, c.position⟩ := by
  obtain ⟨tokens, position⟩ := c
  obtain ⟨token, -, guarded⟩ := guard
  obtain ⟨rest, rfl⟩ := List.head?_eq_some_iff.mp token
  obtain ⟨rest, rfl⟩ := List.head?_eq_some_iff.mp guarded
  rfl

theorem AtGuard.two_le (guard : c.AtGuard feature) : 2 ≤ c.rest.length := by
  rw [guard.eq]
  simp

/-- One of the three stands at a cursor. -/
theorem stands (c : Cursor) : c.AtMark ∨ c.AtLeaf ∨ ∃ feature, c.AtGuard feature := by
  by_cases mark : c.next.1 = some branchToken
  · exact .inl mark
  · by_cases guarded : c.next.2.next.1 = some guardToken
    · right
      right
      -- there is a token in front of the guard mark
      cases token : c.next.1 with
      | none =>
        rw [next_fst, List.getElem?_eq_none_iff] at token
        rw [next_snd, next_after, List.getElem?_eq_none (by omega)] at guarded
        cases guarded
      | some feature =>
        rw [token] at mark
        exact ⟨feature, token, fun eq => mark (congrArg some eq), guarded⟩
    · exact .inr (.inl ⟨mark, guarded⟩)

/-- No two of them do. -/
theorem AtMark.not_atLeaf (mark : c.AtMark) : ¬ c.AtLeaf := fun leaf => leaf.unmarked mark

/-- Where a term is absent there is no guard. -/
theorem AtMark.not_atGuard (mark : c.AtMark) : ¬ c.AtGuard feature := by
  intro guard
  exact guard.unmarked (Option.some.inj (guard.token.symm.trans mark))

/-- Where a leaf stands there is no guard. -/
theorem AtLeaf.not_atGuard (leaf : c.AtLeaf) : ¬ c.AtGuard feature := fun guard =>
  leaf.unguarded guard.guarded

/-- At most one guard stands at a cursor. -/
theorem AtGuard.feature_eq {other : String} (guard : c.AtGuard feature) (guard' : c.AtGuard other) :
    feature = other := Option.some.inj (guard.token.symm.trans guard'.token)

/-- The recursion as an induction: what holds of marks and leaves, and of a guard if it holds behind
its mark and behind the term there, holds of every cursor. -/
theorem descent {motive : Cursor → Prop} (mark : ∀ c, c.AtMark → motive c)
    (leaf : ∀ c, c.AtLeaf → motive c)
    (guard : ∀ c feature, c.AtGuard feature → motive (c.after 2) → motive ((c.after 2).skip 1) →
      motive c) (c : Cursor) : motive c := by
  -- the tokens ahead get fewer, and past the last one there is no guard
  induction ahead : c.rest.length using Nat.strong_induction_on generalizing c with
  | _ n ih =>
    subst ahead
    rcases c.stands with stands | stands | ⟨feature, stands⟩
    · exact mark c stands
    · exact leaf c stands
    · have two := stands.two_le
      have behind : (c.after 2).rest.length < c.rest.length := by
        rw [length_rest_after]
        omega
      have further := length_rest_skip_le 1 (c.after 2)
      exact guard c feature stands (ih _ behind _ rfl) (ih _ (by omega) _ rfl)

/-! ### Cursors with the same tokens ahead -/

/-- Two cursors at the same position, with the same tokens ahead as far as this many reads. -/
structure Matches (c : Cursor) (n : Nat) (d : Cursor) : Prop where
  position : d.position = c.position
  tokens : ∀ i, i < n → d.rest[i]? = c.rest[i]?

namespace Matches

variable {d : Cursor} {m n : Nat}

theorem before (same : c.Matches (m + n) d) : c.Matches m d := by
  refine ⟨same.position, fun i lt => ?_⟩
  exact same.tokens i (Nat.lt_add_right n lt)

/-- Behind some of these reads the others are left. -/
theorem after (same : c.Matches (m + n) d) : (c.after m).Matches n (d.after m) := by
  constructor
  · rw [position_after, position_after, same.position]
  · intro i lt
    have ahead := same.tokens (m + i) (Nat.add_lt_add_left lt m)
    simpa [Cursor.after] using ahead

theorem next_eq (same : c.Matches n d) {i : Nat} (lt : i < n) :
    (d.after i).next.1 = (c.after i).next.1 := by
  rw [next_after, next_after, same.tokens i lt]

theorem first_eq (same : c.Matches (n + 1) d) : d.next.1 = c.next.1 :=
  same.next_eq (Nat.succ_pos n)

theorem second_eq (same : c.Matches (n + 2) d) : d.next.2.next.1 = c.next.2.next.1 := by
  rw [next_snd, next_snd]
  exact same.next_eq (Nat.lt_add_left n Nat.one_lt_two)

theorem atMark (same : c.Matches 1 d) (mark : c.AtMark) : d.AtMark := same.first_eq.trans mark

/-- A leaf takes two tokens, so cursors that match in two have the same leaf. -/
theorem atLeaf (same : c.Matches 2 d) (leaf : c.AtLeaf) : d.AtLeaf := by
  constructor
  · rw [same.first_eq]
    exact leaf.unmarked
  · rw [same.second_eq]
    exact leaf.unguarded

/-- A guard takes two tokens, so cursors that match in two have the same guard. -/
theorem atGuard (same : c.Matches 2 d) (guard : c.AtGuard feature) : d.AtGuard feature := by
  constructor
  · rw [same.first_eq]
    exact guard.token
  · exact guard.unmarked
  · rw [same.second_eq]
    exact guard.guarded

end Matches

/-! ### Passing over a term -/

/-- An absent term is passed over with its mark. -/
theorem AtMark.skip (mark : c.AtMark) : c.skip 1 = c.after 1 := by
  rw [mark.eq]
  cases c.rest.tail <;> simp [Cursor.skip, skipTerms, after]

/-- A leaf is passed over with the token after it. -/
theorem AtLeaf.skip (leaf : c.AtLeaf) : c.skip 1 = c.after 2 := by
  rcases leaf.cases with eq | ⟨token, plain, eq⟩ | ⟨token, second, tokens, plain, unguarded, eq⟩
  · rw [eq]
    rfl
  · rw [eq]
    simp [Cursor.skip, skipTerms, after, plain]
  · rw [eq]
    simp [Cursor.skip, skipTerms, after, plain, unguarded]

/-- To pass over a guard is to pass over its mark and two terms. -/
theorem AtGuard.skip (guard : c.AtGuard feature) : c.skip 1 = ((c.after 2).skip 1).skip 1 := by
  rw [← skip_add, guard.eq]
  simp [Cursor.skip, skipTerms, after, guard.unmarked]

/-- Passing a term over takes at least one read. -/
theorem position_lt_skip (c : Cursor) : c.position < (c.skip 1).position := by
  induction c using descent with
  | mark c mark =>
    rw [mark.skip]
    exact Nat.lt_succ_self _
  | leaf c leaf =>
    rw [leaf.skip, position_after]
    omega
  | guard c feature guard first second =>
    rw [position_after] at first
    rw [guard.skip]
    omega

/-! ### Reading a term -/

/-- Reading a term ends where passing it over ends. -/
theorem readTerm_snd (c : Cursor) : c.readTerm.2 = c.skip 1 := readTerms_snd 1 c.position c.rest

theorem readTerm_fst (c : Cursor) : (readTerms 1 c.position c.rest).1 = [c.readTerm.1] := by
  obtain ⟨t, one⟩ := List.length_eq_one_iff.mp (length_readTerms 1 c.position c.rest)
  simp [readTerm, one]

/-- At a branch mark the term is absent. -/
theorem AtMark.readTerm (mark : c.AtMark) : c.readTerm.1 = .absent := by
  rw [mark.eq]
  simp [Cursor.readTerm, readTerms_branch]

/-- At a leaf the term is the leaf. -/
theorem AtLeaf.readTerm (leaf : c.AtLeaf) : c.readTerm.1 = .leaf c.next.1 := by
  rcases leaf.cases with eq | ⟨token, plain, eq⟩ | ⟨token, second, tokens, plain, unguarded, eq⟩
  · rw [eq]
    rfl
  · rw [eq]
    simp [Cursor.readTerm, readTerms, plain, next]
  · rw [eq]
    simp [Cursor.readTerm, readTerms_leaf plain unguarded, next]

/-- To read a guard is to read the term behind its mark, and then the one behind that. -/
theorem AtGuard.readTerm (guard : c.AtGuard feature) :
    c.readTerm.1 =
      .guarded feature (c.after 2).readTerm.1 ((c.after 2).skip 1).readTerm.1 := by
  have both := readTerms_add 1 1 (c.after 2).position (c.after 2).rest
  rw [readTerms_snd, readTerm_fst] at both
  have second := readTerm_fst ((c.after 2).skip 1)
  rw [Cursor.skip] at second
  rw [second] at both
  have first : (readTerms 1 c.position c.rest).1 =
      guardFirstTwo feature (readTerms 2 (c.after 2).position (c.after 2).rest).1 := by
    rw [guard.eq, readTerms_guard guard.unmarked]
    simp [after]
  rw [readTerm_fst, both] at first
  exact (List.singleton_inj.mp first)

/-! ### Evaluating a term -/

section Choosing

universe u

variable {m : Type → Type u} [Monad m] (ask : String → m Bool)

/-- At a branch mark nothing is asked and nothing chosen. -/
theorem AtMark.choose (mark : c.AtMark) : c.choose ask = pure (none, c.after 1) := by
  rw [mark.eq]
  cases c.rest.tail <;> simp [Cursor.choose, chooseAfter, after]

/-- At a leaf nothing is asked, and its name is chosen. -/
theorem AtLeaf.choose (leaf : c.AtLeaf) : c.choose ask = pure (c.next.1, c.after 2) := by
  rcases leaf.cases with eq | ⟨token, plain, eq⟩ | ⟨token, second, tokens, plain, unguarded, eq⟩
  · rw [eq]
    simp [Cursor.choose, chooseAfter, after, next]
  · rw [eq]
    simp [Cursor.choose, chooseAfter, after, plain, next]
  · rw [eq]
    simp [Cursor.choose, chooseAfter, after, plain, unguarded, next]

/-- To pass over terms and evaluate the next one is to evaluate the one behind them: passing over a
term asks nothing. -/
theorem chooseAfter_eq_choose (skipped : Nat) (c : Cursor) :
    chooseAfter ask skipped c.position c.rest = (c.skip skipped).choose ask := by
  obtain ⟨tokens, position⟩ := c
  show chooseAfter ask skipped position tokens = (skipTerms skipped position tokens).choose ask
  fun_induction skipTerms skipped position tokens with
  | case1 position tokens => rfl
  | case2 skipped position =>
    have reads : position + 2 * (skipped + 1) + 2 = position + 2 * (skipped + 1 + 1) := by omega
    simp [Cursor.choose, chooseAfter, reads]
  | case3 skipped position ih => simpa [chooseAfter] using ih
  | case4 skipped position token plain ih => simpa [chooseAfter, plain] using ih
  | case5 skipped position second tokens ih => simpa [chooseAfter] using ih
  | case6 skipped position token tokens plain ih => simpa [chooseAfter, plain] using ih
  | case7 skipped position token second tokens plain unguarded ih =>
    simpa [chooseAfter, plain, unguarded] using ih

/-- To evaluate a guard is to ask it, and to evaluate the term behind its mark, or the one behind
that. -/
theorem AtGuard.choose (guard : c.AtGuard feature) :
    c.choose ask = (do
      if ← ask feature then (c.after 2).choose ask else ((c.after 2).skip 1).choose ask) := by
  rw [← chooseAfter_eq_choose]
  have unmarked := guard.unmarked
  rw [Cursor.choose, guard.eq]
  simp [chooseAfter, after, Cursor.choose, unmarked]

end Choosing

/-! ### The recursion -/

/-- Reading one term as a recursion, with the number of leaves that are branch marks. Each node of
a derivation is a call, so a term that is read took finitely many. -/
inductive Reads : Cursor → Term → Nat → Cursor → Prop where
  | mark {c : Cursor} (mark : c.AtMark) : Reads c .absent 1 (c.after 1)
  | leaf {c : Cursor} (leaf : c.AtLeaf) : Reads c (.leaf c.next.1) 0 (c.after 2)
  | guard {c c₁ c₂ : Cursor} {feature : String} {t u : Term} {m n : Nat}
      (guard : c.AtGuard feature) (whenTrue : Reads (c.after 2) t m c₁)
      (whenFalse : Reads c₁ u n c₂) : Reads c (.guarded feature t u) (m + n) c₂

variable {t u : Term} {m n : Nat} {c'' : Cursor}

/-- The recursion comes to an end, and reads what the reader reads. -/
theorem exists_reads (c : Cursor) : ∃ marks, c.Reads c.readTerm.1 marks c.readTerm.2 := by
  induction c using descent with
  | mark c mark =>
    rw [mark.readTerm, readTerm_snd, mark.skip]
    exact ⟨1, .mark mark⟩
  | leaf c leaf =>
    rw [leaf.readTerm, readTerm_snd, leaf.skip]
    exact ⟨0, .leaf leaf⟩
  | guard c feature guard whenTrue whenFalse =>
    obtain ⟨m, whenTrue⟩ := whenTrue
    obtain ⟨n, whenFalse⟩ := whenFalse
    rw [readTerm_snd] at whenTrue whenFalse
    rw [guard.readTerm, readTerm_snd, guard.skip]
    exact ⟨m + n, .guard guard whenTrue whenFalse⟩

/-- It does so in one way only. -/
theorem Reads.unique (reads : c.Reads t m c') (other : c.Reads u n c'') :
    t = u ∧ m = n ∧ c' = c'' := by
  induction reads generalizing u n c'' with
  | mark mark =>
    cases other with
    | mark => exact ⟨rfl, rfl, rfl⟩
    | leaf leaf => exact (mark.not_atLeaf leaf).elim
    | guard guard => exact (mark.not_atGuard guard).elim
  | leaf leaf =>
    cases other with
    | mark mark => exact (mark.not_atLeaf leaf).elim
    | leaf => exact ⟨rfl, rfl, rfl⟩
    | guard guard => exact (leaf.not_atGuard guard).elim
  | guard guard _ _ ihTrue ihFalse =>
    cases other with
    | mark mark => exact (mark.not_atGuard guard).elim
    | leaf leaf => exact (leaf.not_atGuard guard).elim
    | guard guard' whenTrue whenFalse =>
      obtain rfl := guard.feature_eq guard'
      obtain ⟨rfl, rfl, rfl⟩ := ihTrue whenTrue
      obtain ⟨rfl, rfl, rfl⟩ := ihFalse whenFalse
      exact ⟨rfl, rfl, rfl⟩

/-- Of every cursor one term is read, with the same marks and the same end. -/
theorem reads_iff (c : Cursor) : ∃ marks, ∀ t m c',
    c.Reads t m c' ↔ t = c.readTerm.1 ∧ m = marks ∧ c' = c.readTerm.2 := by
  obtain ⟨marks, reads⟩ := exists_reads c
  refine ⟨marks, fun t m c' => ⟨fun other => other.unique reads, ?_⟩⟩
  rintro ⟨rfl, rfl, rfl⟩
  exact reads

end Cursor

end FeatureChoice.Expression
