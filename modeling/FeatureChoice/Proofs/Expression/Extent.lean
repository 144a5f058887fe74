import FeatureChoice.Proofs.Selection.Skipping
/-!
How much is read for one term. A term takes two reads for each guard and each leaf, except that a
branch mark is a leaf of one read. There is a guard mark among the tokens for each guard, so the
tree is no larger than the text. Once the tokens have run out a term is two reads that find nothing,
and then every guard whose second term is still to come costs two reads more.

* `Cursor.Reads.position_add`: the reads, counted by the tree.
* `Cursor.Reads.guards_le`: the guards, counted by the guard marks ahead.
* `Cursor.Reads.position_le`: how far past the last token a term can end.
* `reading_is_bounded`: these for expressions, in both recursions.
-/

namespace FeatureChoice.Expression

namespace Cursor

variable {c c' : Cursor} {t : Term} {marks : Nat}

namespace Reads

/-- Two reads for each guard and each leaf, and one less for each branch mark. -/
theorem position_add (reads : c.Reads t marks c') :
    c'.position + marks = c.position + 2 * (t.guards.length + t.leaves.length) := by
  induction reads with
  | mark => rfl
  | leaf => rfl
  | guard _ _ _ ihTrue ihFalse =>
    rw [position_after] at ihTrue
    simp only [Term.guards, Term.leaves, List.length_cons, List.length_append]
    omega

/-- Only leaves are branch marks. -/
theorem marks_le (reads : c.Reads t marks c') : marks ≤ t.leaves.length := by
  induction reads with
  | mark => exact Nat.le_refl 1
  | leaf => exact Nat.zero_le _
  | guard _ _ _ ihTrue ihFalse =>
    rw [Term.leaves, List.length_append]
    exact Nat.add_le_add ihTrue ihFalse

/-- What is read of a term ends some tokens further on. -/
theorem exists_after (reads : c.Reads t marks c') : ∃ n, c' = c.after n := by
  obtain ⟨marks', unique⟩ := c.reads_iff
  obtain ⟨n, eq⟩ := exists_skip_eq_after 1 c
  obtain ⟨-, -, rfl⟩ := (unique _ _ _).mp reads
  exact ⟨n, c.readTerm_snd.trans eq⟩

/-- Each guard takes one of the guard marks ahead. -/
theorem guards_le (reads : c.Reads t marks c') :
    t.guards.length + c'.rest.count guardToken ≤ c.rest.count guardToken := by
  induction reads with
  | @mark c _ =>
    have fewer := (List.drop_sublist 1 c.rest).count_le guardToken
    rw [Term.absent, Term.guards, List.length_nil, Nat.zero_add]
    exact fewer
  | @leaf c _ =>
    have fewer := (List.drop_sublist 2 c.rest).count_le guardToken
    rw [Term.guards, List.length_nil, Nat.zero_add]
    exact fewer
  | @guard c _ _ feature t u _ _ guard _ _ ihTrue ihFalse =>
    have taken : (c.after 2).rest.count guardToken + 1 ≤ c.rest.count guardToken := by
      rw [congrArg rest guard.eq, List.count_cons, List.count_cons_self]
      exact Nat.le_add_right _ _
    rw [Term.guards, List.length_cons, List.length_append]
    omega

/-- Behind the last token a term is two reads that find nothing. -/
theorem position_of_exhausted (reads : c.Reads t marks c') (exhausted : c.rest = []) :
    c'.position = c.position + 2 := by
  have none : c.next.1 = none := by rw [next_fst, exhausted]; rfl
  cases reads with
  | mark mark => cases none.symm.trans mark
  | leaf => rfl
  | guard guard => cases none.symm.trans guard.token

/-- If the tokens ahead do not end in a guard mark, a term ends no more than two reads for each
guard and one more behind the last of them. -/
theorem position_le (reads : c.Reads t marks c') (ahead : c.rest ≠ [])
    (unmarked : ¬ [guardToken] <:+ c.rest) :
    c'.position ≤ c.position + c.rest.length + (2 * t.guards.length + 1) := by
  induction reads with
  | mark =>
    rw [position_after]
    omega
  | @leaf c _ =>
    have some_token := List.length_pos_of_ne_nil ahead
    rw [position_after]
    omega
  | @guard c c₁ c₂ feature t u _ _ guard whenTrue whenFalse ihTrue ihFalse =>
    have two := guard.two_le
    have three : (c.after 2).rest ≠ [] := by
      intro nothing
      apply unmarked
      rw [congrArg rest guard.eq]
      rw [show c.rest.drop 2 = [] from nothing]
      exact List.suffix_cons feature [guardToken]
    have first := ihTrue three fun suffix => unmarked (suffix.trans (List.drop_suffix 2 c.rest))
    rw [position_after, length_rest_after] at first
    rw [Term.guards, List.length_cons, List.length_append]
    by_cases exhausted : c₁.rest = []
    · -- the tokens end within the first term, so the second one is two reads
      have second := whenFalse.position_of_exhausted exhausted
      omega
    · obtain ⟨n, rfl⟩ := whenTrue.exists_after
      have left := List.length_pos_of_ne_nil exhausted
      have second := ihFalse exhausted fun suffix => unmarked
        ((suffix.trans (List.drop_suffix n _)).trans (List.drop_suffix 2 c.rest))
      simp only [position_after, length_rest_after] at second left
      omega

end Reads

end Cursor

/-! ### Expressions -/

/-- A guard mark among the tokens is one in the text. -/
theorem count_guardToken_le (tokens : List String) :
    tokens.count guardToken ≤ (String.join tokens).toList.count guardMark := by
  induction tokens with
  | nil => exact Nat.zero_le _
  | cons token tokens ih =>
    rw [String.join_cons, String.toList_append, List.count_append, List.count_cons, Nat.add_comm]
    apply Nat.add_le_add _ ih
    by_cases mark : token = guardToken
    · rw [mark]
      decide
    · simp [mark]

/-- The tokens of an expression do not end with a guard mark. -/
theorem not_guardToken_suffix_tokenize (e : String) : ¬ [guardToken] <:+ tokenize e := by
  obtain ⟨front, -, eq⟩ := tokenize_eq_concat e
  rintro ⟨before, same⟩
  rw [eq] at same
  have last := (List.append_inj' same rfl).2
  exact absurd last (by decide)

theorem tokenize_ne_nil (e : String) : tokenize e ≠ [] := by
  obtain ⟨front, -, eq⟩ := tokenize_eq_concat e
  rw [eq]
  exact List.append_ne_nil_of_right_ne_nil front (List.cons_ne_nil _ _)

/-- Reading an expression comes to an end, in one way only, with one call for each guard and each
leaf. The tree has one more leaf than guards, and no more guards than the text has guard marks. The
cursor has then made two reads for each guard and each leaf, but one for a leaf that is a branch
mark; and it is no more than two reads for each guard and one more behind the last token. The call
that passes over the expression comes to an end at the same cursor. -/
theorem reading_is_bounded (e : String) :
    (parse e).leaves.length = (parse e).guards.length + 1 ∧
    (parse e).guards.length ≤ e.toList.count guardMark ∧
    ∃ marks c', (Cursor.start (tokenize e)).readTerm = (parse e, c') ∧
      (∀ t m d, (Cursor.start (tokenize e)).Reads t m d ↔ t = parse e ∧ m = marks ∧ d = c') ∧
      (marks ≤ (parse e).leaves.length ∧
        c'.position = 2 * ((parse e).guards.length + (parse e).leaves.length) - marks) ∧
      c'.position ≤ (tokenize e).length + (2 * (parse e).guards.length + 1) ∧
      ∀ (σ : Type) (ask : String → Run σ Bool) (s : σ) ds v d k,
        Returns ask true (Cursor.start (tokenize e)) s ds v d k ↔
          ds = [] ∧ v = (parse e).refused ∧ d = c' ∧ k = s := by
  obtain ⟨marks, reads_iff⟩ := (Cursor.start (tokenize e)).reads_iff
  have reads : (Cursor.start (tokenize e)).Reads (parse e) marks _ :=
    (reads_iff _ _ _).mpr ⟨rfl, rfl, rfl⟩
  have start : (Cursor.start (tokenize e)).position = 0 := rfl
  refine ⟨(parse e).length_leaves, ?_, marks, _, rfl, reads_iff, ⟨reads.marks_le, ?_⟩, ?_, ?_⟩
  · calc (parse e).guards.length
        ≤ (tokenize e).count guardToken := Nat.le_of_add_right_le reads.guards_le
      _ ≤ (String.join (tokenize e)).toList.count guardMark := count_guardToken_le _
      _ = e.toList.count guardMark := by rw [(cuts_tokenize e).joined]
  · have position := reads.position_add
    rw [start, Nat.zero_add] at position
    exact Nat.eq_sub_of_add_eq position
  · have bound := reads.position_le (tokenize_ne_nil e) (not_guardToken_suffix_tokenize e)
    rw [start, Nat.zero_add] at bound
    exact bound
  · intro σ ask s ds v d k
    exact returns_passing_iff

/-- The bound is met by a text that ends with a guard mark: one term is the empty token, the other
is read behind it. -/
example : (Cursor.start (tokenize "x?")).readTerm.2.position = (tokenize "x?").length + 3 := by
  decide +kernel

end FeatureChoice.Expression
