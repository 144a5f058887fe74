import FeatureChoice.Expression.Parse
import FeatureChoice.Proofs.Expression.Tokens
/-!
The grammar of conditional expressions, `term := (empty) | name | name ? term : term`, and the
reader as its recognizer. The reader knows no required delimiter: a leaf takes along whatever token
follows it, and an empty branch is read off the branch mark alone. So reading is followed over the
text of a derivation in front of any further tokens.

* `readTerms_tokens`: the text of a derivation in front of a branch mark is read as its tree, and
  the mark with it.
* `parse_text`: alone, it is read as its tree, whose last leaf is empty instead of absent.
* `parse_conditional`: a conditional whose second branch is any text at all.
* `parse_followed`: in front of a mark and any text at all, it is read as it is alone, apart from
  the last leaf.
* `exists_derivation_of_formed`: a tree that has no odd names prints as a text of the grammar.
* `parse_recognizes_grammar`: the three together; in particular no text has two derivations.
-/

namespace FeatureChoice.Expression

/-- A name of the grammar. -/
structure Name where
  text : String
  isName : IsName text
  deriving DecidableEq

/-- A derivation tree of the grammar. -/
inductive Derivation where
  | empty
  | name (n : Name)
  | conditional (guard : Name) (whenTrue whenFalse : Derivation)
  deriving DecidableEq

/-- A tree whose last leaf is absent if it was empty. -/
def Term.leaveOpen : Term → Term
  | .leaf name => .leaf (if name = some "" then none else name)
  | .guarded feature t u => .guarded feature t u.leaveOpen

namespace Derivation

/-- The text that is derived. -/
def text : Derivation → String
  | .empty => ""
  | .name n => n.text
  | .conditional guard t u => guard.text ++ "?" ++ t.text ++ ":" ++ u.text

/-- The derivation as a term. An empty leaf is absent, unless it is the last leaf of a term that
ends the expression. -/
def term (last : Bool) : Derivation → Term
  | .empty => .leaf (if last then some "" else none)
  | .name n => .leaf (some n.text)
  | .conditional guard t u => .guarded guard.text (t.term false) (u.term last)

/-- The tokens of the text, without the empty one at the end. -/
def tokens : Derivation → List String
  | .empty => []
  | .name n => [n.text]
  | .conditional guard t u =>
    guard.text :: guardToken :: (t.tokens ++ branchToken :: u.tokens)

/-! ### Reading a derivation -/

/-- The tokens of a conditional; the empty token behind its first branch is not there. -/
theorem tokenize_conditional (guard : Name) (before after : String) :
    tokenize (guard.text ++ "?" ++ before ++ ":" ++ after) =
      guard.text :: guardToken :: ((tokenize before).dropLast ++ branchToken :: tokenize after) := by
  obtain ⟨front, _, eq⟩ := tokenize_eq_concat before
  have full : tokenize before ≠ [] := by simp [eq]
  rw [tokenize_append_branchToken, tokenize_append_guardToken, tokenize_of_isName guard.isName]
  simp [List.dropLast_cons_of_ne_nil, full]

/-- The tokens of a derived text are those of its derivation, and the empty one at the end. -/
theorem tokenize_text (d : Derivation) : tokenize d.text = d.tokens ++ [""] := by
  induction d with
  | empty => rfl
  | name n => exact tokenize_of_isName n.isName
  | conditional guard t u iht ihu =>
    rw [text, tokenize_conditional, iht, ihu, List.dropLast_concat]
    simp [tokens]

/-- In front of a branch mark a derivation is read as its tree, and the mark with it. -/
theorem readTerms_tokens (d : Derivation) (count position : Nat) (after : List String) :
    readTerms (count + 1) position (d.tokens ++ branchToken :: after) =
      (d.term false :: (readTerms count (position + (d.tokens.length + 1)) after).1,
        (readTerms count (position + (d.tokens.length + 1)) after).2) := by
  induction d generalizing count position after with
  | empty => exact readTerms_branch count position after
  | name n => exact readTerms_leaf n.isName.ne_branchToken (by decide) count position after
  | conditional guard t u iht ihu =>
    simp only [tokens, List.cons_append, List.append_assoc]
    rw [readTerms_guard guard.isName.ne_branchToken, iht, ihu]
    simp only [guardFirstTwo, term, List.length_cons, List.length_append]
    have reads : position + 2 + (t.tokens.length + 1) + (u.tokens.length + 1) =
        position + (t.tokens.length + (u.tokens.length + 1) + 1 + 1 + 1) := by omega
    rw [reads]

/-- At the end of the expression a derivation is read as its tree. -/
theorem readTerms_last (d : Derivation) (position : Nat) :
    (readTerms 1 position (d.tokens ++ [""])).1 = [d.term true] := by
  induction d generalizing position with
  | empty => rfl
  | name n =>
    show (readTerms 1 position [n.text, ""]).1 = _
    rw [readTerms_leaf n.isName.ne_branchToken (by decide)]
    rfl
  | conditional guard t u _ ihu =>
    simp only [tokens, List.cons_append, List.append_assoc]
    rw [readTerms_guard guard.isName.ne_branchToken, readTerms_tokens, ihu]
    rfl

/-- A derived text is read as the term of its derivation. -/
theorem parse_text (d : Derivation) : parse d.text = d.term true := by
  have read := readTerms_tokenize d.text
  rw [tokenize_text, readTerms_last] at read
  exact (List.singleton_inj.mp read).symm

/-- A conditional is read as its guard, the first branch in front of a mark, and whatever the text
behind the mark is read as. -/
theorem parse_conditional (guard : Name) (d : Derivation) (after : String) :
    parse (guard.text ++ "?" ++ d.text ++ ":" ++ after) =
      .guarded guard.text (d.term false) (parse after) := by
  have read := readTerms_tokenize (guard.text ++ "?" ++ d.text ++ ":" ++ after)
  rw [tokenize_conditional, tokenize_text, List.dropLast_concat,
    readTerms_guard guard.isName.ne_branchToken, readTerms_tokens, readTerms_position _ _ 0,
    readTerms_tokenize] at read
  exact (List.singleton_inj.mp read).symm

/-- In front of a branch mark a derivation is read to its end and nothing behind it, whatever that
is. -/
theorem parse_followed (d : Derivation) (after : String) :
    parse (d.text ++ ":" ++ after) = d.term false := by
  have read := readTerms_tokenize (d.text ++ ":" ++ after)
  rw [tokenize_append_branchToken, tokenize_text, List.dropLast_concat, readTerms_tokens,
    readTerms] at read
  exact (List.singleton_inj.mp read).symm

/-- What a derivation is read as in front of a branch mark is what it is read as alone, with its
last leaf left open. -/
theorem leaveOpen_term (d : Derivation) : (d.term true).leaveOpen = d.term false := by
  induction d with
  | empty => rfl
  | name n => simp [term, Term.leaveOpen, n.isName.1]
  | conditional guard t u _ ihu => rw [term, Term.leaveOpen, ihu, term]

/-! ### Printing -/

/-- A derivation is rendered as its text. -/
theorem render_term (last : Bool) (d : Derivation) : (d.term last).render = d.text := by
  induction d generalizing last with
  | empty => cases last <;> rfl
  | name n => rfl
  | conditional guard t u iht ihu => simp [term, Term.render, text, iht, ihu]

theorem guardToken_notMem_names (last : Bool) (d : Derivation) :
    guardToken ∉ (d.term last).names := by
  induction d generalizing last with
  | empty => cases last <;> decide
  | name n => simpa [term, Term.names] using n.isName.ne_guardToken.symm
  | conditional guard t u iht ihu =>
    simpa [term, Term.names, iht, ihu] using guard.isName.ne_guardToken.symm

/-- A term has at most one derivation. -/
theorem term_injective {last : Bool} {d d' : Derivation} (same : d.term last = d'.term last) :
    d = d' := by
  induction d generalizing last d' with
  | empty =>
    cases d' with
    | empty => rfl
    | name n =>
      have := n.isName.1
      cases last <;> simp_all [term]
    | conditional => simp [term] at same
  | name n =>
    cases d' with
    | empty =>
      have := n.isName.1
      cases last <;> simp_all [term]
    | name n' =>
      cases n
      cases n'
      simpa [term] using same
    | conditional => simp [term] at same
  | conditional guard t u iht ihu =>
    cases d' with
    | empty => simp [term] at same
    | name => simp [term] at same
    | conditional guard' t' u' =>
      simp only [term, Term.guarded.injEq] at same
      obtain ⟨guards, first, second⟩ := same
      cases guard
      cases guard'
      cases guards
      rw [iht first, ihu second]

end Derivation

/-! ### Texts outside the grammar -/

/-- A term all of whose names the grammar has: a leaf may be absent or empty, a guard may not. -/
def Term.IsFormed : Term → Prop
  | .leaf none => True
  | .leaf (some name) => name = "" ∨ IsName name
  | .guarded feature t u => IsName feature ∧ t.IsFormed ∧ u.IsFormed

/-- Every formed term is derived. -/
theorem exists_derivation_of_formed {t : Term} (formed : t.IsFormed) :
    ∃ d : Derivation, d.text = t.render := by
  induction t with
  | leaf name =>
    cases name with
    | none => exact ⟨.empty, rfl⟩
    | some name =>
      rcases formed with rfl | isName
      · exact ⟨.empty, rfl⟩
      · exact ⟨.name ⟨name, isName⟩, rfl⟩
  | guarded feature t u iht ihu =>
    obtain ⟨isName, formedT, formedU⟩ := formed
    obtain ⟨d, textT⟩ := iht formedT
    obtain ⟨d', textU⟩ := ihu formedU
    exact ⟨.conditional ⟨feature, isName⟩ d d', by
      simp [Derivation.text, Term.render, textT, textU]⟩

/-- The tokens that are still ahead at some place of an expression. -/
def IsTail : List String → Prop
  | [] => True
  | [token] => token = ""
  | token :: tokens => IsToken token ∧ IsTail tokens

theorem isTail_concat {front : List String} (formed : ∀ token ∈ front, IsToken token) :
    IsTail (front ++ [""]) := by
  induction front with
  | nil => rfl
  | cons token front ih =>
    have rest := ih fun t mem => formed t (List.mem_cons_of_mem _ mem)
    cases front with
    | nil => exact ⟨formed token List.mem_cons_self, rest⟩
    | cons => exact ⟨formed token List.mem_cons_self, rest⟩

/-- Whatever is read, its only odd name is a guard mark in the place of a name. -/
theorem isFormed_of_mem_readTerms {count position : Nat} {tokens : List String}
    (tail : IsTail tokens) :
    ∀ t ∈ (readTerms count position tokens).1, guardToken ∉ t.names → t.IsFormed := by
  fun_induction readTerms count position tokens with
  | case1 => simp
  | case2 count position =>
    intro t mem _
    rw [List.eq_of_mem_replicate mem]
    trivial
  | case3 count position terms c eq ih =>
    rw [eq] at ih
    intro t mem odd
    rcases List.mem_cons.mp mem with rfl | mem
    · trivial
    · exact ih trivial t mem odd
  | case4 count position token _ terms c eq ih =>
    rw [eq] at ih
    intro t mem odd
    rcases List.mem_cons.mp mem with rfl | mem
    · exact .inl tail
    · exact ih trivial t mem odd
  | case5 count position second tokens terms c eq ih =>
    rw [eq] at ih
    intro t mem odd
    rcases List.mem_cons.mp mem with rfl | mem
    · trivial
    · exact ih tail.2 t mem odd
  | case6 count position token tokens plain terms c eq ih =>
    obtain ⟨t, u, others, two⟩ := readTerms_two count (position + 2) tokens
    rw [eq] at ih two
    cases two
    have rest : IsTail tokens := by
      cases tokens with
      | nil => trivial
      | cons => exact tail.2.2
    intro v mem odd
    rcases List.mem_cons.mp mem with rfl | mem
    · -- a guard is no branch mark, since that would have been an absent term
      simp only [Term.names, List.mem_cons, List.mem_append, not_or] at odd
      obtain ⟨unmarked, oddT, oddU⟩ := odd
      have isName := (tail.1.resolve_left (Ne.symm unmarked)).resolve_left plain
      exact ⟨isName, ih rest t (by simp) oddT, ih rest u (by simp) oddU⟩
    · exact ih rest v (by simp [mem]) odd
  | case7 count position token second tokens plain unguarded terms c eq ih =>
    rw [eq] at ih
    have rest : IsTail tokens := by
      cases tokens with
      | nil => trivial
      | cons => exact tail.2.2
    intro t mem odd
    rcases List.mem_cons.mp mem with rfl | mem
    · have unmarked : token ≠ guardToken := by simpa [Term.names, eq_comm] using odd
      exact .inr ((tail.1.resolve_left unmarked).resolve_left plain)
    · exact ih rest t mem odd

/-- Unless a guard mark is read as a name, an expression is read as a formed term. -/
theorem isFormed_parse {e : String} (odd : guardToken ∉ (parse e).names) : (parse e).IsFormed := by
  obtain ⟨front, formed, eq⟩ := tokenize_eq_concat e
  have tail : IsTail (tokenize e) := eq ▸ isTail_concat formed
  exact isFormed_of_mem_readTerms tail (parse e) (by rw [readTerms_tokenize]; simp) odd

/-! ### The reader as a recognizer -/

/-- The reader recognizes exactly the grammar: a text is derivable if and only if what is read
prints as the same text and nothing in it is named by a guard mark. A derivable text is read as its
derivation tree, and has only one. -/
theorem parse_recognizes_grammar :
    (∀ e : String, (∃ d : Derivation, d.text = e) ↔
      (parse e).render = e ∧ guardToken ∉ (parse e).names) ∧
    (∀ d : Derivation, parse d.text = d.term true) ∧
    (∀ d d' : Derivation, d.text = d'.text → d = d') := by
  refine ⟨fun e => ⟨?_, ?_⟩, Derivation.parse_text, fun d d' same => ?_⟩
  · rintro ⟨d, rfl⟩
    rw [Derivation.parse_text]
    exact ⟨d.render_term true, d.guardToken_notMem_names true⟩
  · rintro ⟨printed, odd⟩
    obtain ⟨d, text⟩ := exists_derivation_of_formed (isFormed_parse odd)
    exact ⟨d, text.trans printed⟩
  · have terms : d.term true = d'.term true := by
      rw [← Derivation.parse_text, ← Derivation.parse_text, same]
    exact Derivation.term_injective terms

end FeatureChoice.Expression
