import FeatureChoice.Proofs.Expression.Cutting
import FeatureChoice.Proofs.Expression.Grammar
import FeatureChoice.Selection.Evaluate
/-!
The names of a tree and the tokens of its text. The reader passes over tokens in two ways: a leaf
takes along the token behind it, and a guard mark in the place of a name takes along what follows
it. It never goes back. So the tree has the names of the text in their order, and as long as every
guard mark stands behind a plain character it has all of them.

* `Term.mentions`: the names of a tree in the order in which the text has them, with what they name.
* `Mentioned`: what is mentioned stands in the text at growing positions, a guard in front of its
  mark (`mentioned_readTerms`).
* `Orderly`: tokens whose guard marks stand behind names; of these the reader keeps every name
  (`names_readTerms`).
* `parse_keeps_names`: both for expressions, and what a guard can be named.
-/

namespace FeatureChoice.Expression

/-! ### Mentions -/

/-- A name in a tree. -/
inductive Mention where
  | guard (name : String)
  | leaf (name : String)
  deriving DecidableEq, Repr

namespace Mention

/-- The name that is mentioned. -/
def name : Mention → String
  | guard name => name
  | leaf name => name

/-- The guard that is mentioned, if it is one. -/
def guard? : Mention → Option String
  | guard name => some name
  | leaf _ => none

end Mention

namespace Term

/-- The guards and the named leaves, in the order in which the text has them. -/
def mentions : Term → List Mention
  | .leaf name => name.toList.map .leaf
  | .guarded feature t u => .guard feature :: (t.mentions ++ u.mentions)

/-- The mentions of a term name its names. -/
theorem map_name_mentions (t : Term) : t.mentions.map Mention.name = t.names := by
  induction t with
  | leaf name => cases name <;> rfl
  | guarded feature t u iht ihu => simp [mentions, names, Mention.name, iht, ihu]

theorem filterMap_guard?_mentions (t : Term) : t.mentions.filterMap Mention.guard? = t.guards := by
  induction t with
  | leaf name => cases name <;> rfl
  | guarded feature t u iht ihu => simp [mentions, guards, Mention.guard?, iht, ihu]

/-- Every name is mentioned. -/
theorem exists_mention_of_mem_names {t : Term} {name : String} (mem : name ∈ t.names) :
    ∃ m ∈ t.mentions, m.name = name := by
  rw [← map_name_mentions] at mem
  exact List.mem_map.mp mem

theorem mention_of_mem_guards {t : Term} {name : String} (mem : name ∈ t.guards) :
    Mention.guard name ∈ t.mentions := by
  rw [← filterMap_guard?_mentions] at mem
  obtain ⟨m, mentioned, guards⟩ := List.mem_filterMap.mp mem
  cases m with
  | guard other =>
    cases guards
    exact mentioned
  | leaf other => cases guards

/-- An evaluation asks the guards of its tree and nothing else. -/
theorem evaluate_congr {m : Type → Type} [Monad m] {t : Term} {ask ask' : String → m Bool}
    (same : ∀ feature ∈ t.guards, ask feature = ask' feature) :
    t.evaluate ask = t.evaluate ask' := by
  induction t with
  | leaf name => rfl
  | guarded feature t u iht ihu =>
    have first : ask feature = ask' feature := same feature List.mem_cons_self
    have left : t.evaluate ask = t.evaluate ask' := by
      apply iht
      intro f mem
      exact same f (List.mem_cons_of_mem _ (List.mem_append_left _ mem))
    have right : u.evaluate ask = u.evaluate ask' := by
      apply ihu
      intro f mem
      exact same f (List.mem_cons_of_mem _ (List.mem_append_right _ mem))
    rw [evaluate, evaluate, first, left, right]

end Term

/-! ### Positions -/

/-- What is mentioned is the token at this position. That is no branch mark, and behind a guard it
is followed by the guard's mark. -/
structure StandsAt (tokens : List String) (position : Nat) (m : Mention) : Prop where
  token : tokens[position]? = some m.name
  unmarked : m.name ≠ branchToken
  guarded : ∀ feature, m = .guard feature → tokens[position + 1]? = some guardToken

theorem StandsAt.shift {tokens : List String} {position : Nat} {m : Mention}
    (stands : StandsAt tokens position m) (token : String) :
    StandsAt (token :: tokens) (position + 1) m := by
  obtain ⟨at_position, unmarked, guarded⟩ := stands
  exact ⟨by simpa using at_position, unmarked, fun feature eq => by simpa using guarded feature eq⟩

/-- What is mentioned stands among the tokens, each behind the one before. -/
def Mentioned (tokens : List String) (ms : List Mention) : Prop :=
  ∃ positions : List Nat, positions.Pairwise (· < ·) ∧ List.Forall₂ (StandsAt tokens) positions ms

namespace Mentioned

variable {tokens : List String} {ms : List Mention} {token : String} {m : Mention}

theorem nil (tokens : List String) : Mentioned tokens [] := ⟨[], .nil, .nil⟩

/-- Behind a token in front everything stands one further. -/
theorem shifted (mentioned : Mentioned tokens ms) (token : String) :
    ∃ positions : List Nat, (∀ position ∈ positions, 0 < position) ∧
      positions.Pairwise (· < ·) ∧ List.Forall₂ (StandsAt (token :: tokens)) positions ms := by
  obtain ⟨positions, growing, stand⟩ := mentioned
  refine ⟨positions.map (· + 1), ?_, ?_, ?_⟩
  · intro position mem
    obtain ⟨before, _, rfl⟩ := List.mem_map.mp mem
    exact Nat.succ_pos before
  · exact List.pairwise_map.mpr (growing.imp fun lt => Nat.succ_lt_succ lt)
  · rw [List.forall₂_map_left_iff]
    exact stand.imp fun _ _ stands => stands.shift token

/-- A token in front that is not mentioned. -/
theorem passed (mentioned : Mentioned tokens ms) (token : String) :
    Mentioned (token :: tokens) ms := by
  obtain ⟨positions, _, growing, stand⟩ := mentioned.shifted token
  exact ⟨positions, growing, stand⟩

/-- A token in front that is mentioned first. -/
theorem cons (mentioned : Mentioned tokens ms) (first : StandsAt (token :: tokens) 0 m) :
    Mentioned (token :: tokens) (m :: ms) := by
  obtain ⟨positions, behind, growing, stand⟩ := mentioned.shifted token
  exact ⟨0 :: positions, .cons behind growing, .cons first stand⟩

/-- What is mentioned stands somewhere among the tokens. -/
theorem exists_position (mentioned : Mentioned tokens ms) (mem : m ∈ ms) :
    ∃ position, StandsAt tokens position m := by
  obtain ⟨positions, -, stand⟩ := mentioned
  induction stand with
  | nil => cases mem
  | cons stands _ ih =>
    rcases List.mem_cons.mp mem with rfl | later
    · exact ⟨_, stands⟩
    · exact ih later

end Mentioned

/-- What the terms that are read mention stands among the tokens. -/
theorem mentioned_readTerms (count position : Nat) (tokens : List String) :
    Mentioned tokens ((readTerms count position tokens).1.flatMap Term.mentions) := by
  fun_induction readTerms count position tokens with
  | case1 => exact .nil _
  | case2 count =>
    have none : (List.replicate (count + 1) Term.absent).flatMap Term.mentions = [] := by
      simp [Term.absent, Term.mentions]
    rw [none]
    exact .nil _
  | case3 count position terms c eq ih =>
    rw [eq] at ih
    exact ih.passed branchToken
  | case4 count position token plain terms c eq ih =>
    rw [eq] at ih
    exact ih.cons ⟨rfl, plain, by simp⟩
  | case5 count position second tokens terms c eq ih =>
    rw [eq] at ih
    exact ih.passed branchToken
  | case6 count position token tokens plain terms c eq ih =>
    obtain ⟨t, u, others, two⟩ := readTerms_two count (position + 2) tokens
    rw [eq] at ih two
    cases two
    have regrouped : (guardFirstTwo token (t :: u :: others)).flatMap Term.mentions =
        .guard token :: (t :: u :: others).flatMap Term.mentions := by
      simp [guardFirstTwo, Term.mentions]
    rw [regrouped]
    exact (ih.passed guardToken).cons ⟨rfl, plain, fun _ _ => rfl⟩
  | case7 count position token second tokens plain unguarded terms c eq ih =>
    rw [eq] at ih
    exact (ih.passed second).cons ⟨rfl, plain, by simp⟩

/-! ### Names that are kept -/

/-- Passing over terms is passing over some of the tokens and leaving the rest. -/
theorem exists_skipTerms (count position : Nat) (tokens : List String) :
    ∃ n, Cursor.skipTerms count position tokens = ⟨tokens.drop n, position + n⟩ := by
  fun_induction Cursor.skipTerms count position tokens with
  | case1 => exact ⟨0, rfl⟩
  | case2 count position => exact ⟨2 * (count + 1), by simp⟩
  | case3 count position ih =>
    obtain ⟨n, left⟩ := ih
    exact ⟨n + 1, by rw [left, Nat.add_right_comm]; rfl⟩
  | case4 count position token plain ih =>
    obtain ⟨n, left⟩ := ih
    exact ⟨n + 2, by rw [left, Nat.add_right_comm]; simp [Nat.add_assoc]⟩
  | case5 count position second tokens ih =>
    obtain ⟨n, left⟩ := ih
    exact ⟨n + 1, by rw [left, Nat.add_right_comm]; rfl⟩
  | case6 count position token tokens plain ih =>
    obtain ⟨n, left⟩ := ih
    exact ⟨n + 2, by rw [left, Nat.add_right_comm]; rfl⟩
  | case7 count position token second tokens plain unguarded ih =>
    obtain ⟨n, left⟩ := ih
    exact ⟨n + 2, by rw [left, Nat.add_right_comm]; rfl⟩

/-- Two neighbouring tokens: they are not both names, and a guard mark stands behind a name. -/
structure Ordered (s t : String) : Prop where
  apart : Apart s t
  guarded : t = guardToken → IsName s

/-- Tokens that are still ahead, all guard marks among them standing behind names. -/
structure Orderly (tokens : List String) : Prop where
  tail : IsTail tokens
  first : tokens.head? ≠ some guardToken
  chain : tokens.IsChain Ordered

namespace Orderly

variable {token second : String} {tokens : List String}

theorem nil : Orderly [] := ⟨trivial, by simp, .nil⟩

/-- Behind a delimiter the tokens are orderly again. -/
theorem behind (orderly : Orderly (token :: tokens)) (delimiter : ¬ IsName token) :
    Orderly tokens := by
  obtain ⟨tail, -, chain⟩ := orderly
  refine ⟨?_, ?_, chain.tail⟩
  · cases tokens with
    | nil => trivial
    | cons => exact tail.2
  · intro first
    exact delimiter ((List.isChain_cons.mp chain).1 _ first |>.guarded rfl)

/-- A token in the place of a name, with another one behind it, is a name. -/
theorem isName (orderly : Orderly (token :: second :: tokens)) (plain : token ≠ branchToken) :
    IsName token := by
  have unmarked : token ≠ guardToken := fun eq => orderly.first (congrArg some eq)
  exact (orderly.tail.1.resolve_left unmarked).resolve_left plain

/-- A name ends at a delimiter, or with the text. -/
theorem not_isName (orderly : Orderly (token :: second :: tokens)) (name : IsName token) :
    ¬ IsName second :=
  fun other => ((List.isChain_cons_cons.mp orderly.chain).1.apart) ⟨name, other⟩

/-- What stands behind a name and its delimiter. -/
theorem rest (orderly : Orderly (token :: second :: tokens)) (name : IsName token) :
    Orderly tokens := by
  have delimiter := orderly.not_isName name
  obtain ⟨tail, -, chain⟩ := orderly
  refine ⟨?_, ?_, chain.tail.tail⟩
  · cases tokens with
    | nil => trivial
    | cons => exact tail.2.2
  · intro first
    exact delimiter ((List.isChain_cons.mp chain.tail).1 _ first |>.guarded rfl)

end Orderly

/-- The names that are kept, in their order: what is read has those of the tokens that are passed
over, besides empty ones. -/
theorem names_readTerms (count position : Nat) {tokens : List String} (orderly : Orderly tokens) :
    ((readTerms count position tokens).1.flatMap Term.names).filter (· ≠ "") ++
        (readTerms count position tokens).2.rest.filter (IsName ·) =
      tokens.filter (IsName ·) := by
  fun_induction readTerms count position tokens with
  | case1 => rfl
  | case2 count => simp [Term.absent, Term.names]
  | case3 count position terms c eq ih =>
    rw [eq] at ih
    have unnamed : ¬ IsName branchToken := fun name => name.ne_branchToken rfl
    simpa [Term.absent, Term.names, unnamed] using ih .nil
  | case4 count position token plain terms c eq ih =>
    rw [eq] at ih
    -- behind the last token there is nothing, and this one is empty
    obtain rfl : token = "" := orderly.tail
    simpa [Term.names, not_isName_empty] using ih .nil
  | case5 count position second tokens terms c eq ih =>
    rw [eq] at ih
    have unnamed : ¬ IsName branchToken := fun name => name.ne_branchToken rfl
    have rest := ih (orderly.behind unnamed)
    rw [List.filter_cons_of_neg (by simpa using unnamed)]
    simpa [Term.absent, Term.names] using rest
  | case6 count position token tokens plain terms c eq ih =>
    obtain ⟨t, u, others, two⟩ := readTerms_two count (position + 2) tokens
    rw [eq] at ih two
    cases two
    have name := orderly.isName plain
    have unnamed := orderly.not_isName name
    have regrouped : (guardFirstTwo token (t :: u :: others)).flatMap Term.names =
        token :: (t :: u :: others).flatMap Term.names := by
      simp [guardFirstTwo, Term.names]
    rw [regrouped, List.filter_cons_of_pos (by simpa using name.1), List.cons_append,
      ih (orderly.rest name), List.filter_cons_of_pos (by simpa using name),
      List.filter_cons_of_neg (by simpa using unnamed)]
  | case7 count position token second tokens plain unguarded terms c eq ih =>
    rw [eq] at ih
    have name := orderly.isName plain
    have unnamed := orderly.not_isName name
    rw [List.flatMap_cons, Term.names, Option.toList_some, List.singleton_append,
      List.filter_cons_of_pos (by simpa using name.1), List.cons_append,
      ih (orderly.rest name), List.filter_cons_of_pos (by simpa using name),
      List.filter_cons_of_neg (by simpa using unnamed)]

/-! ### Expressions -/

/-- A text whose guard marks stand behind plain characters. -/
structure Attached (e : String) : Prop where
  first : e.toList.head? ≠ some guardMark
  behind : e.toList.IsChain fun c d => d = guardMark → ¬ IsDelimiter c

theorem toList_guardToken : guardToken.toList = [guardMark] := rfl

/-- If guard marks stand behind plain characters, they are tokens that stand behind names. -/
theorem orderly_tokenize {e : String} (attached : Attached e) : Orderly (tokenize e) := by
  obtain ⟨joined, -, formed, apart⟩ := cuts_tokenize e
  obtain ⟨front, formed', eq⟩ := tokenize_eq_concat e
  refine ⟨eq ▸ isTail_concat formed', ?_, ?_⟩
  · intro first
    obtain ⟨rest, tokens⟩ := List.head?_eq_some_iff.mp first
    apply attached.first
    rw [← joined, tokens, String.join_cons, String.toList_append, toList_guardToken]
    rfl
  · rw [List.isChain_iff_forall_rel_of_append_cons_cons]
    intro s t before after tokens
    have beside : Apart s t := by
      rw [tokens] at apart
      exact (List.isChain_append_cons_cons.mp apart).2.1
    refine ⟨beside, ?_⟩
    rintro rfl
    -- the token before the mark is not the last one, so it is a name or a delimiter
    have token : IsToken s := by
      apply formed
      rw [tokens]
      simp
    rcases token.cases with name | ⟨d, delimiter, rfl⟩
    · exact name
    · have chars : e.toList = (String.join before).toList ++ d :: guardMark ::
          (String.join after).toList := by
        rw [← joined, tokens]
        simp [String.join_append, String.join_cons, toList_guardToken]
      have behind := attached.behind
      rw [chars] at behind
      exact absurd delimiter ((List.isChain_append_cons_cons.mp behind).2.1 rfl)

/-- What an expression mentions stands among its tokens, in order. -/
theorem mentioned_parse (e : String) : Mentioned (tokenize e) (parse e).mentions := by
  have mentioned := mentioned_readTerms 1 0 (tokenize e)
  rw [readTerms_tokenize] at mentioned
  simpa using mentioned

/-- Nothing stands behind the empty token. -/
theorem getElem?_tokenize_succ {e : String} {position : Nat}
    (empty : (tokenize e)[position]? = some "") : (tokenize e)[position + 1]? = none := by
  obtain ⟨front, formed, eq⟩ := tokenize_eq_concat e
  rw [eq] at empty ⊢
  by_cases inner : position < front.length
  · rw [List.getElem?_append_left inner] at empty
    rcases formed "" (List.mem_of_getElem? empty) with mark | mark | name
    · exact absurd mark (by decide)
    · exact absurd mark (by decide)
    · exact absurd name not_isName_empty
  · apply List.getElem?_eq_none
    rw [List.length_append, List.length_singleton]
    omega

/-- A guard is never named by the empty token: its mark would have to stand behind the end. -/
theorem empty_notMem_guards (e : String) : "" ∉ (parse e).guards := by
  intro mem
  obtain ⟨position, stands⟩ := (mentioned_parse e).exists_position (Term.mention_of_mem_guards mem)
  have mark : (tokenize e)[position + 1]? = some guardToken := stands.guarded "" rfl
  have nothing := getElem?_tokenize_succ stands.token
  rw [mark] at nothing
  cases nothing

/-- A name in a tree is a token other than the branch mark. -/
theorem isToken_of_mem_names {e name : String} (mem : name ∈ (parse e).names) :
    name ≠ branchToken ∧ (name = "" ∨ IsToken name) := by
  obtain ⟨m, mention, rfl⟩ := Term.exists_mention_of_mem_names mem
  obtain ⟨position, stands⟩ := (mentioned_parse e).exists_position mention
  exact ⟨stands.unmarked, mem_tokenize (List.mem_of_getElem? stands.token)⟩

/-- Evaluating does not depend on what is answered for features that no guard can name. -/
theorem selectBy_congr {σ : Type} [Hosted σ] {ask ask' : FeatureName → Run σ Bool} (e : String)
    (same : ∀ name, name ≠ .text "" → ask name = ask' name) : selectBy ask e = selectBy ask' e := by
  have visits : (parse e).evaluate (traceBy ask e) = (parse e).evaluate (traceBy ask' e) := by
    apply Term.evaluate_congr
    intro feature mem
    have named : FeatureName.text feature ≠ .text "" := by
      rintro ⟨⟩
      exact empty_notMem_guards e mem
    rw [traceBy, traceBy, decideBy, decideBy, same _ named]
  rw [selectBy, selectBy, choose_eq_evaluate, choose_eq_evaluate, visits]

/-- The number of reads after which the term of an expression is complete. -/
def consumed (e : String) : Nat := (Cursor.start (tokenize e)).readTerm.2.position

/-- The names of an attached expression are those among the tokens that were consumed. -/
theorem names_parse {e : String} (attached : Attached e) :
    (parse e).names.filter (· ≠ "") = ((tokenize e).take (consumed e)).filter (IsName ·) := by
  have kept := names_readTerms 1 0 (orderly_tokenize attached)
  obtain ⟨n, left⟩ := exists_skipTerms 1 0 (tokenize e)
  rw [← readTerms_snd, Nat.zero_add] at left
  have reads : consumed e = n := congrArg Cursor.position left
  rw [readTerms_tokenize, left] at kept
  have whole : (tokenize e).filter (IsName ·) = ((tokenize e).take n).filter (IsName ·) ++
      ((tokenize e).drop n).filter (IsName ·) := by
    rw [← List.filter_append, List.take_append_drop]
  rw [whole] at kept
  rw [reads]
  simpa using List.append_cancel_right kept

/-- A tree keeps the names of its text in their order. What it mentions are tokens at growing
positions, a guard in front of a guard mark; so nothing is named by a branch mark, no guard has the
empty name and none is ever asked under it, and a name is free of delimiters unless it is a guard
mark. As long as every guard mark stands behind a plain character, no name is lost of the tokens
that are read. -/
theorem parse_keeps_names (e : String) :
    Mentioned (tokenize e) (parse e).mentions ∧
    branchToken ∉ (parse e).names ∧
    "" ∉ (parse e).guards ∧
    (∀ (σ : Type) [Hosted σ] (ask ask' : FeatureName → Run σ Bool),
      (∀ name, name ≠ .text "" → ask name = ask' name) → selectBy ask e = selectBy ask' e) ∧
    (∀ name ∈ (parse e).names, name = guardToken ∨ ∀ c ∈ name.toList, ¬ IsDelimiter c) ∧
    (Attached e →
      (parse e).names.filter (· ≠ "") = ((tokenize e).take (consumed e)).filter (IsName ·)) := by
  refine ⟨mentioned_parse e, ?_, empty_notMem_guards e, ?_, ?_, names_parse⟩
  · intro mem
    exact (isToken_of_mem_names mem).1 rfl
  · intro σ _ ask ask' same
    exact selectBy_congr e same
  · intro name mem
    obtain ⟨unmarked, rfl | rfl | rfl | isName⟩ := isToken_of_mem_names mem
    · exact .inr (by simp)
    · exact .inl rfl
    · exact absurd rfl unmarked
    · exact .inr isName.2

/-- A guard mark in the place of a name takes the name behind it along. -/
example : (parse "?a:b").names = ["?"] ∧ consumed "?a:b" = 2 := by decide +kernel

end FeatureChoice.Expression
