import FeatureChoice.Expression.Token
/-!
What the tokens of an expression look like.

* `mem_tokenize`: a token is a delimiter, a name, or empty.
* `tokenize_eq_concat`: the empty token stands at the end and nowhere else.
* `tokenize_append_delimiter`: a delimiter cuts the text in two, whatever stands on its sides.
* `tokenize_of_isName`: a name is one token.
-/

namespace FeatureChoice.Expression

/-- A name as the grammar has it: not empty, and free of delimiters. -/
def IsName (s : String) : Prop := s ≠ "" ∧ ∀ c ∈ s.toList, ¬ IsDelimiter c

instance : DecidablePred IsName := fun s =>
  inferInstanceAs (Decidable (s ≠ "" ∧ ∀ c ∈ s.toList, ¬ IsDelimiter c))

/-- A token other than the last one. -/
def IsToken (s : String) : Prop := s = guardToken ∨ s = branchToken ∨ IsName s

theorem IsName.ne_guardToken {s : String} (name : IsName s) : s ≠ guardToken := by
  rintro rfl
  exact name.2 guardMark (by decide) (by decide)

theorem IsName.ne_branchToken {s : String} (name : IsName s) : s ≠ branchToken := by
  rintro rfl
  exact name.2 branchMark (by decide) (by decide)

theorem ofList_ne_empty {cs : List Char} (full : cs ≠ []) : String.ofList cs ≠ "" := by
  intro eq
  have := congrArg String.toList eq
  rw [String.toList_ofList] at this
  exact full this

/-! ### The form of tokens -/

/-- A run of plain characters, or a delimiter. -/
private def IsRun (cs : List Char) : Prop :=
  (∃ d, IsDelimiter d ∧ cs = [d]) ∨ (cs ≠ [] ∧ ∀ c ∈ cs, ¬ IsDelimiter c)

private theorem isRun_of_mem_joinRun {c : Char} (plain : ¬ IsDelimiter c)
    {tokens : List (List Char)} (formed : ∀ r ∈ tokens, r = [] ∨ IsRun r) :
    ∀ r ∈ joinRun c tokens, r = [] ∨ IsRun r := by
  have single : IsRun [c] := .inr ⟨by simp, by simpa using plain⟩
  intro r mem
  unfold joinRun at mem
  split at mem
  · next d ds rest =>
    have first : IsRun (d :: ds) := (formed _ List.mem_cons_self).resolve_left (by simp)
    split at mem
    · rcases List.mem_cons.mp mem with rfl | mem
      · exact .inr single
      · exact formed r mem
    · next plain' =>
      rcases List.mem_cons.mp mem with rfl | mem
      · -- A run that starts with a plain character is plain throughout.
        rcases first with ⟨d', delimiter, eq⟩ | ⟨-, all⟩
        · cases eq
          exact absurd delimiter plain'
        · refine .inr (.inr ⟨by simp, fun e member => ?_⟩)
          rcases List.mem_cons.mp member with rfl | member
          · exact plain
          · exact all e member
      · exact formed r (List.mem_cons_of_mem _ mem)
  · rcases List.mem_cons.mp mem with rfl | mem
    · exact .inr single
    · exact formed r mem

private theorem isRun_of_mem_runs (cs : List Char) : ∀ r ∈ runs cs, r = [] ∨ IsRun r := by
  induction cs with
  | nil => simp [runs]
  | cons c cs ih =>
    unfold runs
    split
    · next delimiter =>
      intro r mem
      rcases List.mem_cons.mp mem with rfl | mem
      · exact .inr (.inl ⟨c, delimiter, rfl⟩)
      · exact ih r mem
    · next plain => exact isRun_of_mem_joinRun plain ih

/-- A token is empty, a delimiter, or a name. -/
theorem mem_tokenize {e token : String} (mem : token ∈ tokenize e) :
    token = "" ∨ IsToken token := by
  obtain ⟨r, run, rfl⟩ := List.mem_map.mp mem
  rcases isRun_of_mem_runs e.toList r run with rfl | ⟨d, rfl | rfl, rfl⟩ | ⟨full, plain⟩
  · exact .inl rfl
  · exact .inr (.inl rfl)
  · exact .inr (.inr (.inl rfl))
  · exact .inr (.inr (.inr ⟨ofList_ne_empty full, by simpa using plain⟩))

/-- The empty token stands at the end of every expression and nowhere else. -/
theorem tokenize_eq_concat (e : String) :
    ∃ front, (∀ token ∈ front, IsToken token) ∧ tokenize e = front ++ [""] := by
  obtain ⟨front, full, eq⟩ := exists_eq_concat_nil e.toList
  have cut : tokenize e = front.map String.ofList ++ [""] := by simp [tokenize, eq]
  refine ⟨front.map String.ofList, fun token mem => ?_, cut⟩
  have member : token ∈ tokenize e := by rw [cut]; exact List.mem_append_left _ mem
  refine (mem_tokenize member).resolve_left ?_
  obtain ⟨r, inFront, rfl⟩ := List.mem_map.mp mem
  exact ofList_ne_empty fun empty => full (empty ▸ inFront)

/-! ### Cutting at a delimiter -/

/-- A delimiter cuts a text in two, wherever it stands. -/
theorem tokenize_append_delimiter (before after : String) {d : Char} (delimiter : IsDelimiter d) :
    tokenize (before ++ String.singleton d ++ after) =
      (tokenize before).dropLast ++ String.singleton d :: tokenize after := by
  have cut := runs_append_delimiter before.toList after.toList delimiter
  simp only [tokenize, String.toList_append, String.toList_singleton, List.append_assoc,
    List.singleton_append, cut, List.map_append, List.map_cons, List.map_dropLast]
  rfl

theorem tokenize_append_guardToken (before after : String) :
    tokenize (before ++ "?" ++ after) =
      (tokenize before).dropLast ++ guardToken :: tokenize after := by
  have mark : guardToken = String.singleton guardMark := by decide
  have cut := tokenize_append_delimiter before after (d := guardMark) (.inl rfl)
  rw [← mark] at cut
  exact cut

theorem tokenize_append_branchToken (before after : String) :
    tokenize (before ++ ":" ++ after) =
      (tokenize before).dropLast ++ branchToken :: tokenize after := by
  have mark : branchToken = String.singleton branchMark := by decide
  have cut := tokenize_append_delimiter before after (d := branchMark) (.inr rfl)
  rw [← mark] at cut
  exact cut

private theorem runs_of_plain {cs : List Char} (full : cs ≠ [])
    (plain : ∀ c ∈ cs, ¬ IsDelimiter c) : runs cs = [cs, []] := by
  induction cs with
  | nil => exact absurd rfl full
  | cons c cs ih =>
    have first := plain c List.mem_cons_self
    cases cs with
    | nil => simp [runs, first, joinRun]
    | cons d ds =>
      have second := plain d (by simp)
      have rest := ih (by simp) fun e mem => plain e (List.mem_cons_of_mem _ mem)
      rw [runs, if_neg first, rest]
      simp [joinRun, second]

/-- A name is one token. -/
theorem tokenize_of_isName {s : String} (name : IsName s) : tokenize s = [s, ""] := by
  have full : s.toList ≠ [] := fun eq => name.1 (by simpa using eq)
  simp [tokenize, runs_of_plain full name.2]

end FeatureChoice.Expression
