import Mathlib.Data.List.Chain
import FeatureChoice.Proofs.Expression.Tokens
/-!
The tokens of an expression are the only way to cut it. A text falls into delimiters and names, no
two names stand beside each other, and behind them all is one empty token; nothing else can be said
of a list of tokens that would leave a choice.

* `Cuts`: what a list of tokens has to be for a text.
* `tokenize_join`: whatever such a list is put together to is cut into that list again.
* `exists_front_of_chars`: every text can be put together from such a list.
* `tokenize_is_only_cut`: so the tokens of a text are one such list and there is no other; and a
  delimiter cuts a text in two.
-/

namespace FeatureChoice.Expression

/-- Two neighbouring tokens: they are not both names. -/
def Apart (s t : String) : Prop := ¬ (IsName s ∧ IsName t)

/-- Tokens that a text can be cut into. Put together they are the text; the last one is empty and
every other one is a delimiter or a name; and no two names stand beside each other. -/
structure Cuts (tokens : List String) (e : String) : Prop where
  joined : String.join tokens = e
  last : tokens.getLast? = some ""
  formed : ∀ token ∈ tokens.dropLast, IsToken token
  apart : tokens.IsChain Apart

/-! ### Tokens and delimiters -/

theorem IsDelimiter.isToken {d : Char} (delimiter : IsDelimiter d) :
    IsToken (String.singleton d) := by
  rcases delimiter with rfl | rfl
  · exact .inl (by decide)
  · exact .inr (.inl (by decide))

theorem IsDelimiter.not_isName {d : Char} (delimiter : IsDelimiter d) :
    ¬ IsName (String.singleton d) := by
  intro name
  exact name.2 d (by simp) delimiter

theorem not_isName_empty : ¬ IsName "" := fun name => name.1 rfl

/-- A token is a name or one of the delimiters. -/
theorem IsToken.cases {s : String} (token : IsToken s) :
    IsName s ∨ ∃ d, IsDelimiter d ∧ s = String.singleton d := by
  rcases token with rfl | rfl | name
  · exact .inr ⟨guardMark, .inl rfl, by decide⟩
  · exact .inr ⟨branchMark, .inr rfl, by decide⟩
  · exact .inl name

/-! ### Putting tokens together -/

/-- A delimiter is cut off from whatever follows it. -/
theorem tokenize_singleton_append {d : Char} (delimiter : IsDelimiter d) (after : String) :
    tokenize (String.singleton d ++ after) = String.singleton d :: tokenize after := by
  have cut := tokenize_append_delimiter "" after delimiter
  rwa [String.empty_append] at cut

/-- A name is cut off before a delimiter. -/
theorem tokenize_name_append {s : String} (name : IsName s) {d : Char}
    (delimiter : IsDelimiter d) (after : String) :
    tokenize (s ++ (String.singleton d ++ after)) = s :: String.singleton d :: tokenize after := by
  have cut := tokenize_append_delimiter s after delimiter
  rwa [tokenize_of_isName name, String.append_assoc] at cut

/-- What tokens are put together to is cut into these tokens again, and the empty one. -/
theorem tokenize_join : ∀ front : List String, (∀ token ∈ front, IsToken token) →
    front.IsChain Apart → tokenize (String.join front) = front ++ [""]
  | [], _, _ => rfl
  | token :: rest, formed, apart => by
    have formedRest : ∀ t ∈ rest, IsToken t := fun t mem => formed t (List.mem_cons_of_mem _ mem)
    rw [String.join_cons]
    rcases (formed token List.mem_cons_self).cases with name | ⟨d, delimiter, rfl⟩
    · -- a name ends at the delimiter behind it, or with the text
      match rest, formedRest, apart with
      | [], _, _ => simpa using tokenize_of_isName name
      | second :: rest, formedRest, apart =>
        obtain ⟨beside, apartRest⟩ := List.isChain_cons_cons.mp apart
        have unnamed : ¬ IsName second := fun other => beside ⟨name, other⟩
        obtain ⟨d, delimiter, rfl⟩ :=
          (formedRest second List.mem_cons_self).cases.resolve_left unnamed
        have formedLater : ∀ t ∈ rest, IsToken t :=
          fun t mem => formedRest t (List.mem_cons_of_mem _ mem)
        rw [String.join_cons, tokenize_name_append name delimiter,
          tokenize_join rest formedLater apartRest.tail]
        rfl
    · rw [tokenize_singleton_append delimiter, tokenize_join rest formedRest apart.tail]
      rfl

/-- Every text is put together from delimiters and names, no two names beside each other. -/
theorem exists_front_of_chars (cs : List Char) :
    ∃ front : List String, (∀ token ∈ front, IsToken token) ∧ front.IsChain Apart ∧
      String.join front = String.ofList cs := by
  induction cs with
  | nil => exact ⟨[], by simp, .nil, rfl⟩
  | cons c cs ih =>
    obtain ⟨front, formed, apart, joined⟩ := ih
    have grown : String.singleton c ++ String.join front = String.ofList (c :: cs) := by
      rw [joined, ← String.toList_inj]
      simp
    by_cases delimiter : IsDelimiter c
    · -- a delimiter stands alone
      refine ⟨String.singleton c :: front, ?_, ?_, ?_⟩
      · exact List.forall_mem_cons.mpr ⟨delimiter.isToken, formed⟩
      · exact apart.cons fun t _ both => delimiter.not_isName both.1
      · rw [String.join_cons, grown]
    · have single : IsName (String.singleton c) := ⟨by simp, by simpa using delimiter⟩
      cases front with
      | nil =>
        refine ⟨[String.singleton c], ?_, .singleton _, ?_⟩
        · simpa using .inr (.inr single)
        · rw [String.join_cons, grown]
      | cons token rest =>
        obtain ⟨first, formedRest⟩ := List.forall_mem_cons.mp formed
        rcases first.cases with name | ⟨d, isDelimiter, rfl⟩
        · -- a plain character joins the name behind it
          have longer : IsName (String.singleton c ++ token) := by
            refine ⟨?_, ?_⟩
            · intro empty
              exact name.1 (String.append_eq_empty_iff.mp empty).2
            · intro e mem
              rcases List.mem_append.mp (String.toList_append ▸ mem) with mem | mem
              · exact single.2 e mem
              · exact name.2 e mem
          refine ⟨(String.singleton c ++ token) :: rest, ?_, ?_, ?_⟩
          · exact List.forall_mem_cons.mpr ⟨.inr (.inr longer), formedRest⟩
          · refine apart.tail.cons fun t mem both => ?_
            exact List.isChain_cons.mp apart |>.1 t mem ⟨name, both.2⟩
          · rw [String.join_cons, String.append_assoc, ← String.join_cons, grown]
        · refine ⟨String.singleton c :: String.singleton d :: rest, ?_, ?_, ?_⟩
          · exact List.forall_mem_cons.mpr ⟨.inr (.inr single), formed⟩
          · exact .cons_cons (fun both => isDelimiter.not_isName both.2) apart
          · rw [String.join_cons, grown]

/-! ### The only cut -/

/-- A list that a text can be cut into is the list of its tokens. -/
theorem Cuts.eq_tokenize {tokens : List String} {e : String} (cuts : Cuts tokens e) :
    tokens = tokenize e := by
  obtain ⟨joined, last, formed, apart⟩ := cuts
  obtain ⟨front, rfl⟩ := List.getLast?_eq_some_iff.mp last
  rw [List.dropLast_concat] at formed
  have apartFront : front.IsChain Apart := apart.left_of_append
  rw [← joined, String.join_append, String.join_cons, String.join_nil, String.append_empty,
    String.append_empty, tokenize_join front formed apartFront]

/-- The tokens of an expression are a cut of it. -/
theorem cuts_tokenize (e : String) : Cuts (tokenize e) e := by
  obtain ⟨front, formed, apart, joined⟩ := exists_front_of_chars e.toList
  rw [String.ofList_toList] at joined
  have cut : tokenize e = front ++ [""] := by rw [← joined, tokenize_join front formed apart]
  rw [cut]
  refine ⟨?_, by simp, by simpa using formed, ?_⟩
  · rw [String.join_append, joined]
    simp
  · refine List.isChain_append.mpr ⟨apart, .singleton _, fun s _ t mem => ?_⟩
    simp only [List.head?_cons, Option.mem_some_iff] at mem
    subst mem
    exact fun both => not_isName_empty both.2

/-- The tokens of a text are the only list that the text can be cut into. In particular a text with
a delimiter in it has the tokens before it, without the empty one, then the delimiter, and then the
tokens behind it. -/
theorem tokenize_is_only_cut :
    (∀ (e : String) (tokens : List String), tokens = tokenize e ↔ Cuts tokens e) ∧
    (∀ before after : String,
      tokenize (before ++ "?" ++ after) = (tokenize before).dropLast ++ "?" :: tokenize after ∧
      tokenize (before ++ ":" ++ after) = (tokenize before).dropLast ++ ":" :: tokenize after) := by
  refine ⟨fun e tokens => ⟨?_, ?_⟩, fun before after => ⟨?_, ?_⟩⟩
  · rintro rfl
    exact cuts_tokenize e
  · intro cuts
    exact cuts.eq_tokenize
  · exact tokenize_append_guardToken before after
  · exact tokenize_append_branchToken before after

end FeatureChoice.Expression
