/-!
Tokens of conditional expressions. An expression such as `x?a:b` is cut into runs of plain
characters and the two delimiters, each delimiter a token of its own; a last, empty token marks
the end of the text. Two neighbouring delimiters have nothing between them.

Main statements: nothing is lost (`flatten_runs`), the empty token stands at the end and nowhere
else (`exists_eq_concat_nil`), and cutting at a delimiter cuts the tokens (`runs_append_delimiter`).
-/

namespace FeatureChoice.Expression

/-- The delimiter after a guard. -/
def guardMark : Char := '?'

/-- The delimiter between the two branches of a guard. -/
def branchMark : Char := ':'

def guardToken : String := "?"

def branchToken : String := ":"

/-- The two delimiters. -/
def IsDelimiter (c : Char) : Prop := c = guardMark ∨ c = branchMark

instance : DecidablePred IsDelimiter := fun c =>
  inferInstanceAs (Decidable (c = guardMark ∨ c = branchMark))

/-- One character in front of tokens already cut: it joins a plain run or stands alone. -/
def joinRun (c : Char) : List (List Char) → List (List Char)
  | (d :: ds) :: rest => if IsDelimiter d then [c] :: (d :: ds) :: rest else (c :: d :: ds) :: rest
  | rest => [c] :: rest

def runs : List Char → List (List Char)
  | [] => [[]]
  | c :: cs => if IsDelimiter c then [c] :: runs cs else joinRun c (runs cs)

def tokenize (expression : String) : List String :=
  (runs expression.toList).map String.ofList

/-! ### Laws of cutting -/

/-- Joining loses no character. -/
theorem flatten_joinRun (c : Char) (tokens : List (List Char)) :
    (joinRun c tokens).flatten = c :: tokens.flatten := by
  unfold joinRun
  split
  · split <;> simp
  · simp

/-- The tokens put together again are the text. -/
theorem flatten_runs (cs : List Char) : (runs cs).flatten = cs := by
  induction cs with
  | nil => rfl
  | cons c cs ih =>
    unfold runs
    split
    · simp [ih]
    · simp [flatten_joinRun, ih]

theorem runs_ne_nil (cs : List Char) : runs cs ≠ [] := by
  cases cs with
  | nil => simp [runs]
  | cons c cs =>
    unfold runs
    split
    · simp
    · unfold joinRun
      split
      · split <;> simp
      · simp

/-- The empty run at the end stays there, whatever is joined in front. -/
theorem joinRun_concat_nil (c : Char) (front : List (List Char)) (full : [] ∉ front) :
    ∃ front', [] ∉ front' ∧ joinRun c (front ++ [[]]) = front' ++ [[]] := by
  cases front with
  | nil => exact ⟨[[c]], by simp, rfl⟩
  | cons first rest =>
    cases first with
    | nil => simp at full
    | cons d ds =>
      simp only [List.mem_cons, not_or] at full
      by_cases hd : IsDelimiter d
      · exact ⟨[c] :: (d :: ds) :: rest, by simp [full.2], by simp [joinRun, hd]⟩
      · exact ⟨(c :: d :: ds) :: rest, by simp [full.2], by simp [joinRun, hd]⟩

/-- The last token is empty and no other one is. -/
theorem exists_eq_concat_nil (cs : List Char) :
    ∃ front, [] ∉ front ∧ runs cs = front ++ [[]] := by
  induction cs with
  | nil => exact ⟨[], by simp, rfl⟩
  | cons c cs ih =>
    obtain ⟨front, full, eq⟩ := ih
    unfold runs
    split
    · exact ⟨[c] :: front, by simp [full], by simp [eq]⟩
    · rw [eq]
      exact joinRun_concat_nil c front full

/-- A delimiter ends the run before it, whatever follows. -/
theorem runs_append_delimiter (before after : List Char) {d : Char} (delimiter : IsDelimiter d) :
    runs (before ++ d :: after) = (runs before).dropLast ++ [d] :: runs after := by
  induction before with
  | nil => simp [runs, delimiter]
  | cons c cs ih =>
    by_cases hc : IsDelimiter c
    · simp [runs, hc, ih, List.dropLast_cons_of_ne_nil (runs_ne_nil cs)]
    · obtain ⟨front, full, eq⟩ := exists_eq_concat_nil cs
      rw [eq] at ih
      simp only [List.dropLast_concat] at ih
      simp only [List.cons_append, runs, hc, if_false, ih, eq]
      cases front with
      | nil => simp [joinRun, delimiter]
      | cons t ts =>
        cases t with
        | nil => simp at full
        | cons e es => by_cases he : IsDelimiter e <;> simp [joinRun, he, List.dropLast]

end FeatureChoice.Expression
