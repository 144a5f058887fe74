import FeatureChoice.Expression.Cursor
import FeatureChoice.Expression.Term
/-!
Reading terms from tokens. The reader never fails: a missing delimiter or a text that ends too
soon gives absent terms. It keeps several terms in hand at once, so that a guard mark asks for two
more terms and reading is one pass over the tokens.

Main statements: reading some terms and then more is reading all of them (`readTerms_add`), and
reading moves the cursor exactly as passing over does (`readTerms_snd`).
-/

namespace FeatureChoice.Expression

/-- Put a guard in front of the two terms that belong to it. -/
def guardFirstTwo (feature : String) : List Term → List Term
  | t :: u :: terms => .guarded feature t u :: terms
  | terms => terms

def readTerms : Nat → Nat → List String → List Term × Cursor
  | 0, position, tokens => ([], ⟨tokens, position⟩)
  | count + 1, position, [] =>
    (List.replicate (count + 1) .absent, ⟨[], position + 2 * (count + 1)⟩)
  | count + 1, position, [token] =>
    if token = branchToken then
      let (terms, c) := readTerms count (position + 1) []
      (.absent :: terms, c)
    else
      let (terms, c) := readTerms count (position + 2) []
      (.leaf token :: terms, c)
  | count + 1, position, token :: second :: tokens =>
    if token = branchToken then
      let (terms, c) := readTerms count (position + 1) (second :: tokens)
      (.absent :: terms, c)
    else if second = guardToken then
      let (terms, c) := readTerms (count + 2) (position + 2) tokens
      (guardFirstTwo token terms, c)
    else
      let (terms, c) := readTerms count (position + 2) tokens
      (.leaf token :: terms, c)

def Cursor.readTerm (c : Cursor) : Term × Cursor :=
  let (terms, c') := readTerms 1 c.position c.rest
  (terms.headD .absent, c')

def parse (expression : String) : Term :=
  (Cursor.start (tokenize expression)).readTerm.1

/-- Whether the expression starts with a branch mark, so that its term is absent outright and not
read from an empty place. -/
def startsAbsent (expression : String) : Bool :=
  (tokenize expression).head? = some branchToken

/-! ### Laws of reading -/

/-- As many terms are read as are wanted. -/
theorem length_readTerms (count position : Nat) (tokens : List String) :
    (readTerms count position tokens).1.length = count := by
  fun_induction readTerms count position tokens with
  | case1 => rfl
  | case2 => simp
  | case3 count position terms c eq ih => rw [eq] at ih; simpa using ih
  | case4 count position token _ terms c eq ih => rw [eq] at ih; simpa using ih
  | case5 count position second tokens terms c eq ih => rw [eq] at ih; simpa using ih
  | case6 count position token tokens _ terms c eq ih =>
    rw [eq] at ih
    match terms, ih with
    | t :: u :: terms, ih => simpa [guardFirstTwo] using ih
  | case7 count position token second tokens _ _ terms c eq ih => rw [eq] at ih; simpa using ih

theorem readTerms_two (count position : Nat) (tokens : List String) :
    ∃ t u terms, (readTerms (count + 2) position tokens).1 = t :: u :: terms := by
  have two := length_readTerms (count + 2) position tokens
  cases read : (readTerms (count + 2) position tokens).1 with
  | nil => simp [read] at two
  | cons t rest =>
    cases rest with
    | nil => simp [read] at two
    | cons u terms => exact ⟨t, u, terms, rfl⟩

/-- The term of an expression is the one term that its tokens are read as. -/
theorem readTerms_tokenize (expression : String) :
    (readTerms 1 0 (tokenize expression)).1 = [parse expression] := by
  obtain ⟨t, eq⟩ := List.length_eq_one_iff.mp (length_readTerms 1 0 (tokenize expression))
  simp [parse, Cursor.readTerm, Cursor.start, eq]

/-- Reading moves the cursor as passing over does. -/
theorem readTerms_snd (count position : Nat) (tokens : List String) :
    (readTerms count position tokens).2 = Cursor.skipTerms count position tokens := by
  fun_induction readTerms count position tokens with
  | case1 => simp [Cursor.skipTerms]
  | case2 => rfl
  | case3 count position terms c eq ih => simpa [Cursor.skipTerms, eq] using ih
  | case4 count position token h terms c eq ih => simpa [Cursor.skipTerms, h, eq] using ih
  | case5 count position second tokens terms c eq ih => simpa [Cursor.skipTerms, eq] using ih
  | case6 count position token tokens h terms c eq ih => simpa [Cursor.skipTerms, h, eq] using ih
  | case7 count position token second tokens h h' terms c eq ih =>
    simpa [Cursor.skipTerms, h, h', eq] using ih

/-- A guard takes the first two terms and leaves the others. -/
theorem guardFirstTwo_append {feature : String} {terms : List Term} (two : 2 ≤ terms.length)
    (more : List Term) :
    guardFirstTwo feature (terms ++ more) = guardFirstTwo feature terms ++ more := by
  match terms, two with
  | t :: u :: terms, _ => rfl

/-- Past the end every term is absent and counts two reads. -/
theorem readTerms_nil (count position : Nat) :
    readTerms count position [] = (List.replicate count .absent, ⟨[], position + 2 * count⟩) := by
  cases count <;> rfl

/-- A branch mark in term position is an absent term by itself. -/
theorem readTerms_branch (count position : Nat) (tokens : List String) :
    readTerms (count + 1) position (branchToken :: tokens) =
      (.absent :: (readTerms count (position + 1) tokens).1,
        (readTerms count (position + 1) tokens).2) := by
  cases tokens <;> simp [readTerms]

/-- A token that no guard mark follows is a leaf and takes the token after it along. -/
theorem readTerms_leaf {token second : String} (plain : token ≠ branchToken)
    (unguarded : second ≠ guardToken) (count position : Nat) (tokens : List String) :
    readTerms (count + 1) position (token :: second :: tokens) =
      (.leaf token :: (readTerms count (position + 2) tokens).1,
        (readTerms count (position + 2) tokens).2) := by
  simp [readTerms, plain, unguarded]

/-- A token that a guard mark follows asks for two more terms. -/
theorem readTerms_guard {token : String} (plain : token ≠ branchToken) (count position : Nat)
    (tokens : List String) :
    readTerms (count + 1) position (token :: guardToken :: tokens) =
      (guardFirstTwo token (readTerms (count + 2) (position + 2) tokens).1,
        (readTerms (count + 2) (position + 2) tokens).2) := by
  simp [readTerms, plain]

/-- What is read does not depend on where the reading starts to count. -/
theorem readTerms_position (count position other : Nat) (tokens : List String) :
    (readTerms count position tokens).1 = (readTerms count other tokens).1 := by
  fun_induction readTerms count position tokens generalizing other with
  | case1 => simp [readTerms]
  | case2 => simp [readTerms]
  | case3 count position terms c eq ih => simp [readTerms, ← ih (other + 1), eq]
  | case4 count position token h terms c eq ih => simp [readTerms, h, ← ih (other + 2), eq]
  | case5 count position second tokens terms c eq ih => simp [readTerms, ← ih (other + 1), eq]
  | case6 count position token tokens h terms c eq ih =>
    simp [readTerms, h, ← ih (other + 2), eq]
  | case7 count position token second tokens h h' terms c eq ih =>
    simp [readTerms, h, h', ← ih (other + 2), eq]

/-- Reading some terms and then more of them is reading all of them. -/
theorem readTerms_add (count more position : Nat) (tokens : List String) :
    (readTerms (count + more) position tokens).1 =
      (readTerms count position tokens).1 ++
        (readTerms more (readTerms count position tokens).2.position
          (readTerms count position tokens).2.rest).1 := by
  fun_induction readTerms count position tokens generalizing more with
  | case1 => simp
  | case2 count position => simp [readTerms_nil]
  | case3 count position terms c eq ih =>
    have := ih more
    rw [eq] at this
    simp [Nat.add_right_comm count 1 more, readTerms, this]
  | case4 count position token h terms c eq ih =>
    have := ih more
    rw [eq] at this
    simp [Nat.add_right_comm count 1 more, readTerms, h, this]
  | case5 count position second tokens terms c eq ih =>
    have := ih more
    rw [eq] at this
    simp [Nat.add_right_comm count 1 more, readTerms, this]
  | case6 count position token tokens h terms c eq ih =>
    have := ih more
    have len := length_readTerms (count + 2) (position + 2) tokens
    rw [eq] at this len
    rw [Nat.add_right_comm count 1 more, readTerms]
    simp only [h, if_false, if_true]
    rw [Nat.add_right_comm count more 2, this, guardFirstTwo_append (by omega)]
  | case7 count position token second tokens h h' terms c eq ih =>
    have := ih more
    rw [eq] at this
    simp [Nat.add_right_comm count 1 more, readTerms, h, h', this]

end FeatureChoice.Expression
