import FeatureChoice.Expression.Parse
/-!
Evaluation of conditional expressions in any monad that can answer a guard.

There are two evaluators. `choose` reads the tokens once, from left to right, and keeps only the
number of terms that it still has to pass over; it stops as soon as the chosen leaf is read.
`Term.evaluate` walks a tree. Both ask a guard only when its answer matters.

Main statement: the two make the same choice and ask the same guards in the same order, whatever
the guards do (`choose_eq_evaluate`).
-/

namespace FeatureChoice.Expression

universe u

variable {m : Type → Type u} [Monad m]

/-- Walk a tree: each guard on the path is asked once and picks the branch. -/
def Term.evaluate (ask : String → m Bool) : Term → m (Option String)
  | .leaf name => pure name
  | .guarded feature whenTrue whenFalse => do
    if ← ask feature then whenTrue.evaluate ask else whenFalse.evaluate ask

/-- Pass over a number of terms, then evaluate the next one. A true guard is replaced by the term
after it; a false guard has that term passed over. -/
def chooseAfter (ask : String → m Bool) : Nat → Nat → List String → m (Option String × Cursor)
  | skipped, position, [] => pure (none, ⟨[], position + 2 * (skipped + 1)⟩)
  | 0, position, [token] =>
    if token = branchToken then pure (none, ⟨[], position + 1⟩)
    else pure (some token, ⟨[], position + 2⟩)
  | skipped + 1, position, [token] =>
    if token = branchToken then chooseAfter ask skipped (position + 1) []
    else chooseAfter ask skipped (position + 2) []
  | 0, position, token :: second :: tokens =>
    if token = branchToken then pure (none, ⟨second :: tokens, position + 1⟩)
    else if second = guardToken then do
      if ← ask token then chooseAfter ask 0 (position + 2) tokens
      else chooseAfter ask 1 (position + 2) tokens
    else pure (some token, ⟨tokens, position + 2⟩)
  | skipped + 1, position, token :: second :: tokens =>
    if token = branchToken then chooseAfter ask skipped (position + 1) (second :: tokens)
    else if second = guardToken then chooseAfter ask (skipped + 2) (position + 2) tokens
    else chooseAfter ask skipped (position + 2) tokens

/-- Evaluate the term at a cursor. -/
def Cursor.choose (ask : String → m Bool) (c : Cursor) : m (Option String × Cursor) :=
  chooseAfter ask 0 c.position c.rest

def choose (ask : String → m Bool) (expression : String) : m (Option String) :=
  Prod.fst <$> (Cursor.start (tokenize expression)).choose ask

/-! ### The two evaluators agree -/

/-- Passing terms over and evaluating the next one asks what evaluating this term as a tree asks. -/
theorem chooseAfter_eq_evaluate [LawfulMonad m] (ask : String → m Bool)
    (skipped position : Nat) (tokens : List String) :
    Prod.fst <$> chooseAfter ask skipped position tokens =
      ((readTerms (skipped + 1) position tokens).1[skipped]?.getD .absent).evaluate ask := by
  fun_induction chooseAfter ask skipped position tokens with
  | case1 skipped position =>
    simp [readTerms_nil, Term.evaluate, Term.absent]
  | case2 position => simp [readTerms, Term.evaluate, Term.absent]
  | case3 position token h => simp [readTerms, h, Term.evaluate]
  | case4 skipped position ih => simpa [readTerms] using ih
  | case5 skipped position token h ih => simpa [readTerms, h] using ih
  | case6 position second tokens => simp [readTerms, Term.evaluate, Term.absent]
  | case7 position token tokens h ihTrue ihFalse =>
    obtain ⟨t, u, terms, two⟩ := readTerms_two 0 (position + 2) tokens
    obtain ⟨t', one⟩ := List.length_eq_one_iff.mp (length_readTerms 1 (position + 2) tokens)
    have both := readTerms_add 1 1 (position + 2) tokens
    rw [two, one] at both
    obtain ⟨rfl, _⟩ := List.cons.inj both
    rw [one] at ihTrue
    rw [two] at ihFalse
    rw [readTerms_guard h, two, map_bind]
    simp only [guardFirstTwo, List.getElem?_cons_zero, List.getElem?_cons_succ, Option.getD_some,
      Term.evaluate] at ihTrue ihFalse ⊢
    congr 1
    funext b
    cases b with
    | false => exact ihFalse
    | true => exact ihTrue
  | case8 position token second tokens h h' => simp [readTerms, h, h', Term.evaluate]
  | case9 skipped position second tokens ih => simpa [readTerms] using ih
  | case10 skipped position token tokens h ih =>
    obtain ⟨t, u, terms, two⟩ := readTerms_two (skipped + 1) (position + 2) tokens
    rw [ih, readTerms_guard h, two]
    simp [guardFirstTwo]
  | case11 skipped position token second tokens h h' ih => simpa [readTerms, h, h'] using ih

/-- The one-pass evaluator makes the choice of the tree, asking the same guards in the same
order. -/
theorem choose_eq_evaluate [LawfulMonad m] (ask : String → m Bool) (expression : String) :
    choose ask expression = (parse expression).evaluate ask := by
  rw [choose, Cursor.choose, chooseAfter_eq_evaluate]
  simp [Cursor.start, readTerms_tokenize]

end FeatureChoice.Expression
