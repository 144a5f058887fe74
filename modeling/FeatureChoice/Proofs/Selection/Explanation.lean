import FeatureChoice.Command.Run
import FeatureChoice.Proofs.Selection.Agreement
import Mathlib.Data.List.Forall2
/-!
Explanations agree with selections. An explanation visits every place of a tree and carries along
whether the way to the place was taken; a selection follows the answers and passes the rest over.

* `Explanation.Marks`: what an explanation is in terms of the leaf that is reached and of the
  decisions on the way, by recursion on the tree.
* `Explanation.explains_of`: asking the guards while explaining is asking them on a descent.
* `Command.Shows`: what the printed tree tells about a selection.
* `explain_agrees_select`: an explanation asks the same queries as the evaluation of the same text,
  with the same answers, and shows its selection.
-/

namespace FeatureChoice

open Expression (Term parse)

variable {σ τ γ α β : Type}

/-! ### Marked trees -/

/-- An explanation of a tree marks the leaf that was reached and gives the answers on the way to
it; beside the way nothing is reached and nothing was asked. -/
inductive Explanation.Marks : Explanation → Term → Option String × List Decision → Prop where
  | leaf (name : Option String) : Marks (.leaf name true) (.leaf name) (name, [])
  | whenTrue {feature : String} {t u : Term} {found : Option String × List Decision}
      {e : Explanation} (marks : Marks e t found) :
      Marks (.guarded feature (some true) e (.passed u)) (.guarded feature t u)
        (found.1, ⟨feature, true⟩ :: found.2)
  | whenFalse {feature : String} {t u : Term} {found : Option String × List Decision}
      {e : Explanation} (marks : Marks e u found) :
      Marks (.guarded feature (some false) (.passed t) e) (.guarded feature t u)
        (found.1, ⟨feature, false⟩ :: found.2)

/-- A run that ends with an explanation of a tree beside a run that ends with what is found there:
they stop in the same way, or the explanation marks what is found. -/
def Run.Explains (t : Term) (x : Run σ Explanation) (y : Run σ (Option String × List Decision)) :
    Prop :=
  ∀ s, match y.outcome s with
    | (.ok found, s') => ∃ e, x.outcome s = (.ok e, s') ∧ e.Marks t found
    | (.error stop, s') => x.outcome s = (.error stop, s')

theorem Run.Explains.map {t t' : Term} {x : Run σ Explanation}
    {y : Run σ (Option String × List Decision)} (explains : Explains t x y)
    {f : Explanation → Explanation}
    {g : Option String × List Decision → Option String × List Decision}
    (marks : ∀ e found, e.Marks t found → (f e).Marks t' (g found)) :
    Explains t' (f <$> x) (g <$> y) := by
  intro s
  have explained := explains s
  rw [outcome_map, outcome_map]
  rcases found : y.outcome s with ⟨result, s'⟩
  rw [found] at explained
  cases result with
  | error stop => simp [explained, Except.map]
  | ok result =>
    obtain ⟨e, went, marked⟩ := explained
    exact ⟨f e, by simp [went, Except.map], marks e result marked⟩

/-- Explaining a tree asks what a descent into the tree asks; it stops where the descent stops, and
else marks what the descent finds. -/
theorem Explanation.explains_of (ask : String → Run σ Bool) (t : Term) :
    Run.Explains t (of ask t) (t.descend ask) := by
  induction t with
  | leaf name =>
    intro s
    exact ⟨.leaf name true, rfl, .leaf name⟩
  | guarded feature t u iht ihu =>
    intro s
    rw [of_guarded, Term.descend]
    rcases asked : (ask feature).outcome s with ⟨answer, s'⟩
    cases answer with
    | error stop =>
      rw [Run.outcome_bind_of_error asked, Run.outcome_bind_of_error asked]
    | ok b =>
      rw [Run.outcome_bind_of_ok asked, Run.outcome_bind_of_ok asked]
      cases b with
      | true => exact iht.map (fun _ _ => .whenTrue) s'
      | false => exact ihu.map (fun _ _ => .whenFalse) s'

/-! ### Queries on the side -/

/-- A query of a feature with how it ended. -/
structure Asked where
  name : FeatureName
  answer : Except Stop Bool

/-- Query features and keep each query with how it ended. -/
def noting (ask : FeatureName → Run σ Bool) (name : FeatureName) : Run (σ × List Asked) Bool :=
  fun s =>
    let (answer, s') := ask name s.1
    (answer, (s', s.2 ++ [⟨name, answer⟩]))

theorem outcome_noting (ask : FeatureName → Run σ Bool) (name : FeatureName) (s : σ)
    (asked : List Asked) :
    (noting ask name).outcome (s, asked) =
      (((ask name).outcome s).1,
        (((ask name).outcome s).2, asked ++ [⟨name, ((ask name).outcome s).1⟩])) := rfl

/-- To do what the other run does with something kept on the side, as a comparison. -/
def keeping [Hosted σ] : Comparison (σ × γ) σ :=
  .ofRelation (fun s t => s.1 = t) fun _ _ _ same => by
    subst same
    exact ⟨rfl, rfl⟩

/-- Noting what is asked does not change what is answered. -/
theorem keeping_noting [Hosted σ] (ask : FeatureName → Run σ Bool) (name : FeatureName) :
    keeping.Rel (noting ask name) (ask name) := by
  rintro ⟨s, asked⟩ _ rfl
  exact ⟨rfl, rfl⟩

/-- Doing and keeping the same on hosts that differ in the log, as a comparison. -/
def agreementBeside : Comparison (Host × γ) (Host × γ) :=
  .ofRelation (Beside Host.Alike) fun neutral => Run.Similar.onHost neutral.agree

/-- Noted queries agree on hosts that differ in their logs. -/
theorem agreementBeside_noting (depth : Nat) (id : CacheId) (name : FeatureName) :
    agreementBeside.Rel (noting (Host.query depth id) name) (noting (Host.query depth id) name) := by
  rintro ⟨h, asked⟩ ⟨h', _⟩ ⟨alike, rfl⟩
  obtain ⟨same, left⟩ := Host.agree_query depth id name h h' alike
  refine ⟨same, left, ?_⟩
  rw [outcome_noting, outcome_noting, same]

theorem agreementBeside_traced {x y : Run (Host × γ) α} (row : Log.Row)
    (agree : agreementBeside.Rel x y) :
    agreementBeside.Rel ((Host.change (·.trace row)).onHost >>= fun _ => x) y := by
  rintro ⟨h, kept⟩ ⟨h', kept'⟩ ⟨alike, same⟩
  exact agree (h.trace row, kept) (h', kept') ⟨(Host.Alike.trace h row).symm.trans alike, same⟩

theorem Comparison.visit [Hosted σ] [Hosted τ] (C : Comparison σ τ) {ask : String → Run σ Bool}
    {ask' : String → Run τ Bool} (asked : ∀ feature, C.Rel (ask feature) (ask' feature))
    (taken : Bool) (t : Term) :
    C.Rel (Explanation.visit ask taken t) (Explanation.visit ask' taken t) := by
  induction t generalizing taken with
  | leaf name => exact C.pure _
  | guarded feature t u iht ihu =>
    have answered : C.Rel (if taken then some <$> ask feature else Pure.pure none)
        (if taken then some <$> ask' feature else Pure.pure none) := by
      cases taken with
      | false => exact C.pure none
      | true => exact C.map (asked feature) some
    refine C.bind answered fun answer => ?_
    exact C.bind (iht _) fun _ => C.bind (ihu _) fun _ => C.pure _

/-! ### Printed trees -/

namespace Explanation

/-- The leaves from left to right, each with whether it is reached. -/
def leaves : Explanation → List (Option String × Bool)
  | .leaf name reached => [(name, reached)]
  | .guarded _ _ t u => t.leaves ++ u.leaves

/-- The guards from top to bottom, each with its answer if it was asked. -/
def guards : Explanation → List (String × Option Bool)
  | .leaf .. => []
  | .guarded feature answer t u => (feature, answer) :: (t.guards ++ u.guards)

@[simp] theorem leaves_passed (t : Term) :
    (passed t).leaves = t.leaves.map fun name => (name, false) := by
  induction t with
  | leaf name => rfl
  | guarded feature t u iht ihu => simp [passed, leaves, Term.leaves, iht, ihu]

@[simp] theorem guards_passed (t : Term) :
    (passed t).guards = t.guards.map fun feature => (feature, none) := by
  induction t with
  | leaf name => rfl
  | guarded feature t u iht ihu => simp [passed, guards, Term.guards, iht, ihu]

/-- One leaf is reached, and it has the name that is found. -/
theorem Marks.leaves_eq {e : Explanation} {t : Term} {found : Option String × List Decision}
    (marks : e.Marks t found) :
    ∃ before after, t.leaves = before ++ found.1 :: after ∧
      e.leaves = before.map (fun name => (name, false)) ++
        (found.1, true) :: after.map (fun name => (name, false)) := by
  induction marks with
  | leaf name => exact ⟨[], [], rfl, rfl⟩
  | @whenTrue feature t u found e _ ih =>
    obtain ⟨before, after, names, marked⟩ := ih
    refine ⟨before, after ++ u.leaves, ?_, ?_⟩
    · simp [Term.leaves, names]
    · simp [leaves, marked]
  | @whenFalse feature t u found e _ ih =>
    obtain ⟨before, after, names, marked⟩ := ih
    refine ⟨t.leaves ++ before, after, ?_, ?_⟩
    · simp [Term.leaves, names]
    · simp [leaves, marked]

def decision? (guard : String × Option Bool) : Option Decision :=
  guard.2.map fun b => ⟨guard.1, b⟩

/-- Where nothing is reached there are no decisions. -/
theorem filterMap_decision?_passed (t : Term) : (passed t).guards.filterMap decision? = [] := by
  simp [decision?]

/-- The guards are those of the tree, and the ones with an answer are the decisions. -/
theorem Marks.guards_eq {e : Explanation} {t : Term} {found : Option String × List Decision}
    (marks : e.Marks t found) :
    e.guards.map Prod.fst = t.guards ∧ e.guards.filterMap decision? = found.2 := by
  induction marks with
  | leaf name => exact ⟨rfl, rfl⟩
  | @whenTrue feature t u found e _ ih =>
    obtain ⟨names, decided⟩ := ih
    refine ⟨?_, ?_⟩
    · simp [guards, Term.guards, names, Function.comp_def]
    · simp only [guards, List.filterMap_cons, List.filterMap_append, filterMap_decision?_passed,
        decided, List.append_nil]
      rfl
  | @whenFalse feature t u found e _ ih =>
    obtain ⟨names, decided⟩ := ih
    refine ⟨?_, ?_⟩
    · simp [guards, Term.guards, names, Function.comp_def]
    · simp only [guards, List.filterMap_cons, List.filterMap_append, filterMap_decision?_passed,
        decided, List.nil_append]
      rfl

end Explanation

namespace Layout.Tree

mutual

/-- The labels of the places without branches, from left to right. -/
def leafLabels : Tree → List String
  | .node label [] => [label]
  | .node _ (t :: ts) => t.leafLabels ++ allLeafLabels ts

def allLeafLabels : List Tree → List String
  | [] => []
  | t :: ts => t.leafLabels ++ allLeafLabels ts

end

mutual

/-- The labels of the places with branches, from top to bottom. -/
def forkLabels : Tree → List String
  | .node _ [] => []
  | .node label (t :: ts) => label :: (t.forkLabels ++ allForkLabels ts)

def allForkLabels : List Tree → List String
  | [] => []
  | t :: ts => t.forkLabels ++ allForkLabels ts

end

end Layout.Tree

namespace Command

/-- What stands in front of the label of the whole term, of a first branch and of a second one. -/
def leads : List String := ["", "? ", ": "]

/-- A printed label shows a text behind one of the leads. -/
def Labels (label text : String) : Prop := ∃ lead ∈ leads, label = lead ++ text

/-- The leaves of the drawn tree are labelled as those of the explanation. -/
theorem leafLabels_explanationTree (e : Explanation) (lead : String) (isLead : lead ∈ leads) :
    List.Forall₂ Labels (explanationTree lead e).leafLabels
      (e.leaves.map fun leaf => leafLabel leaf.1 leaf.2) := by
  induction e generalizing lead with
  | leaf name reached => exact .cons ⟨lead, isLead, rfl⟩ .nil
  | guarded feature answer t u iht ihu =>
    have first := iht "? " (by simp [leads])
    have second := ihu ": " (by simp [leads])
    simp only [explanationTree, Layout.Tree.leafLabels, Layout.Tree.allLeafLabels, List.append_nil,
      Explanation.leaves, List.map_append]
    exact List.rel_append first second

/-- The forks of the drawn tree are labelled as the guards of the explanation. -/
theorem forkLabels_explanationTree (e : Explanation) (lead : String) (isLead : lead ∈ leads) :
    List.Forall₂ Labels (explanationTree lead e).forkLabels
      (e.guards.map fun guard => guardLabel guard.1 guard.2) := by
  induction e generalizing lead with
  | leaf name reached => exact .nil
  | guarded feature answer t u iht ihu =>
    have first := iht "? " (by simp [leads])
    have second := ihu ": " (by simp [leads])
    simp only [explanationTree, Layout.Tree.forkLabels, Layout.Tree.allForkLabels, List.append_nil,
      Explanation.guards, List.map_append, List.map_cons]
    exact .cons ⟨lead, isLead, rfl⟩ (List.rel_append first second)

/-- What the printed tree of a term tells about a selection. Every leaf and every guard of the term
has its place in the tree. One leaf is marked as the result, and it has the name that was selected;
the guards shown with a truth are the decisions, from top to bottom, and every other guard is shown
as skipped. -/
structure Shows (tree : Layout.Tree) (t : Term) (s : Selection) : Prop where
  result : ∃ before after, t.leaves = before ++ s.value :: after ∧
    List.Forall₂ Labels tree.leafLabels
      (before.map (leafLabel · false) ++ leafLabel s.value true :: after.map (leafLabel · false))
  decisions : ∃ guards : List (String × Option Bool), guards.map Prod.fst = t.guards ∧
    List.Forall₂ Labels tree.forkLabels (guards.map fun guard => guardLabel guard.1 guard.2) ∧
    guards.filterMap Explanation.decision? = s.decisions

/-- A tree that is drawn from right marks shows the selection. -/
theorem shows_of_marks {e : Explanation} {t : Term} {value : Option String}
    {decisions : List Decision} (marks : e.Marks t (value, decisions)) (expression : String) :
    Shows (explanationTree "" e) t ⟨expression, value, decisions⟩ := by
  have isLead : "" ∈ leads := by simp [leads]
  constructor
  · obtain ⟨before, after, names, marked⟩ := marks.leaves_eq
    have labels := leafLabels_explanationTree e "" isLead
    simp only [marked, List.map_append, List.map_cons, List.map_map] at labels
    exact ⟨before, after, names, labels⟩
  · obtain ⟨names, decided⟩ := marks.guards_eq
    exact ⟨e.guards, names, forkLabels_explanationTree e "" isLead, decided⟩

end Command

/-! ### Explanations and selections -/

/-- The one-pass evaluator makes the queries of a descent into the tree of its text and selects what
the descent finds. -/
theorem agreementBeside_selectBy (depth : Nat) (id : CacheId) (expression : String) :
    agreementBeside.Rel (selectBy (noting (Host.query depth id)) expression)
      ((fun found => ⟨expression, found.1, found.2⟩) <$>
        (parse expression).descend fun feature => noting (Host.query depth id) (.text feature)) := by
  rw [selectBy_eq_descend, ← bind_pure_comp]
  have guards : ∀ feature,
      agreementBeside.Rel (tracedAsk (noting (Host.query depth id)) expression feature)
        (noting (Host.query depth id) (.text feature)) := by
    intro feature
    rw [← bind_pure (noting (Host.query depth id) (.text feature))]
    refine agreementBeside.bind (agreementBeside_noting depth id _) fun b => ?_
    exact agreementBeside_traced _ (agreementBeside.pure b)
  refine agreementBeside.bind (agreementBeside.descend guards _) fun found => ?_
  exact agreementBeside_traced _ (agreementBeside.pure _)

/-- An explanation makes the queries that the evaluation of the same text makes, in the same order
and with the same answers, and leaves the host in the same state but for the log. Either stops
where the other one does; and if they end, the printed tree shows the selection. -/
theorem Host.explain_agrees_select (depth : Nat) (id : CacheId) (expression : String) (h : Host) :
    let ask := noting (query depth id)
    let explained := (Explanation.of (fun feature => ask (.text feature))
      (parse expression)).outcome (h, [])
    let selected := (selectBy ask expression).outcome (h, [])
    (Command.explain depth id expression).outcome h = (explained.1, explained.2.1) ∧
      (select depth id expression).outcome h = (selected.1, selected.2.1) ∧
      explained.2.2 = selected.2.2 ∧ explained.2.1.Alike selected.2.1 ∧
      match explained.1, selected.1 with
      | .ok e, .ok s => ∃ tree,
        Command.expressionTree expression e =
            .node ("expression " ++ Text.quoted expression) [tree] ∧
          Command.Shows tree (parse expression) s
      | .error stop, .error stop' => stop = stop'
      | _, _ => False := by
  intro ask explained selected
  have noted : ∀ name, keeping.Rel (ask name) (query depth id name) :=
    keeping_noting (query depth id)
  have explains : (Command.explain depth id expression).outcome h = (explained.1, explained.2.1) := by
    have keeps := keeping.visit (fun feature => noted (.text feature)) true (parse expression)
    obtain ⟨same, left⟩ := keeps (h, []) h rfl
    exact Prod.ext same.symm left.symm
  have selects : (select depth id expression).outcome h = (selected.1, selected.2.1) := by
    obtain ⟨same, left⟩ := keeping.selectBy noted expression (h, []) h rfl
    exact Prod.ext same.symm left.symm
  refine ⟨explains, selects, ?_⟩
  -- both are the descent into the tree: the one marks what is found, the other one selects it
  obtain ⟨same, left, kept⟩ :=
    agreementBeside_selectBy depth id expression (h, []) (h, []) ⟨.refl h, rfl⟩
  have marked := Explanation.explains_of (fun feature => ask (.text feature)) (parse expression)
    (h, [])
  rw [Run.outcome_map] at same left kept
  rcases went : ((parse expression).descend fun feature => ask (.text feature)).outcome (h, [])
    with ⟨result, k, asked⟩
  rw [went] at same left kept marked
  cases result with
  | error stop =>
    have stopped : explained = (.error stop, k, asked) := marked
    have stopped' : selected.1 = .error stop := same
    rw [stopped, stopped']
    exact ⟨kept.symm, left.symm, rfl⟩
  | ok found =>
    obtain ⟨e, visited, marks⟩ := marked
    have ended : explained = (.ok e, k, asked) := visited
    have ended' : selected.1 = .ok ⟨expression, found.1, found.2⟩ := same
    rw [ended, ended']
    exact ⟨kept.symm, left.symm, _, rfl, Command.shows_of_marks marks expression⟩

end FeatureChoice
