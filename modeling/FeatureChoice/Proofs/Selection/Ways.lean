import FeatureChoice.Proofs.Feature.Inquiry
import FeatureChoice.Proofs.Selection.Agreement
/-!
Ways through a tree. The decisions of a descent are the directions to a leaf, and the leaf is told
from others of the same name by what stands to its left and to its right. A cache that knows these
decisions sends every descent the same way.

* `Expression.Term.Reaches`: the way that decisions take. Its leaf is one of the tree
  (`Reaches.leaves`), and its guards are some of the tree's, in their order (`Reaches.guards`).
* `Expression.Term.exists_reaches`, `Expression.Term.exists_reaches_guard`: every leaf and every
  guard is on a way.
* `Host.reaches_of_follow`: a descent that ends took the way of its decisions.
* `Host.follow_of_reaches`: a cache that knows the decisions of a way takes it, and nothing happens.
* `Host.follow_of_select`: an evaluation that ends is a descent that ends.
-/

namespace FeatureChoice

open Expression

/-! ### Trees -/

namespace Expression.Term

/-- The way that decisions take through a tree: it ends at a leaf, which has some of the leaves
before it and some after it. -/
inductive Reaches : Term → List Decision → List (Option String) → Option String →
    List (Option String) → Prop
  | leaf (name : Option String) : Reaches (.leaf name) [] [] name []
  | whenTrue {feature : String} {t u : Term} {ds : List Decision}
      {before after : List (Option String)} {name : Option String}
      (rest : Reaches t ds before name after) :
      Reaches (.guarded feature t u) (⟨feature, true⟩ :: ds) before name (after ++ u.leaves)
  | whenFalse {feature : String} {t u : Term} {ds : List Decision}
      {before after : List (Option String)} {name : Option String}
      (rest : Reaches u ds before name after) :
      Reaches (.guarded feature t u) (⟨feature, false⟩ :: ds) (t.leaves ++ before) name after

variable {t : Term} {ds : List Decision} {before after : List (Option String)}
  {name : Option String}

/-- A way through a tree leads to one of its leaves. -/
theorem Reaches.leaves (reaches : t.Reaches ds before name after) :
    t.leaves = before ++ name :: after := by
  induction reaches with
  | leaf name => rfl
  | whenTrue rest ih => simp [Term.leaves, ih]
  | whenFalse rest ih => simp [Term.leaves, ih]

/-- Of the guards those that are passed over are left out. -/
theorem Reaches.guards (reaches : t.Reaches ds before name after) :
    (ds.map Decision.feature).Sublist t.guards := by
  induction reaches with
  | leaf name => exact .slnil
  | whenTrue rest ih => exact .cons_cons _ (ih.trans (List.sublist_append_left _ _))
  | whenFalse rest ih => exact .cons_cons _ (ih.trans (List.sublist_append_right _ _))

/-- Every leaf is at the end of a way. -/
theorem exists_reaches (leaves : t.leaves = before ++ name :: after) :
    ∃ ds, t.Reaches ds before name after := by
  induction t generalizing before after with
  | leaf name' =>
    obtain ⟨rfl, rest⟩ := List.append_eq_singleton_iff.mp leaves.symm |>.resolve_right (by simp)
    cases rest
    exact ⟨[], .leaf name⟩
  | guarded feature t u iht ihu =>
    rcases List.append_eq_append_iff.mp leaves with ⟨inner, rfl, right⟩ | ⟨inner, left, right⟩
    · obtain ⟨ds, reaches⟩ := ihu right
      exact ⟨_, .whenFalse reaches⟩
    · cases inner with
      | nil =>
        rw [List.append_nil] at left
        have first : u.leaves = [] ++ name :: after := right.symm
        obtain ⟨ds, reaches⟩ := ihu first
        refine ⟨⟨feature, false⟩ :: ds, ?_⟩
        rw [← left, ← List.append_nil t.leaves]
        exact .whenFalse reaches
      | cons _ inner =>
        obtain ⟨rfl, rfl⟩ := List.cons.inj right
        obtain ⟨ds, reaches⟩ := iht left
        exact ⟨_, .whenTrue reaches⟩

/-- Every tree has a way through it, to its first leaf. -/
theorem exists_way (t : Term) : ∃ ds before name after, t.Reaches ds before name after := by
  induction t with
  | leaf name => exact ⟨[], [], name, [], .leaf name⟩
  | guarded feature t u iht _ =>
    obtain ⟨ds, before, name, after, reaches⟩ := iht
    exact ⟨_, _, _, _, .whenTrue reaches⟩

/-- Every guard is on a way. -/
theorem exists_reaches_guard {guard : String} (mem : guard ∈ t.guards) :
    ∃ ds before name after, t.Reaches ds before name after ∧ guard ∈ ds.map Decision.feature := by
  induction t with
  | leaf name => cases mem
  | guarded feature t u iht ihu =>
    rcases List.mem_cons.mp mem with rfl | inner
    · obtain ⟨ds, before, name, after, reaches⟩ := t.exists_way
      exact ⟨_, _, _, _, .whenTrue reaches, List.mem_cons_self⟩
    · rcases List.mem_append.mp inner with left | right
      · obtain ⟨ds, before, name, after, reaches, asked⟩ := iht left
        exact ⟨_, _, _, _, .whenTrue reaches, List.mem_cons_of_mem _ asked⟩
      · obtain ⟨ds, before, name, after, reaches, asked⟩ := ihu right
        exact ⟨_, _, _, _, .whenFalse reaches, List.mem_cons_of_mem _ asked⟩

end Expression.Term

/-! ### Known decisions -/

namespace Host

variable {h k l : Host} {id : CacheId} {depth : Nat} {t u : Term} {feature : String}
  {v : Option String} {ds : List Decision}

/-- A cache makes these decisions without calling a probe. -/
def Knows (h : Host) (id : CacheId) (ds : List Decision) : Prop :=
  ∀ d ∈ ds, (h.cache id).known? (.text d.feature) = some d.value

namespace Knows

theorem nil : h.Knows id [] := by
  intro d mem
  cases mem

/-- Decisions are known if the first one is and the others are. -/
theorem cons {d : Decision} (first : (h.cache id).known? (.text d.feature) = some d.value)
    (rest : h.Knows id ds) : h.Knows id (d :: ds) := by
  intro d' mem
  rcases List.mem_cons.mp mem with rfl | later
  · exact first
  · exact rest d' later

theorem head {d : Decision} (knows : h.Knows id (d :: ds)) :
    (h.cache id).known? (.text d.feature) = some d.value := knows d List.mem_cons_self

theorem tail {d : Decision} (knows : h.Knows id (d :: ds)) : h.Knows id ds :=
  fun d' mem => knows d' (List.mem_cons_of_mem _ mem)

/-- What a cache knows does not depend on the log. -/
theorem alike (knows : h.Knows id ds) (alike : k.Alike h) : k.Knows id ds := by
  obtain ⟨journal, tracing, rfl⟩ := alike
  exact knows

/-- A cache makes one decision for a feature. -/
theorem value_eq (knows : h.Knows id ds) {d d' : Decision} (mem : d ∈ ds) (mem' : d' ∈ ds)
    (same : d.feature = d'.feature) : d.value = d'.value := by
  have value := knows d mem
  rw [same, knows d' mem'] at value
  exact (Option.some.inj value).symm

end Knows

/-! ### Descents -/

/-- A descent that ends asked a first guard, and then went on in the branch that the answer
picks. -/
theorem follow_guarded_of_ok
    (ended : (follow depth id (.guarded feature t u)).outcome h = (.ok (v, ds), l)) :
    ∃ b k rest, (query depth id (.text feature)).outcome h = (.ok b, k) ∧
      (follow depth id (if b then t else u)).outcome k = (.ok (v, rest), l) ∧
      ds = ⟨feature, b⟩ :: rest := by
  rw [outcome_follow_guarded] at ended
  rcases asked : (query depth id (.text feature)).outcome h with ⟨stop | b, k⟩
  · rw [asked] at ended
    cases ended
  · rcases went : (follow depth id (if b then t else u)).outcome k with ⟨stop | ⟨v', rest⟩, l'⟩
    · simp [asked, went, Except.map] at ended
    · simp only [asked, went, Except.map, Prod.mk.injEq, Except.ok.injEq] at ended
      obtain ⟨⟨rfl, rfl⟩, rfl⟩ := ended
      exact ⟨b, k, rest, rfl, went, rfl⟩

/-- A descent that ends, whatever probes did, took the way of its decisions. -/
theorem reaches_of_follow (ended : (follow depth id t).outcome h = (.ok (v, ds), k)) :
    ∃ before after, t.Reaches ds before v after := by
  induction t generalizing h ds with
  | leaf name =>
    cases ended
    exact ⟨[], [], .leaf _⟩
  | guarded feature t u iht ihu =>
    obtain ⟨b, k', rest, _, went, rfl⟩ := follow_guarded_of_ok ended
    cases b with
    | false =>
      obtain ⟨before, after, reaches⟩ := ihu went
      exact ⟨_, _, .whenFalse reaches⟩
    | true =>
      obtain ⟨before, after, reaches⟩ := iht went
      exact ⟨_, _, .whenTrue reaches⟩

/-- A cache that knows the decisions of a way takes it, at any depth, and nothing happens. -/
theorem follow_of_reaches {before after : List (Option String)}
    (reaches : t.Reaches ds before v after) (knows : h.Knows id ds) (depth : Nat) :
    (follow depth id t).outcome h = (.ok (v, ds), h) := by
  induction reaches with
  | leaf name => rfl
  | whenTrue _ ih =>
    rw [outcome_follow_guarded, query_of_known rfl knows.head]
    simp only [if_true, ih knows.tail, Except.map]
  | whenFalse _ ih =>
    rw [outcome_follow_guarded, query_of_known rfl knows.head]
    simp only [Bool.false_eq_true, if_false, ih knows.tail, Except.map]

/-- An evaluation that ends is a descent that ends, apart from what it writes to the debug trace. -/
theorem follow_of_select {expression : String} {s : Selection}
    (ended : (select depth id expression).outcome h = (.ok s, k)) :
    s.expression = expression ∧ ∃ l, k.Alike l ∧
      (follow depth id (parse expression)).outcome h = (.ok (s.value, s.decisions), l) := by
  obtain ⟨same, left⟩ := outcome_select depth id expression h
  rw [ended] at same left
  rcases found : (follow depth id (parse expression)).outcome h with ⟨stop | ⟨v, ds⟩, l⟩
  · rw [found] at same
    cases same
  · rw [found] at same left
    cases same
    exact ⟨rfl, l, left, rfl⟩

end Host

end FeatureChoice
