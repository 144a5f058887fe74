import Mathlib.Data.List.Nodup
import FeatureChoice.Proofs.Feature.Stocking
import FeatureChoice.Proofs.Selection.Ways
/-!
What the lists of an expression say about its evaluations. The guards of the tree are what may be
asked, in this order, and the names of its leaves are what may be selected. If no guard is repeated,
nothing on the lists is idle: truths for the guards that point along a way send the evaluation to
its leaf.

* `Expression.Term.seed`, `Host.selectUnder`: evaluating on a new cache that holds truths for the
  guards.
* `Host.select_within_lists`: an evaluation stays within the lists.
* `Host.exists_truth`: truths can send an evaluation along every way.
* `inspection_exact`: so an evaluation can come to all that is on the lists, and to nothing else.
-/

namespace FeatureChoice

open Expression

namespace Expression.Term

/-- The names among those of some leaves that choose something. -/
def choices (leaves : List (Option String)) : List String :=
  leaves.filterMap fun name => if chooses name then name else none

theorem candidates_eq (t : Term) : t.candidates = choices t.leaves := rfl

/-- The choices of leaves are those of their parts. -/
theorem choices_append (before after : List (Option String)) :
    choices (before ++ after) = choices before ++ choices after :=
  List.filterMap_append

theorem choices_cons {name : String} (named : name ≠ "") (after : List (Option String)) :
    choices (some name :: after) = name :: choices after := by
  simp [choices, chooses, named]

/-- A name on the list of candidates is that of a leaf. -/
theorem leaves_of_candidates {t : Term} {name : String} {before after : List String}
    (split : t.candidates = before ++ name :: after) :
    ∃ left right, t.leaves = left ++ some name :: right ∧ name ≠ "" ∧
      choices left = before ∧ choices right = after := by
  obtain ⟨left, rest, leaves, chosen, remaining⟩ := List.filterMap_eq_append_iff.mp split
  obtain ⟨skipped, leaf, right, rfl, idle, names, choosing⟩ :=
    List.filterMap_eq_cons_iff.mp remaining
  have none : choices skipped = [] := List.filterMap_eq_nil_iff.mpr idle
  cases leaf with
  | none => cases names
  | some name' =>
    by_cases named : name' = ""
    · simp [chooses, named] at names
    · obtain rfl : name' = name := by simpa [chooses, named] using names
      refine ⟨left ++ skipped, right, ?_, named, ?_, choosing⟩
      · rw [leaves, List.append_assoc]
      · rw [choices_append, none, List.append_nil]
        exact chosen

/-- The truths that are assigned to the guards of a tree. -/
def seed (truth : String → Bool) (t : Term) : SeedTruths := ⟨t.guards.map fun g => (g, truth g)⟩

/-- The truths that point along a way. -/
def pointing (ds : List Decision) (feature : String) : Bool := decide (⟨feature, true⟩ ∈ ds)

/-- If no guard is repeated on a way, its decisions are the truths that point along it. -/
theorem pointing_eq {ds : List Decision} (distinct : (ds.map Decision.feature).Nodup) :
    ∀ d ∈ ds, pointing ds d.feature = d.value := by
  rintro ⟨feature, value⟩ mem
  cases value with
  | true => exact decide_eq_true mem
  | false =>
    apply decide_eq_false
    intro mem'
    cases List.inj_on_of_nodup_map distinct mem mem' rfl

end Expression.Term

namespace Host

/-- Make a cache that holds truths for the guards of an expression, and evaluate the expression on
it. -/
def selectUnder (depth : Nat) (context : Context) (truth : String → Bool) (expression : String) :
    Run Host Selection := do
  let id ← newCache context (Seed.toOffers ((parse expression).seed truth))
  select depth id expression

variable {h : Host} {truth : String → Bool} {t : Term}

/-- A new cache that holds truths for the guards knows the guards. -/
theorem known_seed (truth : String → Bool) (context : Context) {guard : String}
    (mem : guard ∈ t.guards) :
    ((Cache.new context).sow (Seed.toOffers (t.seed truth))).known? (.text guard) =
      some (truth guard) := by
  have found : (t.seed truth).entries.reverse.lookup guard = some (truth guard) := by
    rw [Term.seed, ← List.map_reverse]
    exact List.lookup_graph truth (List.mem_reverse.mpr mem)
  rw [Cache.known?, Cache.sow_toOffers, Cache.find?_forceTruths, found]
  rfl

/-- A new cache whose truths point along a way sends the evaluation that way. -/
theorem select_of_reaches {expression : String} {ds : List Decision} {v : Option String}
    {before after : List (Option String)}
    (reaches : (parse expression).Reaches ds before v after)
    (points : ∀ d ∈ ds, truth d.feature = d.value) (depth : Nat) (context : Context) (h : Host) :
    ∃ k, (selectUnder depth context truth expression).outcome h = (.ok ⟨expression, v, ds⟩, k) := by
  let id : CacheId := ⟨h.caches.size⟩
  let stocked := (Cache.new context).sow (Seed.toOffers ((parse expression).seed truth))
  let k := h.setCache id stocked
  have made : (newCache context (Seed.toOffers ((parse expression).seed truth))).outcome h =
      (.ok id, k) := rfl
  have cache : k.cache id = stocked := by simp [k]
  have knows : k.Knows id ds := by
    intro d mem
    have guard : d.feature ∈ (parse expression).guards :=
      reaches.guards.subset (List.mem_map_of_mem mem)
    rw [cache, known_seed truth context guard, points d mem]
  obtain ⟨same, _⟩ := outcome_select depth id expression k
  rw [follow_of_reaches reaches knows depth] at same
  rw [selectUnder, Run.outcome_bind_of_ok made]
  exact ⟨_, Prod.ext same rfl⟩

/-- If no guard of an expression is repeated, there are truths that send its evaluation along a
way. -/
theorem exists_truth {expression : String} {ds : List Decision} {v : Option String}
    {before after : List (Option String)}
    (reaches : (parse expression).Reaches ds before v after)
    (distinct : (parse expression).guards.Nodup) :
    ∃ truth, ∀ depth context h, ∃ k,
      (selectUnder depth context truth expression).outcome h = (.ok ⟨expression, v, ds⟩, k) := by
  have points := Term.pointing_eq (reaches.guards.nodup distinct)
  exact ⟨Term.pointing ds, fun depth context h => select_of_reaches reaches points depth context h⟩

/-- An evaluation that ends asks guards of the list in the order of the list, and selects one of the
candidates if it selects anything. -/
theorem select_within_lists {depth : Nat} {id : CacheId} {k : Host} {expression : String}
    {s : Selection} (ended : (select depth id expression).outcome h = (.ok s, k)) :
    s.queried.Sublist (parse expression).guards ∧
      ∀ name, s.identifier = some name → name ∈ (parse expression).candidates := by
  obtain ⟨_, l, _, went⟩ := follow_of_select ended
  obtain ⟨before, after, reaches⟩ := reaches_of_follow went
  constructor
  · exact reaches.guards
  · intro name named
    obtain ⟨value, chosen⟩ := Option.filter_eq_some_iff.mp named
    rw [Term.candidates_eq, reaches.leaves, value, Term.choices_append,
      Term.choices_cons (of_decide_eq_true chosen)]
    exact List.mem_append_right _ List.mem_cons_self

end Host

open Host

/-- An evaluation that ends, on any cache and with all probes, asks some of the guards on the list
in the order of the list, and selects one of the candidates if it selects anything. If no guard is
on the list twice, then every candidate on the list, where names may well be repeated, is the leaf
that the evaluation ends at for some truths of the guards, and every guard is asked for some. -/
theorem inspection_exact (expression : String) :
    (∀ depth id h s k, (select depth id expression).outcome h = (.ok s, k) →
      s.queried.Sublist (parse expression).guards ∧
      ∀ name, s.identifier = some name → name ∈ (parse expression).candidates) ∧
    ((parse expression).guards.Nodup →
      (∀ before name after, (parse expression).candidates = before ++ name :: after →
        ∃ truth, ∀ depth context h, ∃ s k left right,
          (selectUnder depth context truth expression).outcome h = (.ok s, k) ∧
          s.identifier = some name ∧
          (parse expression).Reaches s.decisions left (some name) right ∧
          Term.choices left = before ∧ Term.choices right = after) ∧
      ∀ guard ∈ (parse expression).guards,
        ∃ truth, ∀ depth context h, ∃ s k,
          (selectUnder depth context truth expression).outcome h = (.ok s, k) ∧
          guard ∈ s.queried) := by
  refine ⟨fun _ _ _ _ _ ended => select_within_lists ended, fun distinct => ⟨?_, ?_⟩⟩
  · intro before name after split
    obtain ⟨left, right, leaves, named, rfl, rfl⟩ := Term.leaves_of_candidates split
    obtain ⟨ds, reaches⟩ := Term.exists_reaches leaves
    obtain ⟨truth, ends⟩ := exists_truth reaches distinct
    refine ⟨truth, fun depth context h => ?_⟩
    obtain ⟨k, ended⟩ := ends depth context h
    refine ⟨_, k, left, right, ended, ?_, reaches, rfl, rfl⟩
    simp [Selection.identifier, named]
  · intro guard mem
    obtain ⟨ds, before, v, after, reaches, asked⟩ := Term.exists_reaches_guard mem
    obtain ⟨truth, ends⟩ := exists_truth reaches distinct
    refine ⟨truth, fun depth context h => ?_⟩
    obtain ⟨k, ended⟩ := ends depth context h
    exact ⟨_, k, ended, asked⟩

end FeatureChoice
