import FeatureChoice.Proofs.Selection.Ways
/-!
Evaluating an expression again. When the probes of a cache register nothing, an evaluation that
ends leaves the cache knowing the answer of every guard that was asked, of the guards that name no
feature too. From then on the way to the chosen leaf is read off the cache.

* `Host.knows_follow`: the decisions of a descent are known where it ends.
* `Host.Repeats`: hosts on which an expression comes to a selection without anything happening.
* `Host.select_again`: an evaluation that ended can be repeated, and a guard that it asked twice had
  one answer.
-/

namespace FeatureChoice

open Expression

namespace Host

variable {h k l : Host} {id : CacheId}

/-- The decisions of a descent are known where it ends: the answer of a guard is known once it is
given, and the rest of the descent only adds to what is known. -/
theorem knows_follow {depth : Nat} {t : Term} {v : Option String} {ds : List Decision}
    (inquires : h.Inquires id) (ended : (follow depth id t).outcome h = (.ok (v, ds), l)) :
    h.Advances id l ∧ l.Knows id ds := by
  induction t generalizing h ds with
  | leaf name =>
    cases ended
    exact ⟨.refl id _, .nil⟩
  | guarded feature t u iht ihu =>
    obtain ⟨b, k, rest, asked, went, rfl⟩ := follow_guarded_of_ok ended
    have advances := advances_query inquires depth (.inl rfl) (.text feature)
    rw [asked] at advances
    have known : (k.cache id).known? (.text feature) = some b := known_query rfl asked
    have later : k.Advances id l ∧ l.Knows id rest := by
      cases b with
      | false => exact ihu (advances.inquires inquires) went
      | true => exact iht (advances.inquires inquires) went
    obtain ⟨further, knows⟩ := later
    exact ⟨advances.trans further, .cons (further.known known) knows⟩

/-! ### Evaluations -/

/-- A host on which an expression comes to a selection without anything happening to any cache: no
probe is called, not even where none may be, and all that an evaluation does is to write to the
debug trace. -/
structure Repeats (h : Host) (id : CacheId) (expression : String) (s : Selection) : Prop where
  select : ∀ depth, ∃ k, (select depth id expression).outcome h = (.ok s, k) ∧ h.Alike k
  walk : ∀ depth,
    (walk depth id (parse expression)).outcome (h, []) = (.ok s.value, (h, s.decisions))

/-- What can be followed without a change repeats. -/
theorem repeats_of_follow {expression : String} {v : Option String} {ds : List Decision}
    (again : ∀ depth, (follow depth id (parse expression)).outcome h = (.ok (v, ds), h)) :
    h.Repeats id expression ⟨expression, v, ds⟩ := by
  constructor
  · intro depth
    obtain ⟨same, left⟩ := outcome_select depth id expression h
    rw [again depth] at same left
    exact ⟨_, Prod.ext same rfl, left.symm⟩
  · intro depth
    obtain ⟨more, walked, ends⟩ := collects_walk depth id (parse expression) h []
    rw [again depth] at walked ends
    rw [walked, ends _ rfl]
    rfl

/-- Evaluating is idempotent on a cache whose probes register nothing, whatever else they do: an
evaluation that ended comes to the same when it is done again, in one pass or as a walk over the
tree, without a probe being called and with the caches as they are; and in one evaluation a guard
that was asked twice had one answer. -/
theorem select_again {depth : Nat} {expression : String} {s : Selection}
    (inquires : h.Inquires id) (ended : (select depth id expression).outcome h = (.ok s, k)) :
    k.Repeats id expression s ∧
      ∀ d ∈ s.decisions, ∀ d' ∈ s.decisions, d.feature = d'.feature → d.value = d'.value := by
  obtain ⟨rfl, l, alike, went⟩ := follow_of_select ended
  have knows : k.Knows id s.decisions := (knows_follow inquires went).2.alike alike
  obtain ⟨before, after, reaches⟩ := reaches_of_follow went
  constructor
  · exact repeats_of_follow (follow_of_reaches reaches knows)
  · intro d mem d' mem' same
    exact knows.value_eq mem mem' same

theorem inquires_nestingHost : nestingHost.Inquires ⟨0⟩ := by
  intro key p found context
  have entry := OrderedMap.mem_of_find found
  rcases List.mem_cons.mp entry with dom | later
  · cases dom
    exact trivial
  · rcases List.mem_cons.mp later with canvas | none
    · cases canvas
      exact fun b => trivial
    · cases none

/-- The probe of `canvas` queries `dom` on the way, `canvas` is asked twice, and nothing is known of
`touch`. -/
theorem select_again_nesting :
    let expression := "canvas?touch?pad:canvas?dom?full:text:none:none"
    let s : Selection :=
      ⟨expression, some "full", [⟨"canvas", true⟩, ⟨"touch", false⟩, ⟨"canvas", true⟩, ⟨"dom", true⟩]⟩
    nestingHost.Inquires ⟨0⟩ ∧
      ∃ k, (select 2 ⟨0⟩ expression).outcome nestingHost = (.ok s, k) ∧
        k.Repeats ⟨0⟩ expression s := by
  intro expression s
  have ends : ((select 2 ⟨0⟩ expression).outcome nestingHost).1.toOption = some s := by
    decide +kernel
  rcases ended : (select 2 ⟨0⟩ expression).outcome nestingHost with ⟨stop | found, k⟩
  · rw [ended] at ends
    cases ends
  · rw [ended] at ends
    cases ends
    exact ⟨inquires_nestingHost, k, rfl, (select_again inquires_nestingHost ended).1⟩

end Host

end FeatureChoice
