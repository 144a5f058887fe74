import FeatureChoice.Proofs.Feature.Independence
import FeatureChoice.Proofs.Feature.Memoization
/-!
Answers and what is stored. A probe is arbitrary host code between the moment at which a query
reads the entry of its feature and the moment at which the query writes the answer. Meanwhile it may
remove the feature, put something else in its place, or ask for it again.

* `Event.replaces`, `Unfolds.keeps`: the two kinds of events that replace an entry, and that over a
  history without them an entry stays.
* `Host.query_answer_is_stored`: what a query answers is stored, whatever its probe did, and a probe
  that fails stays pending, unless it replaced its own entry.
-/

namespace FeatureChoice

variable {id : CacheId} {key : Key}

/-! ### What replaces an entry -/

/-- What a call of a feature's probe answers, if the event is the return of one. -/
def Event.answer? (id : CacheId) (key : Key) : Event → Option Bool
  | .ended id' key' _ (.ok b) => if id' = id ∧ key' = key then some b else none
  | _ => none

/-- Whether the event is the return of a call of a feature's probe. -/
def Event.returns (id : CacheId) (key : Key) (e : Event) : Bool := (e.answer? id key).isSome

/-- Whether the event replaces the entry of a feature: something is forced on it, or a call of its
probe returns. -/
def Event.replaces (id : CacheId) (key : Key) (e : Event) : Bool :=
  e.forces id key || e.returns id key

/-- An event that does not replace an entry leaves it where it is. -/
theorem Event.Leads.keeps {e : Event} {c c' : Caches} {running running' : List Frame}
    {entry : Entry} (leads : e.Leads c running c' running') (spared : e.replaces id key = false)
    (found : (c id).find? key = some entry) : (c' id).find? key = some entry := by
  obtain ⟨unforced, unreturned⟩ := Bool.or_eq_false_iff.mp spared
  cases leads with
  | missing => exact found
  | resolved => exact found
  | called => exact found
  | @returned id' key' p b _ =>
    rw [find?_set_store, if_neg]
    · exact found
    · rintro ⟨rfl, rfl⟩
      simp [Event.returns, Event.answer?] at unreturned
  | stopped => exact found
  | @registered id' key' o force _ =>
    by_cases same : id' = id ∧ key' = key
    · obtain ⟨rfl, rfl⟩ := same
      simp only [Event.forces, decide_true, Bool.and_self, Bool.true_and] at unforced
      subst unforced
      exact find?_set_offer_unforced c found
    · rw [find?_set_offer_of_ne c o force same]
      exact found

/-- An entry that is there stays until something replaces it. -/
theorem Unfolds.keeps {c c' : Caches} {running running' : List Frame} {moments : List Moment}
    {entry : Entry} (unfolds : Unfolds c running moments c' running')
    (spared : ∀ m ∈ moments, m.event.replaces id key = false)
    (found : (c id).find? key = some entry) : (c' id).find? key = some entry := by
  induction unfolds with
  | nil => exact found
  | @cons _ _ m _ _ _ _ leads _ ih =>
    have kept := leads.keeps (spared m List.mem_cons_self) found
    exact ih (fun m' mem => spared m' (List.mem_cons_of_mem _ mem)) kept

/-- An entry that is there stays, or something replaces it. -/
theorem Unfolds.keeps_or_replaces {c c' : Caches} {running running' : List Frame}
    {moments : List Moment} {entry : Entry} (unfolds : Unfolds c running moments c' running')
    (found : (c id).find? key = some entry) :
    (c' id).find? key = some entry ∨ ∃ m ∈ moments, m.event.replaces id key = true := by
  cases replaced : moments.any fun m => m.event.replaces id key with
  | true => exact .inr (List.any_eq_true.mp replaced)
  | false =>
    have spared := List.any_eq_false.mp replaced
    exact .inl (unfolds.keeps (fun m mem => Bool.eq_false_iff.mpr (spared m mem)) found)

/-! ### Histories of sessions -/

/-- What a session leaves in the caches is what its history leads to. -/
theorem unfolds_serve (depth : Nat) (id : CacheId) (requests : List Request) (h : Host) :
    Unfolds h.cache [] (history depth id requests h)
      ((serve (Host.access depth) id requests).outcome h).2.cache [] := by
  obtain ⟨more, went, unfolds⟩ := follows_serve depth id requests h [] []
  rw [history, went]
  exact unfolds

namespace Host

/-- What a query leaves in the caches is what its history leads to. -/
theorem unfolds_query (depth : Nat) (id : CacheId) (name : FeatureName) (h : Host) :
    Unfolds h.cache [] (history depth id [.query name] h)
      ((query depth id name).outcome h).2.cache [] := by
  have unfolds := unfolds_serve depth id [.query name] h
  rwa [outcome_serve_singleton, Request.run, bind_pure_comp, Run.outcome_map] at unfolds

/-! ### Queries -/

variable {h : Host} {name : FeatureName} {p : Probe}

theorem find?_keep (id : CacheId) (key : Key) (b : Bool) (h : Host) :
    (((keep id key b).outcome h).2.cache id).find? key = some (.resolved b) := by
  simp [cache_keep, find?_set_store]

/-- Whatever probes do, a query that answers either finds no feature, or the answer is what the
feature is resolved to from then on: the same query right after it answers the same, calls no probe
and changes nothing. A query under a name that can be written fails only because the call of the
feature's probe failed, and the feature is still pending with this probe, unless something that
happened during the call replaced it. -/
theorem query_answer_is_stored (depth : Nat) (id : CacheId) (name : FeatureName) (h : Host) :
    let asked := (query depth id name).outcome h
    match asked.1 with
    | .ok b =>
      (h.cache id).cell name = none ∧ b = false ∧ asked.2 = h ∨
        (asked.2.cache id).cell name = some (.resolved b) ∧
          ∀ depth', (query depth' id name).outcome asked.2 = (.ok b, asked.2)
    | .error (.fault f) =>
      name.key = .error .longInteger ∧ f = .longInteger ∧ asked.2 = h ∨
        ∃ key p, name.key? = some key ∧ (h.cache id).find? key = some (.pending p) ∧
          (call depth id p).outcome h = (.error (.fault f), asked.2) ∧
          ((asked.2.cache id).find? key = some (.pending p) ∨
            ∃ m ∈ history depth id [.query name] h, m.event.replaces id key = true)
    | .error .unfinished => True := by
  intro asked
  cases named : name.key with
  | error e =>
    have without : name.key? = none := by rw [FeatureName.key?, named]; rfl
    have ended : asked = (unnamed name, h) := query_of_unnamed without h id depth
    rw [ended]
    cases e with
    | compound kind =>
      rw [unnamed, FeatureName.sought, named]
      exact .inl ⟨Cache.cell_of_unnamed without _, rfl, rfl⟩
    | longInteger =>
      rw [unnamed, FeatureName.sought, named]
      exact .inl ⟨rfl, rfl, rfl⟩
  | ok key =>
    have key? : name.key? = some key := FeatureName.key?_eq_some_iff.mpr named
    have cell := Cache.cell_of_key? key?
    rcases found : (h.cache id).find? key with _ | (b | p)
    · have ended : asked = (.ok false, h) := query_of_missing key? found depth
      rw [ended]
      exact .inl ⟨(cell _).trans found, rfl, rfl⟩
    · have ended : asked = (.ok b, h) := query_of_resolved key? found depth
      rw [ended]
      exact .inr ⟨(cell _).trans found, query_of_resolved key? found⟩
    · have ended : asked = _ := query_of_call key? found depth
      have unfolds : Unfolds h.cache [] _ asked.2.cache [] := unfolds_query _ id name h
      rw [ended] at unfolds ⊢
      rcases called : (call depth id p).outcome h with ⟨stop | b, k⟩
      · cases stop with
        | unfinished => trivial
        | fault f =>
          rw [called] at unfolds
          exact .inr ⟨key, p, key?, found, called, unfolds.keeps_or_replaces found⟩
      · have stored := find?_keep id key b k
        exact .inr ⟨(cell _).trans stored, query_of_resolved key? stored⟩

/-- A feature whose probe asks for another one and fails, and this other one, whose probe settles
the first. -/
def settledByAnother : Host :=
  let first : Probe :=
    ⟨"k", "k", fun _ => .query (.text "j") fun _ => .fail "RuntimeError" "no canvas"⟩
  let other : Probe :=
    ⟨"j", "j", fun _ => .register (.text "k") (.bool true) true (.finish (.bool true))⟩
  let (id, h) :=
    empty.addCache ((Cache.new .plain).sow [(.text "j", .probe other), (.text "k", .probe first)])
  { h with workspace := some id }

/-- A probe that fails need not be pending afterwards, though it registered nothing itself: it is
enough that a probe which it called did. And a query under an integer that cannot be written fails
without a probe. -/
theorem failed_probe_need_not_be_pending :
    let asked := (query 2 ⟨0⟩ (.text "k")).outcome settledByAnother
    asked.1 = .error (.fault (.raised "RuntimeError" "no canvas")) ∧
      (asked.2.cache ⟨0⟩).find? (.text "k") = some (.resolved true) ∧
      (readUnder Cache.isPending ⟨0⟩ (.text "k")).outcome asked.2 = (.ok false, asked.2) ∧
      (query 2 ⟨0⟩ .overlong).outcome empty = (.error (.fault .longInteger), empty) :=
  ⟨rfl, rfl, rfl, query_overlong _ _ _⟩

end Host

end FeatureChoice
