import FeatureChoice.Proofs.Selection.Asking
/-!
What a selection depends on. An evaluation asks the guards on the way to the leaf that it reaches
and no others. So it depends on the answers of these guards alone, however the rest of the
expression is nested, and it leaves alone every feature that it does not report. The answers are
those that the guards give one after the other: a probe may look at what the probes before it did.

* `Host.askAll`, `Host.follow_of_askAll`: a cache that gives the answers on a way in their order
  takes this way.
* `Host.Steady`, `Host.askAll_of_steady`: where no answer depends on what else was asked, the order
  does not matter.
* `Host.Evaluates`, `Host.exists_evaluates`: an evaluation whose probes answer and leave their cache
  alone ends, and touches the features that it reports.
* `Host.select_depends_on_decisions`: two such evaluations make the same selection if the second
  cache gives the answers that the first one reports.
* `Host.selections_differ_by_shared_element`: it is not enough that each answer by itself would be
  the same.
-/

namespace FeatureChoice

open Expression

namespace Host

variable {h h' k l : Host} {id id' : CacheId} {depth depth' : Nat} {expression feature : String}
  {t : Term} {ds : List Decision}

/-! ### Asking in order -/

/-- Ask a cache for features one after the other. -/
def askAll (depth : Nat) (id : CacheId) (features : List String) : Run Host (List Bool) :=
  features.mapM fun feature => query depth id (.text feature)

theorem outcome_askAll_cons (features : List String) (h : Host) :
    (askAll depth id (feature :: features)).outcome h =
      match (query depth id (.text feature)).outcome h with
      | (.ok b, k) =>
        let rest := (askAll depth id features).outcome k
        (rest.1.map (b :: ·), rest.2)
      | (.error stop, k) => (.error stop, k) := by
  rw [askAll, List.mapM_cons, Run.outcome_bind]
  rcases (query depth id (.text feature)).outcome h with ⟨stop | b, k⟩
  · rfl
  · dsimp only
    rw [bind_pure_comp, Run.outcome_map]
    rfl

/-- If all features are answered in their order, so are the later ones after the first. -/
theorem askAll_cons_of_ok {features : List String} {b : Bool} {bs : List Bool}
    (asked : (askAll depth id (feature :: features)).outcome h = (.ok (b :: bs), k)) :
    ∃ l, (query depth id (.text feature)).outcome h = (.ok b, l) ∧
      (askAll depth id features).outcome l = (.ok bs, k) := by
  rw [outcome_askAll_cons] at asked
  rcases answered : (query depth id (.text feature)).outcome h with ⟨stop | b', l⟩
  · rw [answered] at asked
    cases asked
  · rw [answered] at asked
    dsimp only at asked
    rcases went : (askAll depth id features).outcome l with ⟨stop | bs', k'⟩
    · rw [went] at asked
      cases asked
    · rw [went] at asked
      cases asked
      exact ⟨l, rfl, went⟩

/-- If a cache is asked for the features on a way and gives the answers on it, a descent takes this
way. -/
theorem follow_of_askAll {before after : List (Option String)} {name : Option String}
    (reaches : t.Reaches ds before name after)
    (asked : (askAll depth id (ds.map Decision.feature)).outcome h =
      (.ok (ds.map Decision.value), k)) :
    (follow depth id t).outcome h = (.ok (name, ds), k) := by
  induction reaches generalizing h with
  | leaf name =>
    cases asked
    rfl
  | whenTrue _ ih =>
    obtain ⟨l, answered, rest⟩ := askAll_cons_of_ok asked
    rw [outcome_follow_guarded, answered]
    simp only [if_true, ih rest, Except.map]
  | whenFalse _ ih =>
    obtain ⟨l, answered, rest⟩ := askAll_cons_of_ok asked
    rw [outcome_follow_guarded, answered]
    simp only [Bool.false_eq_true, if_false, ih rest, Except.map]

/-- What a cache answers for a feature does not depend on what it was asked for before. -/
def Steady (depth : Nat) (id : CacheId) (h : Host) : Prop :=
  ∀ asked feature,
    ((query depth id (.text feature)).outcome ((askAll depth id asked).outcome h).2).1 =
      ((query depth id (.text feature)).outcome h).1

/-- A cache stays steady when it is asked. -/
theorem Steady.asked (steady : h.Steady depth id) {b : Bool}
    (answered : (query depth id (.text feature)).outcome h = (.ok b, k)) : k.Steady depth id := by
  have later : ∀ asked, ((askAll depth id (feature :: asked)).outcome h).2 =
      ((askAll depth id asked).outcome k).2 := by
    intro asked
    rw [outcome_askAll_cons, answered]
  intro asked other
  have now := steady [feature] other
  rw [later] at now
  rw [← later, steady (feature :: asked) other]
  exact now.symm

/-- A steady cache answers in any order what it answers for each feature by itself. -/
theorem askAll_of_steady (steady : h.Steady depth id)
    (answers : ∀ d ∈ ds, ((query depth id (.text d.feature)).outcome h).1 = .ok d.value) :
    ∃ k, (askAll depth id (ds.map Decision.feature)).outcome h =
      (.ok (ds.map Decision.value), k) := by
  induction ds generalizing h with
  | nil => exact ⟨h, rfl⟩
  | cons d ds ih =>
    obtain ⟨first, rest⟩ := List.forall_mem_cons.mp answers
    rcases answered : (query depth id (.text d.feature)).outcome h with ⟨result, l⟩
    rw [answered] at first
    subst first
    have others : ∀ d' ∈ ds, ((query depth id (.text d'.feature)).outcome l).1 = .ok d'.value := by
      intro d' mem
      have same := steady [d.feature] d'.feature
      rw [outcome_askAll_cons, answered] at same
      exact same.trans (rest d' mem)
    obtain ⟨k, went⟩ := ih (steady.asked answered) others
    refine ⟨k, ?_⟩
    rw [List.map_cons, outcome_askAll_cons, answered]
    simp only [went, Except.map, List.map_cons]

/-! ### Evaluations -/

/-- The probes that an evaluation calls for its guards answer. -/
def CallsAnswer (depth : Nat) (id : CacheId) (expression : String) (h : Host) : Prop :=
  ∀ guard k p, h.AsksAt depth id expression guard k →
    (k.cache id).find? (.text guard) = some (.pending p) →
    ∃ b l, (call depth id p).outcome k = (.ok b, l)

/-- Evaluating an expression on a cache selects `s` and leaves the host `k`. A feature that `s`
reports holds the answer that is shown, if it has an entry; every other feature is as it was, its
probe has not been called, and no feature has come, gone or moved. -/
structure Evaluates (depth : Nat) (id : CacheId) (expression : String) (h : Host) (s : Selection)
    (k : Host) : Prop where
  ends : (select depth id expression).outcome h = (.ok s, k)
  names : (k.cache id).names = (h.cache id).names
  listed : ∀ d ∈ s.decisions, d.key ∈ (h.cache id).names →
    (k.cache id).find? d.key = some (.resolved d.value)
  unlisted : ∀ key, (∀ d ∈ s.decisions, d.key ≠ key) →
    (k.cache id).find? key = (h.cache id).find? key
  happened : ∀ m ∈ history depth id [.select expression] h, m.event.subject.1 = id →
    ∃ d ∈ s.decisions, m.event.subject = (id, d.key)

/-- The history of an evaluation is what was seen of it. -/
theorem history_select {s : Selection} {more : List Moment}
    (ended : ((Watched.access depth).select id expression).outcome (h, []) = (.ok s, (k, more))) :
    history depth id [.select expression] h = more := by
  rw [history_request, Request.run, Run.outcome_bind_of_ok ended]
  rfl

/-- An evaluation that ends touches what it reports and nothing else, if its probes leave the cache
alone. -/
theorem evaluates_of_ok {s : Selection} (aloof : h.CallsAloof depth id expression)
    (ended : (select depth id expression).outcome h = (.ok s, k)) :
    Evaluates depth id expression h s k := by
  obtain ⟨same, between, descends, rfl⟩ := selectBy_eq_ok_iff.mp ended
  obtain ⟨happened, watched, answers⟩ := Watched.descends descends aloof []
  have answers := answers.after (cache_trace between (Trace.selectedRow s) id)
  have went : ((Watched.access depth).select id expression).outcome (h, []) =
      (.ok s, (between.trace (Trace.selectedRow s), happened)) :=
    selectBy_eq_ok_iff.mpr ⟨same, _, watched, rfl⟩
  constructor
  case ends => exact ended
  case names => exact answers.names
  case listed => exact fun d mem present => answers.settled mem present
  case unlisted => exact answers.kept
  case happened =>
    rw [history_select went]
    exact answers.subjects

/-- An evaluation whose probes answer and leave the cache alone comes to a selection. -/
theorem exists_evaluates (aloof : h.CallsAloof depth id expression)
    (answers : h.CallsAnswer depth id expression) :
    ∃ s k, Evaluates depth id expression h s k := by
  rcases ended : (select depth id expression).outcome h with ⟨stop | s, k⟩
  · obtain ⟨guard, between, p, asks, pending, stops⟩ :=
      (select_stops_iff depth id expression h stop k).mp ended
    obtain ⟨b, l, called⟩ := answers guard between p asks pending
    rw [called] at stops
    cases stops
  · exact ⟨s, k, evaluates_of_ok aloof ended⟩

/-- If a cache gives in their order the answers that a selection reports, it makes this selection. -/
theorem select_of_askAll {s : Selection}
    (ended : (select depth id expression).outcome h = (.ok s, k))
    (asked : (askAll depth' id' (s.decisions.map Decision.feature)).outcome h' =
      (.ok (s.decisions.map Decision.value), l)) :
    ((select depth' id' expression).outcome h').1 = .ok s := by
  obtain ⟨rfl, _, _, went⟩ := follow_of_select ended
  obtain ⟨before, after, reaches⟩ := reaches_of_follow went
  rw [(outcome_select depth' id' s.expression h').1, follow_of_askAll reaches asked]
  rfl

/-- A selection depends on the features that it reports and on nothing else. Evaluations whose
probes answer and leave the cache alone come to a selection, and leave alone the features that they
do not report. If the second cache, asked for the reported features in the order of the report,
gives the reported answers, it makes the same selection with the same decisions, whatever else the
two caches hold. If what it answers does not depend on what it was asked for before, it is enough
that it would give each of these answers by itself. -/
theorem select_depends_on_decisions (aloof : h.CallsAloof depth id expression)
    (answers : h.CallsAnswer depth id expression) (aloof' : h'.CallsAloof depth' id' expression)
    (answers' : h'.CallsAnswer depth' id' expression) :
    ∃ s k s' k', Evaluates depth id expression h s k ∧
      Evaluates depth' id' expression h' s' k' ∧
      (∀ l, (askAll depth' id' (s.decisions.map Decision.feature)).outcome h' =
          (.ok (s.decisions.map Decision.value), l) → s' = s) ∧
      (h'.Steady depth' id' →
        (∀ d ∈ s.decisions,
          ((query depth' id' (.text d.feature)).outcome h').1 = .ok d.value) → s' = s) := by
  obtain ⟨s, k, evaluates⟩ := exists_evaluates aloof answers
  obtain ⟨s', k', evaluates'⟩ := exists_evaluates aloof' answers'
  have transfers : ∀ l, (askAll depth' id' (s.decisions.map Decision.feature)).outcome h' =
      (.ok (s.decisions.map Decision.value), l) → s' = s := by
    intro l asked
    have same := select_of_askAll evaluates.ends asked
    rw [evaluates'.ends] at same
    exact Except.ok.inj same
  refine ⟨s, k, s', k', evaluates, evaluates', transfers, fun steady each => ?_⟩
  obtain ⟨l, asked⟩ := askAll_of_steady steady each
  exact transfers l asked

/-! ### Caches of such probes -/

/-- On a cache all of whose probes answer and leave it alone, an evaluation calls no other probes. -/
theorem calls_of_probes
    (probes : ∀ key p, (h.cache id).find? key = some (.pending p) → ∀ l,
      p.Aloof depth id l ∧ ∃ b k, (call depth id p).outcome l = (.ok b, k))
    (expression : String) :
    h.CallsAloof depth id expression ∧ h.CallsAnswer depth id expression := by
  have first : ∀ {guard k p}, h.AsksAt depth id expression guard k →
      (k.cache id).find? (.text guard) = some (.pending p) →
      (h.cache id).find? (.text guard) = some (.pending p) := by
    rintro guard k p ⟨ds, t, u, descends⟩ found
    exact Watched.pending_of_descends (fun key p pending l => (probes key p pending l).1) descends
      found
  constructor
  · exact callsAloof_of_probes (fun key p pending l => (probes key p pending l).1) expression
  · intro guard k p asks found
    exact (probes _ p (first asks found) k).2

/-- A host with one cache, whose probes do nothing but answer. -/
def answeringHost (resolved : List (String × Bool)) (pending : List (String × Value)) : Host :=
  let known := resolved.map fun feature => (Key.text feature.1, Entry.resolved feature.2)
  let unknown := pending.map fun feature =>
    (Key.text feature.1, Entry.pending ⟨feature.1, feature.1, fun _ => .finish feature.2⟩)
  { Host.empty with caches := ⟨[(⟨0⟩, ⟨.plain, ⟨known ++ unknown⟩⟩)]⟩ }

theorem calls_answeringHost (resolved : List (String × Bool)) (pending : List (String × Value))
    (expression : String) :
    let h := answeringHost resolved pending
    h.CallsAloof 1 ⟨0⟩ expression ∧ h.CallsAnswer 1 ⟨0⟩ expression := by
  refine calls_of_probes (fun key p found l => ?_) expression
  have entry := OrderedMap.mem_of_find found
  have answers : ∃ feature : String × Value,
      p = ⟨feature.1, feature.1, fun _ => .finish feature.2⟩ := by
    rcases List.mem_append.mp entry with known | unknown
    · obtain ⟨feature, _, eq⟩ := List.mem_map.mp known
      cases eq
    · obtain ⟨feature, _, eq⟩ := List.mem_map.mp unknown
      cases eq
      exact ⟨feature, rfl⟩
  obtain ⟨feature, rfl⟩ := answers
  exact ⟨Probe.aloof_of_subjects [] rfl List.not_mem_nil, feature.2.truth, _, rfl⟩

/-- The guard `x` is asked twice, `b` is also the name that is selected, and `z` is passed over. -/
theorem select_depends_on_decisions_repeated :
    let expression := "x?a:y?x?z:b:z"
    let h := answeringHost [("y", true)] [("x", .int 0), ("z", .int 1), ("b", .int 1)]
    let h' := answeringHost [("z", false)] [("y", .text "yes")]
    let s : Selection := ⟨expression, some "b", [⟨"x", false⟩, ⟨"y", true⟩, ⟨"x", false⟩]⟩
    (h.CallsAloof 1 ⟨0⟩ expression ∧ h.CallsAnswer 1 ⟨0⟩ expression) ∧
      (h'.CallsAloof 1 ⟨0⟩ expression ∧ h'.CallsAnswer 1 ⟨0⟩ expression) ∧
      (∃ k, Evaluates 1 ⟨0⟩ expression h s k) ∧ ∃ k', Evaluates 1 ⟨0⟩ expression h' s k' := by
  intro expression h h' s
  obtain ⟨aloof, answers⟩ : h.CallsAloof 1 ⟨0⟩ expression ∧ h.CallsAnswer 1 ⟨0⟩ expression :=
    calls_answeringHost _ _ _
  obtain ⟨aloof', answers'⟩ : h'.CallsAloof 1 ⟨0⟩ expression ∧ h'.CallsAnswer 1 ⟨0⟩ expression :=
    calls_answeringHost _ _ _
  obtain ⟨found, k, found', k', evaluates, evaluates', transfers, _⟩ :=
    select_depends_on_decisions aloof answers aloof' answers'
  have ends : ((select 1 ⟨0⟩ expression).outcome h).1.toOption = some s := by decide +kernel
  rw [evaluates.ends] at ends
  cases ends
  obtain rfl : found' = s := transfers _ rfl
  exact ⟨⟨aloof, answers⟩, ⟨aloof', answers'⟩, ⟨k, evaluates⟩, ⟨k', evaluates'⟩⟩

/-- A probe that writes to its element, and one that answers whether its element is empty. -/
def marking : Probe := ⟨"a", "a", fun _ => .setMarkup "<i></i>" (.finish (.bool true))⟩

def inspecting : Probe :=
  ⟨"b", "b", fun _ => .look .markup fun seen => .finish (.bool !seen.truth)⟩

/-- A host with one cache, whose two probes share an element. -/
def markupHost : Host :=
  let context : Context := ⟨.standard, none, some ⟨0⟩⟩
  let features := [(Key.text "a", Entry.pending marking), (Key.text "b", Entry.pending inspecting)]
  { Host.empty with
    caches := ⟨[(⟨0⟩, ⟨context, ⟨features⟩⟩)]⟩
    elements := ⟨[(⟨0⟩, .new Element.scratchTag)]⟩ }

/-- The guards of an expression are asked one after the other. -/
theorem asksAt_markupHost {guard : String} (asks : markupHost.AsksAt 1 ⟨0⟩ "a?b?x:y:z" guard k) :
    guard = "a" ∧ k = markupHost ∨
      guard = "b" ∧ k = ((query 1 ⟨0⟩ (.text "a")).outcome markupHost).2 := by
  obtain ⟨ds, t, u, descends⟩ := asks
  have parsed : parse "a?b?x:y:z" =
      .guarded "a" (.guarded "b" (.leaf (some "x")) (.leaf (some "y"))) (.leaf (some "z")) := by
    decide +kernel
  rw [parsed] at descends
  cases descends with
  | here => exact .inl ⟨rfl, rfl⟩
  | guard answered goesOn =>
    cases answered
    cases goesOn with
    | here => exact .inr ⟨rfl, rfl⟩
    | guard answered goesOn =>
      cases answered
      cases goesOn

/-- It is not enough that the second cache would give each of the answers by itself: a probe may
answer differently after the ones that are called before it. -/
theorem selections_differ_by_shared_element :
    let expression := "a?b?x:y:z"
    let h := answeringHost [("a", true), ("b", true)] []
    let s : Selection := ⟨expression, some "x", [⟨"a", true⟩, ⟨"b", true⟩]⟩
    let s' : Selection := ⟨expression, some "y", [⟨"a", true⟩, ⟨"b", false⟩]⟩
    (h.CallsAloof 1 ⟨0⟩ expression ∧ h.CallsAnswer 1 ⟨0⟩ expression) ∧
      (markupHost.CallsAloof 1 ⟨0⟩ expression ∧ markupHost.CallsAnswer 1 ⟨0⟩ expression) ∧
      ((select 1 ⟨0⟩ expression).outcome h).1.toOption = some s ∧
      (∀ d ∈ s.decisions,
        ((query 1 ⟨0⟩ (.text d.feature)).outcome markupHost).1 = .ok d.value) ∧
      ((select 1 ⟨0⟩ expression).outcome markupHost).1.toOption = some s' := by
  intro expression h s s'
  refine ⟨calls_answeringHost _ _ _, ⟨?_, ?_⟩, by decide +kernel, ?_, by decide +kernel⟩
  · intro guard k p asks pending
    rcases asksAt_markupHost asks with ⟨rfl, rfl⟩ | ⟨rfl, rfl⟩
    · cases pending
      exact Probe.aloof_of_subjects [] rfl List.not_mem_nil
    · cases pending
      exact Probe.aloof_of_subjects [] rfl List.not_mem_nil
  · intro guard k p asks pending
    rcases asksAt_markupHost asks with ⟨rfl, rfl⟩ | ⟨rfl, rfl⟩
    · cases pending
      exact ⟨true, _, rfl⟩
    · cases pending
      exact ⟨false, _, rfl⟩
  · intro d mem
    rcases List.mem_cons.mp mem with rfl | mem
    · rfl
    · cases List.mem_singleton.mp mem
      rfl

end Host

end FeatureChoice
