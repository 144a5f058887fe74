import FeatureChoice.Proofs.Feature.Independence
import FeatureChoice.Proofs.Selection.Dependence
/-!
Evaluations that fail. The answers of the guards before a failing one are kept, so evaluating again
takes up the work at the guard that failed. Probes may stop at faults, but they leave their cache
alone.

* `Host.FailsAt`, `Host.failsAt_of_error`: what is left of a cache by guards that answer and by one
  that fails.
* `Watched.first_call`: evaluating again calls the probe of that guard before all others.
* `Watched.pending_of_called`: whatever an evaluation calls was pending when it began.
* `Host.Unswayed`: caches whose probes come to the same whatever was done before.
* `Host.failed_select_resumes`: what a failed evaluation leaves, and what comes of another one, with
  and without a value for the guard that failed.
* `Host.failed_probe_leaves_markup`: without the last condition the value does not make up for the
  failure.
-/

namespace FeatureChoice

open Expression

/-! ### What a failed evaluation leaves -/

namespace Host

variable {h k l : Host} {id : CacheId} {depth : Nat} {expression g : String} {p : Probe} {f : Fault}
  {answered : List Decision}

/-- Evaluating an expression on a cache stops at the fault of a guard and leaves the host `k`. The
guards before it answered, and these answers are kept where the feature has an entry. The guard that
failed is pending with its probe, and every other feature is as it was. -/
structure FailsAt (depth : Nat) (id : CacheId) (expression : String) (h : Host)
    (answered : List Decision) (g : String) (p : Probe) (f : Fault) (k : Host) : Prop where
  ends : (select depth id expression).outcome h = (.error (.fault f), k)
  /-- The way through the expression goes by these guards to the one that fails, because the call of
  its probe does. -/
  way : ∃ t u l, (parse expression).Descends (tracedAsk (query depth id) expression) h answered
      (.guarded g t u) l ∧
    (call depth id p).outcome l = (.error (.fault f), k)
  settled : ∀ d ∈ answered, d.key ∈ (h.cache id).names →
    (k.cache id).find? d.key = some (.resolved d.value)
  pending : (h.cache id).find? (.text g) = some (.pending p) ∧
    (k.cache id).find? (.text g) = some (.pending p)
  kept : ∀ key, (∀ d ∈ answered, d.key ≠ key) → (k.cache id).find? key = (h.cache id).find? key
  names : (k.cache id).names = (h.cache id).names

/-- An evaluation that fails does so at a guard, and nothing is lost. -/
theorem failsAt_of_error (aloof : h.CallsAloof depth id expression)
    (failed : (select depth id expression).outcome h = (.error (.fault f), k)) :
    ∃ answered g p, FailsAt depth id expression h answered g p f k ∧ k.Knows id answered := by
  obtain ⟨answered, g, t, u, between, descends, stops⟩ := selectBy_eq_error_iff.mp failed
  obtain ⟨p, pending, called⟩ := (query_stops_iff rfl depth).mp stops
  obtain ⟨_, _, answers⟩ := Watched.descends descends aloof []
  -- the probe that fails leaves the cache alone as well
  have alone := (aloof g between p ⟨answered, t, u, descends⟩ pending).cache
  rw [called] at alone
  have answers := answers.after alone
  refine ⟨answered, g, p, ?_, answers.knows⟩
  rw [← alone] at pending
  constructor
  case ends => exact failed
  case way => exact ⟨t, u, between, descends, called⟩
  case settled => exact fun d mem present => answers.settled mem present
  case pending => exact ⟨(answers.pending pending).2, pending⟩
  case kept => exact answers.kept
  case names => exact answers.names

/-- What is pending after a failed evaluation was pending before. -/
theorem FailsAt.pending_before (fails : FailsAt depth id expression h answered g p f k) {key : Key}
    {q : Probe} (found : (k.cache id).find? key = some (.pending q)) :
    (h.cache id).find? key = some (.pending q) := by
  by_cases listed : ∃ d ∈ answered, d.key = key
  · obtain ⟨d, mem, rfl⟩ := listed
    have present : d.key ∈ (h.cache id).names := by
      rw [← fails.names]
      refine Decidable.of_not_not (mt (Cache.find?_eq_none_iff _ _).mpr ?_)
      simp [found]
    rw [fails.settled d mem present] at found
    cases found
  · rw [← fails.kept key fun d mem same => listed ⟨d, mem, same⟩]
    exact found

end Host

/-! ### What evaluating again calls -/

namespace Watched

variable {h k l : Host} {id : CacheId} {depth : Nat} {expression g : String} {p : Probe}
  {ds : List Decision} {t u rest : Term} {s : Watched}

/-- The history of an evaluation is the one of what is left of it from any part of the tree that it
comes to. -/
theorem history_of_descends
    (descends : (parse expression).Descends (tracedAsk (query depth id) expression) (h, []) ds rest
      s) :
    history depth id [.select expression] h =
      ((rest.descend (tracedAsk (query depth id) expression)).outcome s).2.2 := by
  have went := descends.outcome
  rw [history_request, Request.run, bind_pure_comp, Run.outcome_map]
  show ((selectBy (query depth id) expression).outcome (h, [])).2.2 = _
  rw [selectBy_eq_descend, Run.outcome_bind]
  rcases ended : (rest.descend (tracedAsk (query depth id) expression)).outcome s with
    ⟨stop | found, s'⟩
  · rw [went, ended]
    rfl
  · rw [went, ended]
    rfl

/-- A cache that knows the decisions on a way takes it without calling a probe. -/
theorem descends_of_knows
    (descends : t.Descends (tracedAsk (Host.query depth id) expression) h ds rest l)
    (knows : k.Knows id ds) (seen : List Moment) :
    ∃ k' happened, t.Descends (tracedAsk (query depth id) expression) (k, seen) ds rest
        (k', seen ++ happened) ∧
      k'.cache id = k.cache id ∧ happened.filterMap (·.event.call?) = [] := by
  induction descends generalizing k seen with
  | here => exact ⟨k, [], by rw [List.append_nil]; exact .here, rfl, rfl⟩
  | @guard feature t u h b l ds rest _ answered goesOn ih =>
    have known := knows.head
    have asked : (Host.query depth id (.text feature)).outcome k = (.ok b, k) :=
      Host.query_of_known rfl known depth
    have found : ∀ p, (k.cache id).find? (.text feature) ≠ some (.pending p) := by
      intro p pending
      simp [Cache.known?, pending, Entry.result?] at known
    have named : FeatureName.key? (.text feature) = some (.text feature) := rfl
    have went := outcome_query_of_found named found depth seen
    rw [asked] at went
    let row := Trace.guardRow expression ⟨feature, b⟩
    let begun : Moment := ⟨.queried id (.text feature) ((k.cache id).find? (.text feature)), k⟩
    have traced : (k.trace row).Knows id ds := knows.tail.alike (Host.Alike.trace k row).symm
    obtain ⟨k', happened, descends, same, silent⟩ := ih traced (seen ++ [begun])
    refine ⟨k', begun :: happened, ?_, same.trans (Host.cache_trace k row id), ?_⟩
    · rw [List.append_assoc] at descends
      exact .guard (tracedAsk_eq_ok_iff.mpr ⟨_, went, rfl⟩) descends
    · have quiet : begun.event.call? = none := by
        rcases entry : (k.cache id).find? (.text feature) with _ | (b | p)
        · simp [begun, Event.call?, entry]
        · simp [begun, Event.call?, entry]
        · exact absurd entry (found p)
      rw [List.filterMap_cons, quiet, silent]

/-- A descent only adds to what was seen before. -/
theorem seen_descend (depth : Nat) (id : CacheId) (expression : String) (t : Term) (h : Host)
    (seen : List Moment) :
    let ask := tracedAsk (query depth id) expression
    ((t.descend ask).outcome (h, seen)).2.2 = seen ++ ((t.descend ask).outcome (h, [])).2.2 := by
  intro ask
  have appends : Run.Appends (t.descend ask) := by
    refine (appending.descend (fun feature => ⟨rfl, ?_⟩) t).2
    refine Run.Appends.bind (appends_query depth id (.text feature)) fun b => ?_
    exact Run.Appends.bind (.onHost _) fun _ => .pure b
  rw [appends h seen]

/-- A descent from a guard with a pending probe begins with the call of the probe. -/
theorem seen_guarded (pending : (k.cache id).find? (.text g) = some (.pending p))
    (seen : List Moment) :
    ∃ later, (((Term.guarded g t u).descend
        (tracedAsk (query depth id) expression)).outcome (k, seen)).2.2 =
      seen ++ ⟨.queried id (.text g) (some (.pending p)), k⟩ :: later := by
  have named : FeatureName.key? (.text g) = some (.text g) := rfl
  let begun : Moment := ⟨.queried id (.text g) (some (.pending p)), k⟩
  obtain ⟨result, left, more, asked⟩ : ∃ result left more,
      (query depth id (.text g)).outcome (k, seen) = (result, (left, seen ++ begun :: more)) :=
    ⟨_, _, _, outcome_query_of_call named pending depth seen⟩
  rw [outcome_descend_guarded]
  cases result with
  | error stop =>
    rw [tracedAsk_eq_error_iff.mpr asked]
    exact ⟨more, rfl⟩
  | ok b =>
    rw [tracedAsk_eq_ok_iff.mpr ⟨_, asked, rfl⟩]
    dsimp only [Hosted.host, Hosted.withHost]
    rw [seen_descend, List.append_assoc, List.cons_append]
    exact ⟨_, rfl⟩

/-- If the decisions on the way to a guard are known, an evaluation calls the probe of this guard
before all others. -/
theorem first_call
    (descends : (parse expression).Descends (tracedAsk (Host.query depth id) expression) h ds
      (.guarded g t u) l)
    (knows : k.Knows id ds) (pending : (k.cache id).find? (.text g) = some (.pending p)) :
    ∃ later, (history depth id [.select expression] k).filterMap (·.event.call?) =
      ⟨id, .text g, p⟩ :: later := by
  obtain ⟨k', happened, descends, same, silent⟩ := descends_of_knows descends knows []
  rw [← same] at pending
  obtain ⟨later, seen⟩ := seen_guarded pending happened
  rw [history_of_descends descends, List.nil_append, seen, List.filterMap_append, silent]
  exact ⟨_, rfl⟩

/-- Whatever probe of its cache an evaluation calls was pending when it began, if all that it calls
leave the cache alone. -/
theorem pending_of_called (aloof : h.CallsAloof depth id expression) :
    ∀ c ∈ (history depth id [.select expression] h).filterMap (·.event.call?), c.id = id →
      (h.cache id).find? c.key = some (.pending c.probe) := by
  intro c mem own
  obtain ⟨m, happens, called⟩ := List.mem_filterMap.mp mem
  obtain ⟨ds, rest, l, descends, halts⟩ :=
    Term.exists_descends (tracedAsk (Host.query depth id) expression) (parse expression) h
  obtain ⟨happened, watched, answers⟩ := Watched.descends descends aloof []
  rw [history_of_descends watched, List.nil_append] at happens
  cases halts with
  | leaf => exact answers.calls m happens c called own
  | @stopped guard u v _ l' stop stops =>
    obtain ⟨p, pending, ended⟩ :=
      (Host.query_stops_iff rfl depth).mp (tracedAsk_eq_error_iff.mp stops)
    have named : FeatureName.key? (.text guard) = some (.text guard) := rfl
    have went := outcome_query_of_call named pending depth happened
    rw [ended] at went
    rw [outcome_descend_guarded, tracedAsk_eq_error_iff.mpr went] at happens
    rcases List.mem_append.mp happens with early | late
    · exact answers.calls m early c called own
    · rcases List.mem_append.mp late with begun | last
      · rcases List.mem_cons.mp begun with rfl | meanwhile
        · cases called
          exact (answers.pending pending).2
        · have subject := Event.subject_of_call? called
          refine absurd ((congrArg Prod.fst subject).trans own) ?_
          exact aloof guard l p ⟨ds, u, v, descends⟩ pending m meanwhile
      · cases List.mem_singleton.mp last
        cases called

end Watched

/-! ### A value for the guard that failed -/

/-- The steps that lead to an evaluation after a value was forced on a guard: queries, and that
registration. -/
inductive Step.Resumes (g : String) (v : Value) : Step → Prop where
  | query (feature : String) : Resumes g v (.query (.text feature))
  | force : Resumes g v (.register (.text g) (.value v) false true)

/-- A cell answers the same when it is asked again. -/
theorem Cell.query_query (verdict : Probe → Except Stop Bool) (c : Cell) :
    ((c.query verdict).2.query verdict).1 = (c.query verdict).1 := by
  match c with
  | none => rfl
  | some (.resolved b) => rfl
  | some (.pending p) => cases came : verdict p <;> simp [query, came]

namespace Host

variable {h h' k l : Host} {id : CacheId} {depth : Nat} {expression g : String} {p : Probe}
  {f : Fault}
  {v : Value} {verdict : Probe → Except Stop Bool}

/-- Wherever queries and the forced value lead, the probes of a cache leave it alone and come to the
same. -/
structure Unswayed (depth : Nat) (id : CacheId) (g : String) (v : Value)
    (verdict : Probe → Except Stop Bool) (h : Host) : Prop where
  secluded : h.Secluded depth id (Step.Resumes g v)
  constant : ∀ feature, h.Constant depth id (Step.Resumes g v) feature verdict

/-- What a cache answers for a feature when its probes come to this. -/
def answer (verdict : Probe → Except Stop Bool) (id : CacheId) (h : Host) (feature : String) :
    Except Stop Bool :=
  (((h.cache id).cell (.text feature)).query verdict).1

namespace Unswayed

theorem step (unswayed : h.Unswayed depth id g v verdict) {step : Step}
    (allows : step.Resumes g v) :
    ((step.run depth id).outcome h).2.Unswayed depth id g v verdict :=
  ⟨unswayed.secluded.step allows, fun feature => (unswayed.constant feature).step allows⟩

/-- A query answers what the cache answers, and the cache answers the same from then on. -/
theorem query (unswayed : h.Unswayed depth id g v verdict) {feature : String}
    {result : Except Stop Bool}
    (asked : (query depth id (.text feature)).outcome h = (result, k)) :
    result = answer verdict id h feature ∧ k.Unswayed depth id g v verdict ∧
      answer verdict id k = answer verdict id h := by
  have kept := unswayed.step (.query feature)
  rw [Step.run, Run.outcome_map, asked] at kept
  have named : FeatureName.key? (.text feature) = some (.text feature) := rfl
  obtain ⟨came, touches⟩ := outcome_query_cell verdict named
    (unswayed.secluded h (.refl h) (.text feature))
    fun p => unswayed.constant (.text feature) h (.refl h) (.text feature) p named
  rw [asked] at came touches
  refine ⟨came, kept, funext fun other => ?_⟩
  rw [answer, answer]
  by_cases same : other = feature
  · subst same
    rw [touches.cell, Cell.query_query]
  · have apart : FeatureName.normalize (.text other) ≠ FeatureName.normalize (.text feature) := by
      simpa [FeatureName.normalize] using same
    rw [touches.others _ apart]

/-- So does a cache on which an expression is evaluated, however that ends. -/
theorem follow (unswayed : h.Unswayed depth id g v verdict) {t : Term}
    {result : Except Stop (Option String × List Decision)}
    (went : (follow depth id t).outcome h = (result, k)) :
    k.Unswayed depth id g v verdict ∧ answer verdict id k = answer verdict id h := by
  induction t generalizing h result with
  | leaf name =>
    cases went
    exact ⟨unswayed, rfl⟩
  | guarded feature t u iht ihu =>
    rw [outcome_follow_guarded] at went
    rcases asked : (Host.query depth id (.text feature)).outcome h with ⟨stop | b, l⟩ <;>
      obtain ⟨_, kept, same⟩ := unswayed.query asked <;> rw [asked] at went
    · cases went
      exact ⟨kept, same⟩
    · have left : ((Host.follow depth id (if b then t else u)).outcome l).2 = k :=
        congrArg Prod.snd went
      have goesOn : k.Unswayed depth id g v verdict ∧ answer verdict id k = answer verdict id l := by
        cases b with
        | false => exact ihu kept (Prod.ext rfl left)
        | true => exact iht kept (Prod.ext rfl left)
      exact ⟨goesOn.1, goesOn.2.trans same⟩

/-- Evaluating comes to the same on caches that answer the same. -/
theorem follow_congr (unswayed : h.Unswayed depth id g v verdict)
    (unswayed' : h'.Unswayed depth id g v verdict)
    (same : answer verdict id h' = answer verdict id h) (t : Term) :
    ((Host.follow depth id t).outcome h').1 = ((Host.follow depth id t).outcome h).1 := by
  induction t generalizing h h' with
  | leaf name => rfl
  | guarded feature t u iht ihu =>
    rcases asked : (Host.query depth id (.text feature)).outcome h with ⟨result, k⟩
    rcases asked' : (Host.query depth id (.text feature)).outcome h' with ⟨result', k'⟩
    obtain ⟨came, kept, stays⟩ := unswayed.query asked
    obtain ⟨came', kept', stays'⟩ := unswayed'.query asked'
    rw [outcome_follow_guarded, outcome_follow_guarded, asked, asked']
    obtain rfl : result' = result := by rw [came, came', same]
    have goesOn : answer verdict id k' = answer verdict id k := by rw [stays, stays', same]
    cases result' with
    | error stop => rfl
    | ok b =>
      cases b with
      | false => exact congrArg (Except.map _) (ihu kept kept' goesOn)
      | true => exact congrArg (Except.map _) (iht kept kept' goesOn)

end Unswayed

/-- Evaluate an expression after a value was forced on a feature. -/
def selectWith (depth : Nat) (id : CacheId) (g : String) (v : Value) (expression : String) :
    Run Host Selection := do
  let _ ← register depth id (.text g) (.value v) false true
  select depth id expression

/-- A cache on which a value was forced on a feature answers this feature with the truth of the
value, and all others as before. -/
theorem answer_of_forced (something : v ≠ .none)
    (forced : (enter id (.text g) (.value v) true).outcome h = (.ok (), k)) :
    answer verdict id k = fun feature =>
      if feature = g then .ok v.truth else answer verdict id h feature := by
  have named : FeatureName.key (.text g) = .ok (.text g) := rfl
  obtain ⟨k', entered, touches⟩ := touches_enter h id named (.value v) true
  rw [forced] at entered
  cases entered
  have present : Offer.isNothing (.value v) = false := by
    cases v with
    | none => exact absurd rfl something
    | _ => rfl
  funext feature
  rw [answer]
  split
  · next same =>
    subst same
    rw [touches.cell]
    simp [Cell.offer, present, Entry.ofOffer, Cell.query]
  · next other =>
    have apart : FeatureName.normalize (.text feature) ≠ FeatureName.normalize (.text g) := by
      simpa [FeatureName.normalize] using other
    rw [touches.others _ apart]
    rfl

/-- Once a value is forced on a feature, evaluating comes to the same on caches that answered the
same. -/
theorem selectWith_congr (something : v ≠ .none) (unswayed : h.Unswayed depth id g v verdict)
    (unswayed' : h'.Unswayed depth id g v verdict)
    (same : answer verdict id h' = answer verdict id h) (expression : String) :
    ((selectWith depth id g v expression).outcome h').1 =
      ((selectWith depth id g v expression).outcome h).1 := by
  have forced : ∀ {h : Host}, h.Unswayed depth id g v verdict →
      ∃ k, k.Unswayed depth id g v verdict ∧
        (answer verdict id k = fun feature =>
          if feature = g then .ok v.truth else answer verdict id h feature) ∧
        ((selectWith depth id g v expression).outcome h).1 =
          ((follow depth id (parse expression)).outcome k).1.map
            fun found => ⟨expression, found.1, found.2⟩ := by
    intro h unswayed
    have kept := unswayed.step .force
    have named : FeatureName.key (.text g) = .ok (.text g) := rfl
    obtain ⟨k, entered, _⟩ := puts_enter named h id (.value v) true
    have registered := outcome_register entered depth false
    rw [Step.run, registered] at kept
    refine ⟨k, kept, answer_of_forced something entered, ?_⟩
    rw [selectWith, Run.outcome_bind_of_ok registered]
    exact (outcome_select depth id expression k).1
  obtain ⟨k, kept, answers, came⟩ := forced unswayed
  obtain ⟨k', kept', answers', came'⟩ := forced unswayed'
  rw [came, came', kept.follow_congr kept' (by rw [answers, answers', same])]

/-- Forcing a value and evaluating comes to the same on hosts that differ in their logs. -/
theorem agree_selectWith (depth : Nat) (id : CacheId) (g : String) (v : Value)
    (expression : String) :
    Run.Agree (selectWith depth id g v expression) (selectWith depth id g v expression) :=
  ((over_access depth).register id (.text g) (.value v) false true).bind fun _ =>
    (over_access depth).select id expression

/-- If an evaluation fails whose probes leave the cache alone, then the probe of a guard on the way
failed, and nothing is lost: the answers of the guards before it are kept, this guard is still
pending, and the rest of the cache is as it was. Evaluating again calls the probe of this guard
before all others, and none of the guards before it, if again all probes leave the cache alone. Once
a value is forced on the guard, evaluating comes to what it would have come to with the value there
from the start, if the probes come to the same whatever was queried before. -/
theorem failed_select_resumes
    (failed : (select depth id expression).outcome h = (.error (.fault f), k))
    (aloof : h.CallsAloof depth id expression) (aloofAgain : k.CallsAloof depth id expression) :
    ∃ answered g p, FailsAt depth id expression h answered g p f k ∧
      (∃ later, (history depth id [.select expression] k).filterMap (·.event.call?) =
          ⟨id, .text g, p⟩ :: later ∧
        ∀ c ∈ later, c.id = id → ∀ d ∈ answered, d.key ≠ c.key) ∧
      ∀ v verdict, v ≠ .none → h.Unswayed depth id g v verdict →
        ((selectWith depth id g v expression).outcome k).1 =
          ((selectWith depth id g v expression).outcome h).1 := by
  obtain ⟨answered, g, p, fails, knows⟩ := failsAt_of_error aloof failed
  refine ⟨answered, g, p, fails, ?_, ?_⟩
  · obtain ⟨t, u, l, descends, _⟩ := fails.way
    obtain ⟨later, calls⟩ := Watched.first_call descends knows fails.pending.2
    refine ⟨later, calls, fun c mem own d listed same => ?_⟩
    -- what is called was pending, and what is known is not
    have pending := Watched.pending_of_called aloofAgain c (calls ▸ List.mem_cons_of_mem _ mem) own
    have known : (k.cache id).known? d.key = some d.value := knows d listed
    rw [same] at known
    simp [Cache.known?, pending, Entry.result?] at known
  · intro v verdict something unswayed
    obtain ⟨came, alike⟩ := outcome_select depth id expression h
    rcases went : (follow depth id (parse expression)).outcome h with ⟨result, l⟩
    rw [failed, went] at alike
    obtain ⟨kept, same⟩ := unswayed.follow went
    rw [((agree_selectWith depth id g v expression) k l alike).1]
    exact selectWith_congr something unswayed kept same expression

/-! ### Caches of such probes -/

/-- A cache is unswayed if all its probes leave it alone and come to the same wherever they are
called. -/
theorem unswayed_of_probes
    (probes : ∀ key p, (h.cache id).find? key = some (.pending p) → ∀ l,
      p.Aloof depth id l ∧ ((call depth id p).outcome l).1 = verdict p) (g : String) (v : Value) :
    h.Unswayed depth id g v verdict := by
  let P (p : Probe) : Prop := ∀ l,
    p.Aloof depth id l ∧ ((call depth id p).outcome l).1 = verdict p
  have seeded : ∀ feature, ((h.cache id).cell feature).Holds P := by
    intro feature p pending
    obtain ⟨key, _, found⟩ := Option.bind_eq_some_iff.mp pending
    exact probes key p found
  have offered : ∀ step, Step.Resumes g v step → ∀ p, step.offer? = some (.probe p) → P p := by
    intro step resumes p offers
    cases resumes with
    | query feature => cases offers
    | force => cases offers
  obtain ⟨secluded, kind⟩ := secluded_of_aloof depth (P := P) (fun p holds l => (holds l).1) seeded
    offered
  refine ⟨secluded, fun feature k leads key p named pending => ?_⟩
  have found := ((k.cache id).cell_of_key? named).trans pending
  exact (kind k leads feature p found k).2

/-- The probe of the inner guard fails after the outer one has answered. -/
theorem failed_select_resumes_broken :
    let dom : Probe := ⟨"dom", "dom", fun _ => .finish (.int 1)⟩
    let features := [(Key.text "dom", Entry.pending dom), (.text "canvas", .pending brokenProbe)]
    let h : Host := { Host.empty with caches := ⟨[(⟨0⟩, ⟨.plain, ⟨features⟩⟩)]⟩ }
    let expression := "dom?canvas?a:b:c"
    let fault : Fault := .raised "RuntimeError" "no canvas"
    ∃ k answered g p, (select 1 ⟨0⟩ expression).outcome h = (.error (.fault fault), k) ∧
      h.CallsAloof 1 ⟨0⟩ expression ∧ k.CallsAloof 1 ⟨0⟩ expression ∧
      FailsAt 1 ⟨0⟩ expression h answered g p fault k ∧
      ((selectWith 1 ⟨0⟩ g (.bool true) expression).outcome k).1 =
        ((selectWith 1 ⟨0⟩ g (.bool true) expression).outcome h).1 := by
  intro dom features h expression fault
  let verdict (p : Probe) : Except Stop Bool :=
    if p.label = "dom" then .ok true else .error (.fault fault)
  have probes : ∀ key p, (h.cache ⟨0⟩).find? key = some (.pending p) → ∀ l,
      p.Aloof 1 ⟨0⟩ l ∧ ((call 1 ⟨0⟩ p).outcome l).1 = verdict p := by
    intro key p found l
    have entry := OrderedMap.mem_of_find found
    rcases List.mem_cons.mp entry with first | mem
    · cases first
      have abstains : ∀ context, (dom.body context).Abstains := fun _ => trivial
      exact ⟨Probe.aloof_of_abstains abstains 1 ⟨0⟩ l, rfl⟩
    · cases List.mem_singleton.mp mem
      exact ⟨aloof_brokenProbe ⟨0⟩ l, rfl⟩
  let between := ((tracedAsk (query 1 ⟨0⟩) expression "dom").outcome h).2
  let k := ((call 1 ⟨0⟩ brokenProbe).outcome between).2
  have parsed : parse expression =
      .guarded "dom" (.guarded "canvas" (.leaf (some "a")) (.leaf (some "b"))) (.leaf (some "c")) := by
    decide +kernel
  have asks : h.AsksAt 1 ⟨0⟩ expression "canvas" between := by
    rw [AsksAt, parsed]
    exact ⟨[⟨"dom", true⟩], _, _, .guard rfl .here⟩
  have failed : (select 1 ⟨0⟩ expression).outcome h = (.error (.fault fault), k) :=
    (select_stops_iff 1 ⟨0⟩ expression h _ k).mpr ⟨"canvas", between, brokenProbe, asks, rfl, rfl⟩
  have aloof := callsAloof_of_probes (fun key p found l => (probes key p found l).1) expression
  obtain ⟨_, _, _, failsAt, _⟩ := failsAt_of_error aloof failed
  have aloofAgain := callsAloof_of_probes
    (fun key p found l => (probes key p (failsAt.pending_before found) l).1) expression
  obtain ⟨answered, g, p, failsAt, _, resumes⟩ := failed_select_resumes failed aloof aloofAgain
  refine ⟨k, answered, g, p, failed, aloof, aloofAgain, failsAt, ?_⟩
  exact resumes (.bool true) verdict nofun (unswayed_of_probes probes g _)

/-- A probe that writes to its element and then fails. -/
def markingBroken : Probe :=
  ⟨"g", "g", fun _ => .setMarkup "<i></i>" (.fail "RuntimeError" "no canvas")⟩

/-- A value for the guard that failed does not make up for what its probe did before it failed, if
another probe looks at that. -/
theorem failed_probe_leaves_markup :
    let features := [(Key.text "g", Entry.pending markingBroken), (.text "b", .pending inspecting)]
    let h : Host :=
      { markupHost with caches := ⟨[(⟨0⟩, ⟨⟨.standard, none, some ⟨0⟩⟩, ⟨features⟩⟩)]⟩ }
    let expression := "g?x:b?y:z"
    ∃ k, (select 1 ⟨0⟩ expression).outcome h =
        (.error (.fault (.raised "RuntimeError" "no canvas")), k) ∧
      h.CallsAloof 1 ⟨0⟩ expression ∧ k.CallsAloof 1 ⟨0⟩ expression ∧
      ((selectWith 1 ⟨0⟩ "g" (.bool false) expression).outcome k).1.toOption =
        some ⟨expression, some "z", [⟨"g", false⟩, ⟨"b", false⟩]⟩ ∧
      ((selectWith 1 ⟨0⟩ "g" (.bool false) expression).outcome h).1.toOption =
        some ⟨expression, some "y", [⟨"g", false⟩, ⟨"b", true⟩]⟩ := by
  intro features h expression
  let k := ((call 1 ⟨0⟩ markingBroken).outcome h).2
  have aloof : ∀ key p, (h.cache ⟨0⟩).find? key = some (.pending p) → ∀ l, p.Aloof 1 ⟨0⟩ l := by
    intro key p found l
    have entry := OrderedMap.mem_of_find found
    rcases List.mem_cons.mp entry with first | mem
    · cases first
      have abstains : ∀ context, (markingBroken.body context).Abstains := fun _ => trivial
      exact Probe.aloof_of_abstains abstains 1 ⟨0⟩ l
    · cases List.mem_singleton.mp mem
      have abstains : ∀ context, (inspecting.body context).Abstains := fun _ _ => trivial
      exact Probe.aloof_of_abstains abstains 1 ⟨0⟩ l
  have parsed : parse expression =
      .guarded "g" (.leaf (some "x")) (.guarded "b" (.leaf (some "y")) (.leaf (some "z"))) := by
    decide +kernel
  have asks : h.AsksAt 1 ⟨0⟩ expression "g" h := by
    rw [AsksAt, parsed]
    exact ⟨[], _, _, .here⟩
  have failed : (select 1 ⟨0⟩ expression).outcome h =
      (.error (.fault (.raised "RuntimeError" "no canvas")), k) :=
    (select_stops_iff 1 ⟨0⟩ expression h _ k).mpr ⟨"g", h, markingBroken, asks, rfl, rfl⟩
  have calls := callsAloof_of_probes aloof expression
  obtain ⟨_, _, _, fails, _⟩ := failsAt_of_error calls failed
  have again := callsAloof_of_probes
    (fun key p found => aloof key p (fails.pending_before found)) expression
  exact ⟨k, failed, calls, again, by decide +kernel, by decide +kernel⟩

end Host

end FeatureChoice
