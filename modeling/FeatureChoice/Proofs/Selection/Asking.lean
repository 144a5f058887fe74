import FeatureChoice.Proofs.Feature.Aloof
import FeatureChoice.Proofs.Selection.Ways
/-!
Guards that are asked. A descent asks one guard after the other until it comes to a leaf or to a
guard that stops, and what it asks on the way is determined by the answers before. As long as the
probes that are called leave their cache alone, nothing becomes of the features of this cache besides
that answers are stored.

* `Expression.Term.Descends`, with `descend_eq_ok_iff` and `descend_eq_error_iff`: a descent ends
  where it comes to a leaf, and stops where it comes to a guard that does.
* `Expression.Term.AsksAt`: the guards that are asked on the way, and in which states.
* `selectBy_eq_ok_iff`, `Host.select_stops_iff`: the same for evaluations.
* `Host.CallsAloof`: evaluations that call no other probes than those that leave their cache alone.
* `Host.Answers`: what answering some guards leaves of a cache, and what happens meanwhile.
* `Watched.descends`: a descent with such probes leaves that at each guard that it comes to.
-/

namespace FeatureChoice

open Expression

/-! ### Descents -/

namespace Expression.Term

variable {σ : Type}

/-- Asking one guard after the other leads from a tree in one state to a part of it in another
state, with these decisions on the way. -/
inductive Descends (ask : String → Run σ Bool) : Term → σ → List Decision → Term → σ → Prop where
  | here {t s} : Descends ask t s [] t s
  | guard {feature t u s b s' ds rest s''} (answered : (ask feature).outcome s = (.ok b, s'))
    (goesOn : Descends ask (if b then t else u) s' ds rest s'') :
    Descends ask (.guarded feature t u) s (⟨feature, b⟩ :: ds) rest s''

/-- A descent gets no further than this part of a tree: to a leaf, or to a guard that stops. -/
inductive Halts (ask : String → Run σ Bool) : Term → σ → Prop where
  | leaf {name : Option String} {s : σ} : Halts ask (.leaf name) s
  | stopped {guard : String} {u v : Term} {s s' : σ} {stop : Stop}
    (stops : (ask guard).outcome s = (.error stop, s')) : Halts ask (.guarded guard u v) s

variable {ask : String → Run σ Bool} {t rest u v : Term} {s s' : σ} {ds : List Decision}
  {guard : String} {stop : Stop}

/-- On the way that a descent takes from a state, this guard is asked in that state. -/
def AsksAt (ask : String → Run σ Bool) (t : Term) (s : σ) (guard : String) (s' : σ) : Prop :=
  ∃ ds u v, t.Descends ask s ds (.guarded guard u v) s'

/-- What is asked on the way below a guard is asked on the way from it. -/
theorem AsksAt.later {feature : String} {b : Bool} (answered : (ask feature).outcome s = (.ok b, s'))
    {s'' : σ} (asks : (if b then t else u).AsksAt ask s' guard s'') :
    (Term.guarded feature t u).AsksAt ask s guard s'' := by
  obtain ⟨ds, left, right, descends⟩ := asks
  exact ⟨_, left, right, .guard answered descends⟩

/-- A descent ends like what is left of it from any part of the tree that it comes to. -/
theorem Descends.outcome (descends : t.Descends ask s ds rest s') :
    (t.descend ask).outcome s =
      let last := (rest.descend ask).outcome s'
      (last.1.map fun found => (found.1, ds ++ found.2), last.2) := by
  induction descends with
  | @here t s =>
    rcases (t.descend ask).outcome s with ⟨result, s'⟩
    cases result <;> rfl
  | @guard feature t u s b s' ds rest s'' answered _ ih =>
    rw [outcome_descend_guarded, answered]
    simp only [ih]
    cases ((rest.descend ask).outcome s'').1 <;> rfl

/-- Every tree has a way down it that ends or stops. -/
theorem exists_descends (ask : String → Run σ Bool) (t : Term) (s : σ) :
    ∃ ds rest s', t.Descends ask s ds rest s' ∧ rest.Halts ask s' := by
  induction t generalizing s with
  | leaf name => exact ⟨[], _, s, .here, .leaf⟩
  | guarded feature t u iht ihu =>
    rcases answered : (ask feature).outcome s with ⟨stop | b, s'⟩
    · exact ⟨[], _, s, .here, .stopped answered⟩
    · have goesOn : ∃ ds rest s'', (if b then t else u).Descends ask s' ds rest s'' ∧
          rest.Halts ask s'' := by
        cases b with
        | false => exact ihu s'
        | true => exact iht s'
      obtain ⟨ds, rest, s'', descends, halts⟩ := goesOn
      exact ⟨_, rest, s'', .guard answered descends, halts⟩

/-- A descent ends where it comes to a leaf. -/
theorem descend_eq_ok_iff {name : Option String} :
    (t.descend ask).outcome s = (.ok (name, ds), s') ↔ t.Descends ask s ds (.leaf name) s' := by
  constructor
  · intro ended
    obtain ⟨ds', rest, between, descends, halts⟩ := exists_descends ask t s
    have went := descends.outcome
    rw [ended] at went
    cases halts with
    | leaf =>
      cases went
      rwa [List.append_nil]
    | stopped stops =>
      rw [outcome_descend_guarded, stops] at went
      cases went
  · intro descends
    rw [descends.outcome]
    simp [descend, Except.map]

/-- A descent stops where it comes to a guard that stops. -/
theorem descend_eq_error_iff :
    (t.descend ask).outcome s = (.error stop, s') ↔
      ∃ ds guard u v between, t.Descends ask s ds (.guarded guard u v) between ∧
        (ask guard).outcome between = (.error stop, s') := by
  constructor
  · intro stopped
    obtain ⟨ds, rest, between, descends, halts⟩ := exists_descends ask t s
    have went := descends.outcome
    rw [stopped] at went
    cases halts with
    | leaf => cases went
    | stopped stops =>
      rw [outcome_descend_guarded, stops] at went
      cases went
      exact ⟨ds, _, _, _, between, descends, stops⟩
  · rintro ⟨ds, guard, u, v, between, descends, stops⟩
    rw [descends.outcome, outcome_descend_guarded, stops]
    rfl

end Expression.Term

/-! ### Evaluations -/

section Selections

variable {σ : Type} [Hosted σ] {ask : FeatureName → Run σ Bool} {expression guard : String}
  {s s' : σ} {stop : Stop}

/-- A guard that is written to the debug trace answers what its query does. -/
theorem tracedAsk_eq_ok_iff {b : Bool} :
    (tracedAsk ask expression guard).outcome s = (.ok b, s') ↔
      ∃ between, (ask (.text guard)).outcome s = (.ok b, between) ∧
        s' = Hosted.withHost
          ((Hosted.host between).trace (Trace.guardRow expression ⟨guard, b⟩)) between := by
  rw [tracedAsk, Run.outcome_bind]
  rcases (ask (.text guard)).outcome s with ⟨stop | b', between⟩
  · simp
  · constructor
    · intro went
      cases went
      exact ⟨between, rfl, rfl⟩
    · rintro ⟨_, ⟨rfl, rfl⟩, rfl⟩
      rfl

/-- A guard that is written to the debug trace stops when its query does. -/
theorem tracedAsk_eq_error_iff :
    (tracedAsk ask expression guard).outcome s = (.error stop, s') ↔
      (ask (.text guard)).outcome s = (.error stop, s') := by
  rw [tracedAsk, Run.outcome_bind]
  rcases (ask (.text guard)).outcome s with ⟨stop' | b, between⟩
  · rfl
  · simp [Run.outcome_map, Except.map]

/-- An evaluation that ends has descended to a leaf, and logs it. -/
theorem selectBy_eq_ok_iff {selection : Selection} :
    (selectBy ask expression).outcome s = (.ok selection, s') ↔
      selection.expression = expression ∧
        ∃ between, (parse expression).Descends (tracedAsk ask expression) s selection.decisions
            (.leaf selection.value) between ∧
          s' = Hosted.withHost
            ((Hosted.host between).trace (Trace.selectedRow selection)) between := by
  rw [selectBy_eq_descend, Run.outcome_bind]
  constructor
  · intro ended
    rcases went : ((parse expression).descend (tracedAsk ask expression)).outcome s with
      ⟨stop | ⟨name, ds⟩, between⟩
    · rw [went] at ended
      cases ended
    · rw [went] at ended
      cases ended
      exact ⟨rfl, between, Term.descend_eq_ok_iff.mp went, rfl⟩
  · obtain ⟨expression', name, ds⟩ := selection
    rintro ⟨rfl, between, descends, rfl⟩
    rw [Term.descend_eq_ok_iff.mpr descends]
    rfl

/-- An evaluation stops where the query of a guard on its way does. -/
theorem selectBy_eq_error_iff :
    (selectBy ask expression).outcome s = (.error stop, s') ↔
      ∃ ds guard t u between,
        (parse expression).Descends (tracedAsk ask expression) s ds (.guarded guard t u) between ∧
          (ask (.text guard)).outcome between = (.error stop, s') := by
  have descent : (selectBy ask expression).outcome s = (.error stop, s') ↔
      ((parse expression).descend (tracedAsk ask expression)).outcome s = (.error stop, s') := by
    rw [selectBy_eq_descend, Run.outcome_bind]
    rcases ((parse expression).descend (tracedAsk ask expression)).outcome s with ⟨stop' | found, k⟩
    · simp
    · simp [Run.outcome_map, Except.map]
  rw [descent, Term.descend_eq_error_iff]
  simp only [tracedAsk_eq_error_iff]

end Selections

namespace Host

variable {h k l : Host} {id : CacheId} {name : FeatureName} {key : Key} {stop : Stop} {depth : Nat}
  {expression : String}

/-- A query that calls no probe changes nothing. -/
theorem unchanged_query_of_found (named : name.key? = some key)
    (found : ∀ p, (h.cache id).find? key ≠ some (.pending p)) (depth : Nat) :
    ((query depth id name).outcome h).2 = h := by
  match entry : (h.cache id).find? key with
  | none => rw [query_of_missing named entry]
  | some (.resolved b) => rw [query_of_resolved named entry]
  | some (.pending p) => exact absurd entry (found p)

/-- A query stops when it has a probe to call and the call stops, and where the call stops. -/
theorem query_stops_iff (named : name.key? = some key) (depth : Nat) :
    (query depth id name).outcome h = (.error stop, k) ↔
      ∃ p, (h.cache id).find? key = some (.pending p) ∧
        (call depth id p).outcome h = (.error stop, k) := by
  match found : (h.cache id).find? key with
  | none => simp [query_of_missing named found]
  | some (.resolved b) => simp [query_of_resolved named found]
  | some (.pending p) =>
    have same : (query depth id name).outcome h = (.error stop, k) ↔
        (call depth id p).outcome h = (.error stop, k) := by
      rw [query_of_call named found]
      rcases (call depth id p).outcome h with ⟨stop' | b, l⟩
      · rfl
      · simp
    simpa using same

/-- An evaluation asks a guard in a state. -/
def AsksAt (depth : Nat) (id : CacheId) (expression : String) (h : Host) (guard : String)
    (k : Host) : Prop :=
  (parse expression).AsksAt (tracedAsk (query depth id) expression) h guard k

/-- An evaluation stops when it comes to a guard with a probe to call and the call stops, and where
the call stops. -/
theorem select_stops_iff (depth : Nat) (id : CacheId) (expression : String) (h : Host)
    (stop : Stop) (l : Host) :
    (select depth id expression).outcome h = (.error stop, l) ↔
      ∃ guard k p, h.AsksAt depth id expression guard k ∧
        (k.cache id).find? (.text guard) = some (.pending p) ∧
        (call depth id p).outcome k = (.error stop, l) := by
  refine selectBy_eq_error_iff.trans ?_
  constructor
  · rintro ⟨ds, guard, t, u, k, descends, stops⟩
    obtain ⟨p, pending, called⟩ := (query_stops_iff rfl depth).mp stops
    exact ⟨guard, k, p, ⟨ds, t, u, descends⟩, pending, called⟩
  · rintro ⟨guard, k, p, ⟨ds, t, u, descends⟩, pending, called⟩
    exact ⟨ds, guard, t, u, k, descends, (query_stops_iff rfl depth).mpr ⟨p, pending, called⟩⟩

end Host

/-! ### Probes that leave their cache alone -/

/-- The call of a probe that an event starts. -/
def Event.call? : Event → Option Frame
  | .queried id key (some (.pending p)) => some ⟨id, key, p⟩
  | _ => none

/-- A call is about the cache and the feature of its frame. -/
theorem Event.subject_of_call? {e : Event} {f : Frame} (starts : e.call? = some f) :
    e.subject = (f.id, f.key) := by
  unfold Event.call? at starts
  split at starts
  · cases starts
    rfl
  · cases starts

def Decision.key (d : Decision) : Key := .text d.feature

namespace Host

variable {h k l : Host} {id : CacheId} {depth : Nat} {expression feature : String} {b : Bool}
  {ds more : List Decision} {happened further : List Moment} {t rest : Term}

/-- The probes that an evaluation calls for its guards leave the cache alone. -/
def CallsAloof (depth : Nat) (id : CacheId) (expression : String) (h : Host) : Prop :=
  ∀ guard k p, h.AsksAt depth id expression guard k →
    (k.cache id).find? (.text guard) = some (.pending p) → p.Aloof depth id k

/-- From a host some guards of a cache were asked and answered while this happened. Their answers
are known now, no other feature of the cache was touched, and what was known before is known
still. -/
structure Answers (id : CacheId) (h : Host) (ds : List Decision) (k : Host)
    (happened : List Moment) : Prop where
  names : (k.cache id).names = (h.cache id).names
  kept : ∀ key, (∀ d ∈ ds, d.key ≠ key) → (k.cache id).find? key = (h.cache id).find? key
  stays : ∀ key b, (h.cache id).known? key = some b → (k.cache id).known? key = some b
  knows : k.Knows id ds
  subjects : ∀ m ∈ happened, m.event.subject.1 = id → ∃ d ∈ ds, m.event.subject = (id, d.key)
  /-- Where a probe of the cache is called, it was pending at the start. -/
  calls : ∀ m ∈ happened, ∀ f, m.event.call? = some f → f.id = id →
    (h.cache id).find? f.key = some (.pending f.probe)

namespace Answers

theorem of_same (same : k.cache id = h.cache id) : Answers id h [] k [] where
  names := by rw [same]
  kept _ _ := by rw [same]
  stays _ _ known := by rwa [same]
  knows := .nil
  subjects := by simp
  calls := by simp

/-- A feature that is pending was pending before, with the same probe. -/
theorem pending (answers : Answers id h ds k happened) {key : Key} {p : Probe}
    (found : (k.cache id).find? key = some (.pending p)) :
    (∀ d ∈ ds, d.key ≠ key) ∧ (h.cache id).find? key = some (.pending p) := by
  have apart : ∀ d ∈ ds, d.key ≠ key := by
    rintro d mem rfl
    have known : (k.cache id).known? d.key = some d.value := answers.knows d mem
    simp [Cache.known?, found, Entry.result?] at known
  exact ⟨apart, answers.kept key apart ▸ found⟩

/-- Answers that follow answers are answers together. -/
theorem append (answers : Answers id h ds k happened) (goesOn : Answers id k more l further) :
    Answers id h (ds ++ more) l (happened ++ further) where
  names := goesOn.names.trans answers.names
  kept key apart := by
    rw [goesOn.kept key fun d mem => apart d (List.mem_append_right _ mem)]
    exact answers.kept key fun d mem => apart d (List.mem_append_left _ mem)
  stays key b known := goesOn.stays key b (answers.stays key b known)
  knows d mem := by
    rcases List.mem_append.mp mem with early | late
    · exact goesOn.stays _ _ (answers.knows d early)
    · exact goesOn.knows d late
  subjects m mem same := by
    rcases List.mem_append.mp mem with early | late
    · obtain ⟨d, listed, subject⟩ := answers.subjects m early same
      exact ⟨d, List.mem_append_left _ listed, subject⟩
    · obtain ⟨d, listed, subject⟩ := goesOn.subjects m late same
      exact ⟨d, List.mem_append_right _ listed, subject⟩
  calls m mem f called same := by
    rcases List.mem_append.mp mem with early | late
    · exact answers.calls m early f called same
    · exact (answers.pending (goesOn.calls m late f called same)).2

/-- What leaves the cache as it is makes no difference. -/
theorem after (answers : Answers id h ds k happened) (same : l.cache id = k.cache id) :
    Answers id h ds l happened := by
  have goesOn := answers.append (.of_same same)
  rwa [List.append_nil, List.append_nil] at goesOn

/-- A guard that has an entry is resolved by its answer. -/
theorem settled (answers : Answers id h ds k happened) {d : Decision} (listed : d ∈ ds)
    (present : d.key ∈ (h.cache id).names) :
    (k.cache id).find? d.key = some (.resolved d.value) := by
  have known : (k.cache id).known? d.key = some d.value := answers.knows d listed
  rw [← answers.names] at present
  rw [Cache.known?] at known
  cases found : (k.cache id).find? d.key with
  | none => exact absurd present ((Cache.find?_eq_none_iff _ _).mp found)
  | some entry =>
    cases entry with
    | resolved b => simpa [found, Entry.result?] using known
    | pending p => simp [found, Entry.result?] at known

end Answers

/-- The call of a probe that leaves its cache alone answers the feature of the probe. -/
theorem answers_of_called {p : Probe}
    (pending : (h.cache id).find? (.text feature) = some (.pending p)) (aloof : p.Aloof depth id h)
    (called : (call depth id p).outcome h = (.ok b, l)) :
    let left := ((keep id (.text feature) b).outcome l).2
    Answers id h [⟨feature, b⟩] left
      (⟨.queried id (.text feature) (some (.pending p)), h⟩ :: p.doings depth id h ++
        [⟨.ended id (.text feature) p (.ok b), left⟩]) := by
  intro left
  have alone := aloof.cache
  rw [called] at alone
  have stored : left.cache id = (h.cache id).store (.text feature) (.resolved b) := by
    rw [cache_keep, Caches.set, if_pos rfl, alone]
  have other : ∀ key, key ≠ .text feature →
      (left.cache id).find? key = (h.cache id).find? key := by
    intro key apart
    rw [stored, Cache.find?_store, if_neg apart]
  constructor
  case names => rw [stored, Cache.names_store_of_found pending]
  case kept => exact fun key apart => other key (apart _ List.mem_cons_self).symm
  case stays =>
    intro key b' known
    by_cases same : key = .text feature
    · subst same
      simp [Cache.known?, pending, Entry.result?] at known
    · rwa [Cache.known?, other key same]
  case knows =>
    refine .cons ?_ .nil
    simp [Cache.known?, stored, Cache.find?_store, Entry.result?]
  case subjects =>
    intro m mem same
    rcases List.mem_append.mp mem with early | last
    · rcases List.mem_cons.mp early with rfl | meanwhile
      · exact ⟨_, List.mem_cons_self, rfl⟩
      · exact absurd same (aloof m meanwhile)
    · cases List.mem_singleton.mp last
      exact ⟨_, List.mem_cons_self, rfl⟩
  case calls =>
    intro m mem f starts same
    rcases List.mem_append.mp mem with early | last
    · rcases List.mem_cons.mp early with rfl | meanwhile
      · cases starts
        exact pending
      · have subject := Event.subject_of_call? starts
        exact absurd ((congrArg Prod.fst subject).trans same) (aloof m meanwhile)
    · cases List.mem_singleton.mp last
      cases starts

end Host

namespace Watched

variable {h k : Host} {id : CacheId} {depth : Nat} {expression feature : String} {b : Bool}
  {ds : List Decision} {t rest : Term}

/-- A guard that answers leaves its answer, if the probe that may be pending there leaves the cache
alone. -/
theorem answers_query
    (aloof : ∀ p, (h.cache id).find? (.text feature) = some (.pending p) → p.Aloof depth id h)
    (asked : (Host.query depth id (.text feature)).outcome h = (.ok b, k)) (seen : List Moment) :
    ∃ more, (query depth id (.text feature)).outcome (h, seen) = (.ok b, (k, seen ++ more)) ∧
      Host.Answers id h [⟨feature, b⟩] k more := by
  have named : FeatureName.key? (.text feature) = some (.text feature) := rfl
  have known := Host.known_query named asked
  by_cases found : ∀ p, (h.cache id).find? (.text feature) ≠ some (.pending p)
  · obtain rfl : k = h := by
      rw [← Host.unchanged_query_of_found named found depth, asked]
    have went := outcome_query_of_found named found depth seen
    rw [asked] at went
    refine ⟨_, went, rfl, fun _ _ => rfl, fun _ _ known => known, .cons known .nil, ?_, ?_⟩
    · simp [Event.subject, Decision.key]
    · intro m mem f called
      cases List.mem_singleton.mp mem
      match entry : (k.cache id).find? (.text feature) with
      | none => simp [Event.call?, entry] at called
      | some (.resolved b) => simp [Event.call?, entry] at called
      | some (.pending p) => exact absurd entry (found p)
  · obtain ⟨p, found⟩ := not_forall_not.mp found
    have went := outcome_query_of_call named found depth seen
    rw [Host.query_of_call named found] at asked
    rcases ended : (Host.call depth id p).outcome h with ⟨stop | b', l⟩
    · rw [ended] at asked
      cases asked
    · rw [ended] at asked went
      cases asked
      exact ⟨_, went, Host.answers_of_called found (aloof p found) ended⟩

/-- Asking a guard whose probe is aloof answers it and no other feature. -/
theorem answers_tracedAsk
    (aloof : ∀ p, (h.cache id).find? (.text feature) = some (.pending p) → p.Aloof depth id h)
    (asked : (tracedAsk (Host.query depth id) expression feature).outcome h = (.ok b, k))
    (seen : List Moment) :
    ∃ more, (tracedAsk (query depth id) expression feature).outcome (h, seen) =
        (.ok b, (k, seen ++ more)) ∧
      Host.Answers id h [⟨feature, b⟩] k more := by
  obtain ⟨l, queried, rfl⟩ := tracedAsk_eq_ok_iff.mp asked
  obtain ⟨more, watched, answers⟩ := answers_query aloof queried seen
  refine ⟨more, tracedAsk_eq_ok_iff.mpr ⟨_, watched, rfl⟩, answers.after ?_⟩
  exact Host.cache_trace l _ id

/-- On the way to a part of the tree every guard leaves its answer, if the probes that are called
there leave the cache alone. -/
theorem descends
    (descends : t.Descends (tracedAsk (Host.query depth id) expression) h ds rest k)
    (aloof : ∀ guard l p, t.AsksAt (tracedAsk (Host.query depth id) expression) h guard l →
      (l.cache id).find? (.text guard) = some (.pending p) → p.Aloof depth id l)
    (seen : List Moment) :
    ∃ happened, t.Descends (tracedAsk (query depth id) expression) (h, seen) ds rest
        (k, seen ++ happened) ∧
      Host.Answers id h ds k happened := by
  induction descends generalizing seen with
  | here => exact ⟨[], by rw [List.append_nil]; exact .here, .of_same rfl⟩
  | @guard feature t u h b l ds rest k answered goesOn ih =>
    obtain ⟨first, asked, answers⟩ := answers_tracedAsk
      (fun p => aloof feature h p ⟨[], t, u, .here⟩) answered seen
    obtain ⟨later, descends, further⟩ := ih
      (fun guard m p asks => aloof guard m p (.later answered asks)) (seen ++ first)
    refine ⟨first ++ later, ?_, answers.append further⟩
    rw [← List.append_assoc]
    exact .guard asked descends

/-- If all probes of a cache leave it alone wherever they are called, a feature is pending on the
way of a descent only if it was from the start. -/
theorem pending_of_descends {key : Key} {p : Probe}
    (aloof : ∀ key p, (h.cache id).find? key = some (.pending p) → ∀ l, p.Aloof depth id l)
    (descends : t.Descends (tracedAsk (Host.query depth id) expression) h ds rest k)
    (found : (k.cache id).find? key = some (.pending p)) :
    (h.cache id).find? key = some (.pending p) := by
  induction descends with
  | here => exact found
  | @guard feature t u h b l ds rest k answered goesOn ih =>
    obtain ⟨_, _, answers⟩ :=
      answers_tracedAsk (fun p pending => aloof _ p pending h) answered []
    refine (answers.pending (ih (fun key p pending => ?_) found)).2
    exact aloof key p (answers.pending pending).2

end Watched

/-- An evaluation calls no other probes than those of its cache. -/
theorem Host.callsAloof_of_probes {h : Host} {id : CacheId} {depth : Nat}
    (aloof : ∀ key p, (h.cache id).find? key = some (.pending p) → ∀ l, p.Aloof depth id l)
    (expression : String) : h.CallsAloof depth id expression := by
  rintro guard k p ⟨ds, t, u, descends⟩ found
  exact aloof _ p (Watched.pending_of_descends aloof descends found) k

end FeatureChoice
