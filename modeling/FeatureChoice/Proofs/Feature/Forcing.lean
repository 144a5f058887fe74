import FeatureChoice.Proofs.Feature.Answers
/-!
Forced registrations. What is forced on a feature takes the place of what was there, also while a
probe of the feature is running. A query that called the probe before does not look at the entry
again: when the call returns, its answer takes the place of what was forced in the meantime. So a
forced registration lasts until the next one, or until a call returns that is older than it.

* `Lasting`: the histories in which neither happens.
* `Offer.standing`: what a feature holds of a forced offer after later calls of its probe.
* `Standing.next`, `Standing.after`: one event and a whole lasting history keep that.
* `forced_registration_lasts`: so does every session with a lasting history.
* `forced_registration_overwritten`: a session in which an older call returns.
-/

namespace FeatureChoice

variable {id : CacheId} {key : Key}

/-! ### Statements about histories -/

/-- Over a history nothing else is forced on a feature, and no call of its probe returns that was
running before. `newer` are the running calls that began in the history, so that a call was running
before if it ends while there are none of these. -/
def Lasting (id : CacheId) (key : Key) : List Frame → List Moment → Prop
  | _, [] => True
  | newer, m :: rest =>
    m.event.forces id key = false ∧ (newer.isEmpty → m.event.returns id key = false) ∧
      Lasting id key (m.event.running newer) rest

instance Lasting.decidable (id : CacheId) (key : Key) :
    (newer : List Frame) → (moments : List Moment) → Decidable (Lasting id key newer moments)
  | _, [] => .isTrue trivial
  | newer, m :: rest =>
    have := Lasting.decidable id key (m.event.running newer) rest
    inferInstanceAs (Decidable (_ ∧ _ ∧ _))

/-- Whether the event stores something for a feature, or would if there were no entry. -/
def Event.stores (id : CacheId) (key : Key) : Event → Bool
  | .registered id' key' o _ => id' = id && key' = key && !o.isNothing
  | _ => false

/-- What calls of a feature's probe answered in a history, oldest first. -/
def answersIn (id : CacheId) (key : Key) (moments : List Moment) : List Bool :=
  moments.filterMap fun m => m.event.answer? id key

/-- What a feature holds of an offer that was forced on it, when calls of its probe have answered
since. -/
def Offer.standing (o : Offer) (answers : List Bool) : Option Entry :=
  match answers.getLast? with
  | some b => some (.resolved b)
  | none => if o.isNothing then none else some (.ofOffer o)

/-! ### One event -/

/-- After an offer was forced on a feature, the feature holds what stands of it, and only the
offered probe was called for it. -/
structure Standing (id : CacheId) (key : Key) (o : Offer) (answers : List Bool) (c : Caches)
    (newer : List Frame) : Prop where
  entry : (c id).find? key = o.standing answers
  calls : ∀ f ∈ newer, f.IsOf id key → o = .probe f.probe

/-- The last answer stands. -/
theorem Offer.standing_concat (o : Offer) (answers : List Bool) (b : Bool) :
    o.standing (answers ++ [b]) = some (.resolved b) := by
  simp [standing]

/-- Only the probe that was offered can be pending. -/
theorem Offer.eq_of_standing_pending {o : Offer} {answers : List Bool} {p : Probe}
    (pending : o.standing answers = some (.pending p)) : o = .probe p := by
  unfold standing at pending
  split at pending
  · cases pending
  · split at pending
    · cases pending
    · cases o with
      | value v => cases pending
      | probe q =>
        cases pending
        rfl

/-- Nothing stands after nothing was offered and no answer came. -/
theorem Offer.isNothing_of_standing_none {o : Offer} {answers : List Bool}
    (absent : o.standing answers = none) : o.isNothing = true := by
  unfold standing at absent
  split at absent
  · cases absent
  · split at absent
    · assumption
    · cases absent

namespace Standing

variable {o : Offer} {answers : List Bool} {c c' : Caches}
  {newer newer' older running running' : List Frame}

/-- What was forced just now stands, and no call has begun since. -/
theorem of_forced (leads : (Event.registered id key o true).Leads c running c' running') :
    Standing id key o [] c' [] := by
  cases leads
  refine ⟨?_, by simp⟩
  cases nothing : o.isNothing with
  | false => simp [Caches.set, Cache.offer, Offer.standing, nothing, Cache.find?_store]
  | true => simp [Caches.set, Cache.offer, Offer.standing, nothing, Cache.find?_remove]

/-- What stands is not changed by what spares the feature. -/
theorem spared (standing : Standing id key o answers c newer)
    (same : (c' id).find? key = (c id).find? key) (fewer : ∀ f ∈ newer', f ∈ newer) :
    Standing id key o answers c' newer' :=
  ⟨same.trans standing.entry, fun f mem => standing.calls f (fewer f mem)⟩

/-- A call of the feature finds the offered probe. -/
theorem called {id' : CacheId} {key' : Key} {p : Probe}
    (standing : Standing id key o answers c newer)
    (found : (c id').find? key' = some (.pending p)) :
    Standing id key o answers c (⟨id', key', p⟩ :: newer) := by
  refine ⟨standing.entry, fun f mem isOf => ?_⟩
  rcases List.mem_cons.mp mem with rfl | mem
  · obtain ⟨rfl, rfl⟩ := isOf
    exact Offer.eq_of_standing_pending (standing.entry ▸ found)
  · exact standing.calls f mem isOf

/-- What stands is not changed by answers for other features. -/
theorem returned_elsewhere {id' : CacheId} {key' : Key}
    (standing : Standing id key o answers c newer) (other : ¬ (id' = id ∧ key' = key)) (b : Bool) :
    Standing id key o answers (c.set id' ((c id').store key' (.resolved b))) newer := by
  refine standing.spared ?_ fun _ mem => mem
  rw [find?_set_store, if_neg]
  rintro ⟨rfl, rfl⟩
  exact other ⟨rfl, rfl⟩

/-- When a call returns that is not older than the offer, its answer stands from then on. -/
theorem returned {id' : CacheId} {key' : Key} {p : Probe} (b : Bool)
    (standing : Standing id key o answers c (⟨id', key', p⟩ :: newer)) :
    Standing id key o
      (answers ++ ((Event.ended id' key' p (.ok b)).answer? id key).toList)
      (c.set id' ((c id').store key' (.resolved b))) newer := by
  have before : Standing id key o answers c newer :=
    standing.spared rfl fun f mem => List.mem_cons_of_mem _ mem
  by_cases same : id' = id ∧ key' = key
  · obtain ⟨rfl, rfl⟩ := same
    refine ⟨?_, before.calls⟩
    simp [find?_set_store, Event.answer?, Offer.standing_concat]
  · simpa [Event.answer?, same] using before.returned_elsewhere same b

/-- A registration that is not forced leaves what stands, except that it may store something where
nothing is. -/
theorem registered {id' : CacheId} {key' : Key} {o' : Offer} {force : Bool}
    (standing : Standing id key o answers c newer)
    (unforced : (Event.registered id' key' o' force).forces id key = false)
    (unstored : o.isNothing = true → (Event.registered id' key' o' force).stores id key = false) :
    Standing id key o answers (c.set id' ((c id').offer key' o' force)) newer := by
  refine standing.spared ?_ fun _ mem => mem
  by_cases same : id' = id ∧ key' = key
  · obtain ⟨rfl, rfl⟩ := same
    simp only [Event.forces, decide_true, Bool.and_self, Bool.true_and] at unforced
    subst unforced
    cases found : (c id').find? key' with
    | some e => exact find?_set_offer_unforced c found
    | none =>
      have nothing := Offer.isNothing_of_standing_none (standing.entry ▸ found)
      have idle := unstored nothing
      simp only [Event.stores, decide_true, Bool.and_self, Bool.true_and, Bool.not_eq_false']
        at idle
      have absent : (c id').entries.contains key' = false := Option.isSome_eq_false_iff.mpr (by
        simpa [Cache.find?] using found)
      simp [Caches.set, Cache.offer, absent, idle, Cache.find?_remove]
  · exact find?_set_offer_of_ne c o' force same

/-- What an event of a lasting history leaves of a forced offer. The running calls are those that
began since, and below them some of those that ran before. -/
theorem next {e : Event} (standing : Standing id key o answers c newer)
    (leads : e.Leads c running c' running') (calls : running = newer ++ older)
    (unforced : e.forces id key = false) (fresh : newer.isEmpty → e.returns id key = false)
    (unstored : o.isNothing = true → e.stores id key = false) :
    ∃ older', running' = e.running newer ++ older' ∧
      Standing id key o (answers ++ (e.answer? id key).toList) c' (e.running newer) := by
  cases leads with
  | missing => exact ⟨older, calls, by simpa [Event.answer?, Event.running] using standing⟩
  | resolved => exact ⟨older, calls, by simpa [Event.answer?, Event.running] using standing⟩
  | called found =>
    refine ⟨older, by rw [calls]; rfl, ?_⟩
    simpa [Event.answer?, Event.running] using standing.called found
  | @returned id' key' p b =>
    cases newer with
    | nil =>
      -- the call that returns is older than the offer, so it is not one of this feature
      have other : ¬ (id' = id ∧ key' = key) := by
        simpa [Event.returns, Event.answer?] using fresh rfl
      refine ⟨running', rfl, ?_⟩
      simpa [Event.answer?, Event.running, other] using standing.returned_elsewhere other b
    | cons f newer =>
      obtain ⟨rfl, rfl⟩ := List.cons.inj calls
      exact ⟨older, rfl, standing.returned b⟩
  | @stopped id' key' p stop =>
    have fewer := standing.spared rfl fun f mem => List.mem_of_mem_tail mem
    cases newer with
    | nil => exact ⟨running', rfl, by simpa [Event.answer?, Event.running] using fewer⟩
    | cons f newer =>
      refine ⟨older, (List.cons.inj calls).2, ?_⟩
      simpa [Event.answer?, Event.running] using fewer
  | registered =>
    refine ⟨older, calls, ?_⟩
    simpa [Event.answer?, Event.running] using standing.registered unforced unstored

/-- Over a lasting history the calls of the feature that return are calls of the offered probe. -/
theorem own {e : Event} {p : Probe} {b : Bool} (standing : Standing id key o answers c newer)
    (leads : e.Leads c running c' running') (calls : running = newer ++ older)
    (fresh : newer.isEmpty → e.returns id key = false) (returned : e = .ended id key p (.ok b)) :
    o = .probe p := by
  subst returned
  cases leads
  cases newer with
  | nil => simp [Event.returns, Event.answer?] at fresh
  | cons f newer =>
    obtain ⟨rfl, _⟩ := List.cons.inj calls
    exact standing.calls _ List.mem_cons_self ⟨rfl, rfl⟩

/-- What a lasting history leaves of a forced offer. -/
theorem after {moments : List Moment} (standing : Standing id key o answers c newer)
    (unfolds : Unfolds c running moments c' running') (calls : running = newer ++ older)
    (lasting : Lasting id key newer moments)
    (unstored : o.isNothing = true → ∀ m ∈ moments, m.event.stores id key = false) :
    (c' id).find? key = o.standing (answers ++ answersIn id key moments) ∧
      ∀ m ∈ moments, ∀ p b, m.event = .ended id key p (.ok b) → o = .probe p := by
  induction unfolds generalizing answers newer older with
  | nil => exact ⟨by simpa [answersIn] using standing.entry, by simp⟩
  | @cons _ _ m _ moments _ _ leads _ ih =>
    obtain ⟨unforced, fresh, rest⟩ := lasting
    have idle := fun nothing => List.forall_mem_cons.mp (unstored nothing)
    obtain ⟨older', calls', standing'⟩ :=
      standing.next leads calls unforced fresh fun nothing => (idle nothing).1
    obtain ⟨entry, own'⟩ := ih standing' calls' rest fun nothing => (idle nothing).2
    refine ⟨?_, List.forall_mem_cons.mpr ⟨fun p b => standing.own leads calls fresh, own'⟩⟩
    have answered : answersIn id key (m :: moments) =
        (m.event.answer? id key).toList ++ answersIn id key moments := by
      cases eq : m.event.answer? id key <;> simp [answersIn, eq]
    rw [entry, answered, List.append_assoc]

end Standing

/-! ### Sessions -/

/-- What is forced on a feature in a session lasts until something else is forced on it, or until a
call of its probe returns that is older. Until then there is no entry if nothing was offered and
nothing is registered; there is the truth of a value that was offered; and a probe that was offered
is pending until a call of it returns, and then there is its answer. When an older call returns, its
answer takes the place of what was forced. -/
theorem forced_registration_lasts {depth : Nat} {cache : CacheId} {requests : List Request}
    {h : Host} {before between after : List Moment} {m : Moment} {o : Offer}
    (happens : history depth cache requests h = before ++ m :: between ++ after)
    (forced : m.event = .registered id key o true) (lasting : Lasting id key [] between) :
    ((o.isNothing = true → ∀ m' ∈ between, m'.event.stores id key = false) →
      ((hostAfter h (before ++ m :: between)).cache id).find? key =
          o.standing (answersIn id key between) ∧
        ∀ m' ∈ between, ∀ p b, m'.event = .ended id key p (.ok b) → o = .probe p) ∧
      ∀ m' rest p b, after = m' :: rest → m'.event = .ended id key p (.ok b) →
        (m'.host.cache id).find? key = some (.resolved b) := by
  have unfolds := unfolds_serve depth cache requests h
  rw [happens] at unfolds
  obtain ⟨middle, called, first, last⟩ := unfolds.split (before ++ m :: between)
  refine ⟨fun unstored => ?_, ?_⟩
  · obtain ⟨start, called', earlier, later⟩ := first.split before
    rw [← first.cache_hostAfter]
    cases later with
    | cons leads rest =>
      have standing : Standing id key o [] m.host.cache [] :=
        Standing.of_forced (forced ▸ leads)
      exact standing.after rest rfl lasting unstored
  · rintro m' rest p b rfl returned
    cases last with
    | cons leads _ => exact leads.returned_find? returned

/-- A host with one cache, in which a feature is pending. -/
def pendingHost (feature : String) (script : Script) : Host :=
  let probe : Probe := ⟨feature, feature, fun _ => script⟩
  { Host.empty with
    caches := ⟨[(⟨0⟩, ⟨.plain, ⟨[(.text feature, .pending probe)]⟩⟩)]⟩, workspace := some ⟨0⟩ }

/-- A probe that is forced over another one is pending until it is called, and its answer lasts. -/
theorem forced_registration_lasts_called :
    let h := pendingHost "dom" (.finish (.bool true))
    let later : Offer := .probe ⟨"later", "later", fun _ => .finish (.bool false)⟩
    let requests : List Request := [.register (.text "dom") later false true, .query (.text "dom")]
    ∃ m between, history 1 ⟨0⟩ requests h = m :: between ∧
      m.event = .registered ⟨0⟩ (.text "dom") later true ∧
      Lasting ⟨0⟩ (.text "dom") [] between ∧
      ((hostAfter h (m :: between)).cache ⟨0⟩).find? (.text "dom") = some (.resolved false) := by
  intro h later requests
  have happens : ∃ m m₁ m₂, history 1 ⟨0⟩ requests h = [] ++ m :: [m₁, m₂] ++ [] ∧
      m.event = .registered ⟨0⟩ (.text "dom") later true ∧
      Lasting ⟨0⟩ (.text "dom") [] [m₁, m₂] ∧ answersIn ⟨0⟩ (.text "dom") [m₁, m₂] = [false] :=
    ⟨_, _, _, rfl, rfl, ⟨rfl, fun _ => rfl, rfl, nofun, trivial⟩, rfl⟩
  obtain ⟨m, m₁, m₂, happens, forced, lasting, answers⟩ := happens
  have lasts := forced_registration_lasts happens forced lasting
  refine ⟨m, [m₁, m₂], by simpa using happens, forced, lasting, ?_⟩
  have entry := (lasts.1 nofun).1
  rw [answers] at entry
  exact entry

/-- What a probe forces on its own feature does not last, although nothing else is forced there: the
answer of the probe takes its place. -/
theorem forced_registration_overwritten :
    let h := pendingHost "canvas"
      (.register (.text "canvas") (.bool false) true (.finish (.bool true)))
    ∃ before m between, history 1 ⟨0⟩ [.query (.text "canvas")] h = before ++ m :: between ∧
      m.event = .registered ⟨0⟩ (.text "canvas") (.value (.bool false)) true ∧
      (∀ m' ∈ between, m'.event.forces ⟨0⟩ (.text "canvas") = false) ∧
      ((hostAfter h (before ++ m :: between)).cache ⟨0⟩).find? (.text "canvas") =
        some (.resolved true) := by
  intro h
  refine ⟨[_], _, [_], rfl, rfl, ?_, rfl⟩
  intro m' mem
  rw [List.mem_singleton.mp mem]
  rfl

end FeatureChoice
