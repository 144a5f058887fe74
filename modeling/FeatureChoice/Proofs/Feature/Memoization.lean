import FeatureChoice.Proofs.Feature.History
/-!
Memoization over whole sessions. A probe may call itself again, or put something else in its own
place, while it is running; then the entry of its feature changes under it. As long as neither
happens, the entry stays pending until the call ends, and a result stays until a forced
registration.

* `Undisturbed`: while the probe of a feature is running, nothing queries the feature or forces
  something on it.
* `Steady`: what is known of a feature between the events of such a history; every event keeps it
  (`Event.Leads.steady`).
* `serve_memoizes`: every session with an undisturbed history memoizes the feature.
-/

namespace FeatureChoice

variable {id : CacheId} {key : Key}

/-! ### Statements about histories -/

/-- Whether the running probe is that of a feature. -/
abbrev Frame.IsOf (id : CacheId) (key : Key) (f : Frame) : Prop := f.id = id ∧ f.key = key

/-- Whether the event is a query of a feature. -/
def Event.queries (id : CacheId) (key : Key) : Event → Bool
  | .queried id' key' _ => id' = id && key' = key
  | .ended .. => false
  | .registered .. => false

/-- Whether the event is a forced registration for a feature. -/
def Event.forces (id : CacheId) (key : Key) : Event → Bool
  | .queried .. => false
  | .ended .. => false
  | .registered id' key' _ force => id' = id && key' = key && force

/-- While the probe of a feature is running, nothing queries the feature or forces something on
it. -/
def Undisturbed (id : CacheId) (key : Key) : List Frame → List Moment → Prop
  | _, [] => True
  | running, m :: rest =>
    ((∃ f ∈ running, f.IsOf id key) →
      m.event.queries id key = false ∧ m.event.forces id key = false) ∧
    Undisturbed id key (m.event.running running) rest

instance Undisturbed.decidable (id : CacheId) (key : Key) :
    (running : List Frame) → (moments : List Moment) →
      Decidable (Undisturbed id key running moments)
  | _, [] => .isTrue trivial
  | running, m :: rest =>
    have := Undisturbed.decidable id key (m.event.running running) rest
    inferInstanceAs (Decidable (_ ∧ _))

/-- The host after a history. -/
def hostAfter (h : Host) : List Moment → Host
  | [] => h
  | m :: rest => hostAfter m.host rest

/-- A history in which a feature keeps its result. -/
structure Memoizes (id : CacheId) (key : Key) (h : Host) (moments : List Moment) : Prop where
  /-- A result stays until something is forced on the feature. -/
  stays : ∀ before between after b, moments = before ++ between ++ after →
    ((hostAfter h before).cache id).find? key = some (.resolved b) →
    (∀ m ∈ between, m.event.forces id key = false) →
    ((hostAfter h (before ++ between)).cache id).find? key = some (.resolved b)
  /-- Until then every query finds the result, answers with it and changes nothing. -/
  answers : ∀ before between after b, moments = before ++ between ++ after →
    ((hostAfter h before).cache id).find? key = some (.resolved b) →
    (∀ m ∈ between, m.event.forces id key = false) →
    ∀ m ∈ between, ∀ found, m.event = .queried id key found →
      found = some (.resolved b) ∧
      ∀ depth name, name.key? = some key →
        (Host.query depth id name).outcome m.host = (.ok b, m.host)
  /-- After a call of the probe that ended with an answer no probe is called for the feature unless
  something was forced on it in between. -/
  calls : ∀ before m between m' after p p' b,
    moments = before ++ m :: between ++ m' :: after →
    m.event = .ended id key p (.ok b) → m'.event = .queried id key (some (.pending p')) →
    ∃ m'' ∈ between, m''.event.forces id key = true
  /-- After a call that stopped the feature is still pending with the probe that was called. -/
  stops : ∀ before m after p stop, moments = before ++ m :: after →
    m.event = .ended id key p (.error stop) →
    (m.host.cache id).find? key = some (.pending p)

/-! ### Entries after changes -/

/-- Storing an entry changes what is found under its own key of its own cache alone. -/
theorem find?_set_store (c : Caches) (id' : CacheId) (key' : Key) (e : Entry) (id : CacheId)
    (key : Key) :
    ((c.set id' ((c id').store key' e)) id).find? key =
      if id = id' ∧ key = key' then some e else (c id).find? key := by
  by_cases same : id = id'
  · subst same
    simp [Caches.set, Cache.find?, Cache.store, OrderedMap.get?_insert]
  · simp [Caches.set, same]

/-- An offer changes what is found under its own key of its own cache alone. -/
theorem find?_set_offer_of_ne (c : Caches) {id' : CacheId} {key' : Key} (o : Offer)
    (force : Bool) (other : ¬ (id' = id ∧ key' = key)) :
    ((c.set id' ((c id').offer key' o force)) id).find? key = (c id).find? key := by
  by_cases same : id = id'
  · subst same
    have ne : key ≠ key' := fun eq => other ⟨rfl, eq.symm⟩
    simpa [Caches.set] using Cache.get?_offer_of_ne (c id) ne o force
  · simp [Caches.set, same]

/-- An offer that is not forced leaves an entry that is there. -/
theorem find?_set_offer_unforced (c : Caches) {o : Offer} {e : Entry}
    (present : (c id).find? key = some e) :
    ((c.set id ((c id).offer key o false)) id).find? key = some e := by
  have there : (c id).entries.contains key = true := Option.isSome_of_eq_some present
  simp [Caches.set, Cache.offer, there, present]

/-! ### One event -/

/-- What is known of a feature between the events of an undisturbed history: if its probe is
running, then once, and its entry is still pending with it. -/
structure Steady (id : CacheId) (key : Key) (c : Caches) (running : List Frame) : Prop where
  pending : ∀ f ∈ running, f.IsOf id key → (c id).find? key = some (.pending f.probe)
  once : running.Pairwise fun f g => f.IsOf id key → ¬ g.IsOf id key

theorem Steady.nil (c : Caches) : Steady id key c [] := ⟨by simp, .nil⟩

namespace Event.Leads

variable {e : Event} {c c' : Caches} {running running' : List Frame} {b : Bool}

/-- An event begins or ends the calls that it is about. -/
theorem running_eq (leads : e.Leads c running c' running') : running' = e.running running := by
  cases leads <;> rfl

/-- Every event of an undisturbed history keeps what is known. -/
theorem steady (leads : e.Leads c running c' running')
    (calm : (∃ f ∈ running, f.IsOf id key) → e.queries id key = false ∧ e.forces id key = false)
    (steady : Steady id key c running) : Steady id key c' running' := by
  cases leads with
  | missing absent => exact steady
  | resolved found => exact steady
  | @called id' key' p _ found =>
    -- a call is a query, so if it is for this feature none of its probes is running yet
    by_cases same : id' = id ∧ key' = key
    · obtain ⟨rfl, rfl⟩ := same
      have idle : ∀ f ∈ running, ¬ f.IsOf id' key' := by
        intro f mem isOf
        have quiet := (calm ⟨f, mem, isOf⟩).1
        simp [Event.queries] at quiet
      refine ⟨?_, .cons (fun g mem _ => idle g mem) steady.once⟩
      intro f mem isOf
      rcases List.mem_cons.mp mem with rfl | mem
      · exact found
      · exact absurd isOf (idle f mem)
    · refine ⟨?_, .cons (fun g _ isOf => absurd isOf same) steady.once⟩
      intro f mem isOf
      rcases List.mem_cons.mp mem with rfl | mem
      · exact absurd isOf same
      · exact steady.pending f mem isOf
  | @returned id' key' p b _ =>
    -- the probe that ends was the only one running for its feature
    obtain ⟨top, once⟩ := List.pairwise_cons.mp steady.once
    refine ⟨?_, once⟩
    intro f mem isOf
    rw [find?_set_store, if_neg]
    · exact steady.pending f (List.mem_cons_of_mem _ mem) isOf
    · rintro ⟨rfl, rfl⟩
      exact top f mem ⟨rfl, rfl⟩ isOf
  | stopped =>
    refine ⟨fun f mem => steady.pending f (List.mem_cons_of_mem _ mem), ?_⟩
    exact (List.pairwise_cons.mp steady.once).2
  | @registered id' key' o force _ =>
    refine ⟨?_, steady.once⟩
    intro f mem isOf
    have pending := steady.pending f mem isOf
    -- while the probe is running nothing is forced, and an entry that is there stays
    by_cases same : id' = id ∧ key' = key
    · obtain ⟨rfl, rfl⟩ := same
      have unforced := (calm ⟨f, mem, isOf⟩).2
      simp only [Event.forces, decide_true, Bool.and_self, Bool.true_and] at unforced
      subst unforced
      exact find?_set_offer_unforced c pending
    · rw [find?_set_offer_of_ne c o force same]
      exact pending

/-- A result stays, unless something is forced on the feature. -/
theorem stays (leads : e.Leads c running c' running') (steady : Steady id key c running)
    (found : (c id).find? key = some (.resolved b)) (unforced : e.forces id key = false) :
    (c' id).find? key = some (.resolved b) := by
  cases leads with
  | missing => exact found
  | resolved => exact found
  | called => exact found
  | @returned id' key' p b' _ =>
    -- the probe of a feature with a result is not running, so it is another one that ends
    rw [find?_set_store, if_neg]
    · exact found
    · rintro ⟨rfl, rfl⟩
      have pending := steady.pending _ List.mem_cons_self ⟨rfl, rfl⟩
      simp [found] at pending
  | stopped => exact found
  | @registered id' key' o force _ =>
    by_cases same : id' = id ∧ key' = key
    · obtain ⟨rfl, rfl⟩ := same
      simp only [Event.forces, decide_true, Bool.and_self, Bool.true_and] at unforced
      subst unforced
      exact find?_set_offer_unforced c found
    · rw [find?_set_offer_of_ne c o force same]
      exact found

/-- A query finds the entry of the feature and leaves the caches as they are. -/
theorem queried {found : Option Entry} (leads : e.Leads c running c' running')
    (eq : e = .queried id key found) : (c id).find? key = found ∧ c' = c := by
  subst eq
  cases leads with
  | missing absent => exact ⟨absent, rfl⟩
  | resolved present => exact ⟨present, rfl⟩
  | called present => exact ⟨present, rfl⟩

/-- When a call returns, its answer is stored. -/
theorem returned_find? {p : Probe} (leads : e.Leads c running c' running')
    (eq : e = .ended id key p (.ok b)) : (c' id).find? key = some (.resolved b) := by
  subst eq
  cases leads
  simp [find?_set_store]

/-- When a call fails while the feature is steady, the feature is still pending. -/
theorem stopped_find? {p : Probe} {stop : Stop} (leads : e.Leads c running c' running')
    (eq : e = .ended id key p (.error stop)) (steady : Steady id key c running) :
    (c' id).find? key = some (.pending p) := by
  subst eq
  cases leads
  exact steady.pending _ List.mem_cons_self ⟨rfl, rfl⟩

end Event.Leads

/-! ### Histories -/

/-- An undisturbed history of a feature, with what is known of it at the start. -/
structure Calm (id : CacheId) (key : Key) (c : Caches) (running : List Frame)
    (moments : List Moment) (c' : Caches) (running' : List Frame) : Prop where
  unfolds : Unfolds c running moments c' running'
  undisturbed : Undisturbed id key running moments
  steady : Steady id key c running

namespace Calm

variable {c c' : Caches} {running running' : List Frame} {moments : List Moment} {b : Bool}

/-- The first event of a history, and the rest of it. -/
theorem cons {m : Moment} (calm : Calm id key c running (m :: moments) c' running') :
    ∃ next, m.event.Leads c running m.host.cache next ∧
      Calm id key m.host.cache next moments c' running' := by
  obtain ⟨unfolds, ⟨quiet, undisturbed⟩, steady⟩ := calm
  cases unfolds with
  | cons leads rest =>
    rw [← leads.running_eq] at undisturbed
    exact ⟨_, leads, rest, undisturbed, leads.steady quiet steady⟩

/-- A calm history is calm up to each of its moments and from there on. -/
theorem split (before : List Moment) {after : List Moment}
    (calm : Calm id key c running (before ++ after) c' running') :
    ∃ between called, Calm id key c running before between called ∧
      Calm id key between called after c' running' := by
  induction before generalizing c running with
  | nil => exact ⟨c, running, ⟨.nil, trivial, calm.steady⟩, calm⟩
  | cons m before ih =>
    obtain ⟨next, leads, rest⟩ := cons calm
    obtain ⟨between, called, first, second⟩ := ih rest
    refine ⟨between, called, ⟨.cons leads first.unfolds, ?_, calm.steady⟩, second⟩
    refine ⟨calm.undisturbed.1, ?_⟩
    rw [← leads.running_eq]
    exact first.undisturbed

/-- A result stays over a history in which nothing is forced on the feature. -/
theorem stays (calm : Calm id key c running moments c' running')
    (found : (c id).find? key = some (.resolved b))
    (unforced : ∀ m ∈ moments, m.event.forces id key = false) :
    (c' id).find? key = some (.resolved b) := by
  induction moments generalizing c running with
  | nil =>
    cases calm.unfolds
    exact found
  | cons m moments ih =>
    obtain ⟨next, leads, rest⟩ := cons calm
    have kept := leads.stays calm.steady found (unforced m List.mem_cons_self)
    exact ih rest kept fun m' mem => unforced m' (List.mem_cons_of_mem _ mem)

/-- Until something is forced on the feature, every query finds the result. -/
theorem finds (calm : Calm id key c running moments c' running')
    (found : (c id).find? key = some (.resolved b))
    (unforced : ∀ m ∈ moments, m.event.forces id key = false) {m : Moment} (mem : m ∈ moments)
    {e : Option Entry} (queried : m.event = .queried id key e) :
    e = some (.resolved b) ∧ (m.host.cache id).find? key = some (.resolved b) := by
  induction moments generalizing c running with
  | nil => cases mem
  | cons first moments ih =>
    obtain ⟨next, leads, rest⟩ := cons calm
    rcases List.mem_cons.mp mem with rfl | mem
    · obtain ⟨entry, unchanged⟩ := leads.queried queried
      rw [unchanged]
      exact ⟨entry.symm.trans found, found⟩
    · have kept := leads.stays calm.steady found (unforced first List.mem_cons_self)
      exact ih rest kept (fun m' mem' => unforced m' (List.mem_cons_of_mem _ mem')) mem

end Calm

/-- A history leads to the caches of its last moment. -/
theorem Unfolds.cache_hostAfter {h : Host} {c' : Caches} {running running' : List Frame}
    {moments : List Moment} (unfolds : Unfolds h.cache running moments c' running') :
    c' = (hostAfter h moments).cache := by
  induction moments generalizing h running with
  | nil =>
    cases unfolds
    rfl
  | cons m moments ih =>
    cases unfolds with
    | cons _ rest => exact ih rest

/-- An undisturbed history that unfolds from where no probe is running memoizes the feature. -/
theorem memoizes_of_unfolds {h : Host} {c' : Caches} {running' : List Frame}
    {moments : List Moment} (unfolds : Unfolds h.cache [] moments c' running')
    (undisturbed : Undisturbed id key [] moments) : Memoizes id key h moments := by
  have calm : Calm id key h.cache [] moments c' running' := ⟨unfolds, undisturbed, .nil _⟩
  refine ⟨?_, ?_, ?_, ?_⟩
  · rintro before between after b rfl found unforced
    rw [List.append_assoc] at calm
    obtain ⟨start, called, first, rest⟩ := calm.split before
    obtain ⟨goal, called', second, _⟩ := rest.split between
    rw [← first.unfolds.cache_hostAfter] at found
    rw [← (first.unfolds.append second.unfolds).cache_hostAfter]
    exact second.stays found unforced
  · rintro before between after b rfl found unforced m mem e queried
    rw [List.append_assoc] at calm
    obtain ⟨start, called, first, rest⟩ := calm.split before
    obtain ⟨goal, called', second, _⟩ := rest.split between
    rw [← first.unfolds.cache_hostAfter] at found
    obtain ⟨same, kept⟩ := second.finds found unforced mem queried
    exact ⟨same, fun depth name named => Host.query_of_resolved named kept depth⟩
  · rintro before m between m' after p p' b rfl returned queried
    rw [List.append_assoc] at calm
    obtain ⟨start, called, _, rest⟩ := calm.split before
    obtain ⟨called', leads, further⟩ := rest.cons
    have found := leads.returned_find? returned
    apply Classical.byContradiction
    intro unforced
    have quiet : ∀ m'' ∈ between, m''.event.forces id key = false := by
      intro m'' mem
      exact Bool.eq_false_iff.mpr fun forced => unforced ⟨m'', mem, forced⟩
    -- the result is still there where the probe is called again
    obtain ⟨goal, called'', second, last⟩ := further.split between
    obtain ⟨_, leads', _⟩ := last.cons
    have pending := (leads'.queried queried).1
    rw [second.stays found quiet] at pending
    cases pending
  · rintro before m after p stop rfl stopped
    obtain ⟨start, called, _, rest⟩ := calm.split before
    obtain ⟨called', leads, _⟩ := rest.cons
    exact leads.stopped_find? stopped rest.steady

/-- Watching a session changes nothing about it; and if nothing disturbs the probe of a feature
while it is running, the feature keeps its result, whatever the host asks of the cache and whatever
probes do, from every host. -/
theorem serve_memoizes (depth : Nat) (requests : List Request) (h : Host)
    (undisturbed : Undisturbed id key [] (history depth id requests h)) :
    let watched := (serve (Watched.access depth) id requests).outcome (h, [])
    let plain := (serve (Host.access depth) id requests).outcome h
    watched.1 = plain.1 ∧ watched.2.1 = plain.2 ∧
      plain.2.cache = (hostAfter h (history depth id requests h)).cache ∧
      Memoizes id key h (history depth id requests h) := by
  intro watched plain
  obtain ⟨more, went, unfolds⟩ := follows_serve depth id requests h [] []
  have seen : history depth id requests h = more := by
    unfold history
    rw [went]
    rfl
  rw [seen] at undisturbed ⊢
  exact ⟨congrArg Prod.fst went, congrArg (·.2.1) went, unfolds.cache_hostAfter,
    memoizes_of_unfolds unfolds undisturbed⟩

/-- A host with a probe that queries the feature of another probe. -/
def nestingHost : Host :=
  let dom : Probe := ⟨"dom", "dom", fun _ => .finish (.int 1)⟩
  let canvas : Probe :=
    ⟨"canvas", "canvas", fun _ => .query (.text "dom") fun b => .finish (.bool b)⟩
  let features : OrderedMap Key Entry :=
    ⟨[(.text "dom", .pending dom), (.text "canvas", .pending canvas)]⟩
  { Host.empty with caches := ⟨[(⟨0⟩, ⟨.plain, features⟩)]⟩, workspace := some ⟨0⟩ }

/-- A probe that asks for another feature answers once, and its answer lasts until it is removed. -/
theorem serve_memoizes_nesting :
    let moments := history 2 ⟨0⟩
      [.select "canvas?a:b", .query (.text "canvas"), .register (.text "canvas") .nothing false true]
      nestingHost
    Undisturbed ⟨0⟩ (.text "canvas") [] moments ∧
      Memoizes ⟨0⟩ (.text "canvas") nestingHost moments :=
  ⟨by decide +kernel, (serve_memoizes 2 _ nestingHost (by decide +kernel)).2.2.2⟩

end FeatureChoice
