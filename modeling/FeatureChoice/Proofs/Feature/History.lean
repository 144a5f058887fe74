import FeatureChoice.Proofs.Run.Comparison
/-!
Histories of runs. A watched host keeps in order what happens to the features of its caches:
queries with the entries they find, ends of probes, and registrations, each with the host as it is
right after it. Watching is done from outside, through the access that host code has.

* `Event.Leads`, `Unfolds`: what an event and a whole history do to the caches and to the probes
  that are running.
* `Run.Follows`: a watched run does what the plain run does and adds a history that unfolds.
* `follows_serve`: every session on a watched host follows the plain one.
-/

namespace FeatureChoice

variable {α β : Type}

/-! ### Events -/

/-- What happens to a feature of a cache. -/
inductive Event where
  /-- It is queried, and this is its entry. A pending probe is called now. -/
  | queried (id : CacheId) (key : Key) (found : Option Entry)
  /-- The call of its probe ends, with the truth of the answer or early. -/
  | ended (id : CacheId) (key : Key) (p : Probe) (result : Except Stop Bool)
  /-- Something is registered for it. -/
  | registered (id : CacheId) (key : Key) (o : Offer) (force : Bool)

/-- The feature of a cache that an event happens to. -/
def Event.subject : Event → CacheId × Key
  | .queried id key _ => (id, key)
  | .ended id key _ _ => (id, key)
  | .registered id key _ _ => (id, key)

/-- An event with the host right after it. -/
structure Moment where
  event : Event
  host : Host

/-- A probe that is running for a feature of a cache. -/
structure Frame where
  id : CacheId
  key : Key
  probe : Probe

/-- The probes that are running after an event, the last one called in front. -/
def Event.running (running : List Frame) : Event → List Frame
  | .queried id key (some (.pending p)) => ⟨id, key, p⟩ :: running
  | .queried .. => running
  | .ended .. => running.tail
  | .registered .. => running

/-- Caches by their ids. -/
abbrev Caches := CacheId → Cache

/-- Caches with one of them changed. -/
def Caches.set (c : Caches) (id : CacheId) (changed : Cache) : Caches :=
  fun other => if other = id then changed else c other

/-- What an event does to the caches and the running probes. -/
inductive Event.Leads (c : Caches) : List Frame → Event → Caches → List Frame → Prop where
  | missing {id key running} (absent : (c id).find? key = none) :
    Leads c running (.queried id key none) c running
  | resolved {id key b running} (found : (c id).find? key = some (.resolved b)) :
    Leads c running (.queried id key (some (.resolved b))) c running
  | called {id key p running} (found : (c id).find? key = some (.pending p)) :
    Leads c running (.queried id key (some (.pending p))) c (⟨id, key, p⟩ :: running)
  | returned {id key p b running} :
    Leads c (⟨id, key, p⟩ :: running) (.ended id key p (.ok b))
      (c.set id ((c id).store key (.resolved b))) running
  | stopped {id key p stop running} :
    Leads c (⟨id, key, p⟩ :: running) (.ended id key p (.error stop)) c running
  | registered {id key o force running} :
    Leads c running (.registered id key o force) (c.set id ((c id).offer key o force)) running

/-- What a history does to the caches and the running probes. -/
inductive Unfolds : Caches → List Frame → List Moment → Caches → List Frame → Prop where
  | nil {c running} : Unfolds c running [] c running
  | cons {c running m running' rest c'' running''} :
    m.event.Leads c running m.host.cache running' →
    Unfolds m.host.cache running' rest c'' running'' →
    Unfolds c running (m :: rest) c'' running''

namespace Unfolds

/-- A history and one that goes on where it ends are one history. -/
theorem append {c c' c'' : Caches} {running running' running'' : List Frame}
    {first rest : List Moment} (unfolds : Unfolds c running first c' running')
    (further : Unfolds c' running' rest c'' running'') :
    Unfolds c running (first ++ rest) c'' running'' := by
  induction unfolds with
  | nil => exact further
  | cons leads _ ih => exact .cons leads (ih further)

/-- A history can be interrupted after each of its moments. -/
theorem split {c c' : Caches} {running running' : List Frame} (first : List Moment)
    {rest : List Moment} (unfolds : Unfolds c running (first ++ rest) c' running') :
    ∃ between running'', Unfolds c running first between running'' ∧
      Unfolds between running'' rest c' running' := by
  induction first generalizing c running with
  | nil => exact ⟨c, running, .nil, unfolds⟩
  | cons m first ih =>
    cases unfolds with
    | cons leads further =>
      obtain ⟨between, running'', start, rest⟩ := ih further
      exact ⟨between, running'', .cons leads start, rest⟩

end Unfolds

/-- What happens to other caches leaves a cache as it is. -/
theorem Event.Leads.cache_of_other {e : Event} {c c' : Caches} {running running' : List Frame}
    {g : CacheId} (leads : e.Leads c running c' running') (other : e.subject.1 ≠ g) :
    c' g = c g := by
  cases leads with
  | returned => exact if_neg (Ne.symm other)
  | registered => exact if_neg (Ne.symm other)
  | _ => rfl

/-- A cache stays the same over a history that is about other caches. -/
theorem Unfolds.cache_of_other {c c' : Caches} {running running' : List Frame}
    {moments : List Moment} {g : CacheId} (unfolds : Unfolds c running moments c' running')
    (others : ∀ m ∈ moments, m.event.subject.1 ≠ g) : c' g = c g := by
  induction unfolds with
  | nil => rfl
  | cons leads _ ih =>
    rw [ih fun m mem => others m (List.mem_cons_of_mem _ mem)]
    exact leads.cache_of_other (others _ List.mem_cons_self)

/-! ### Watching -/

/-- A host with what was seen of it so far. -/
abbrev Watched := Host × List Moment

namespace Watched

/-- Keep an event. -/
def tell (e : Event) : Run Watched Unit := modify fun s => (s.1, s.2 ++ [⟨e, s.1⟩])

/-- Query a feature and keep what is found. -/
def tellQuery (id : CacheId) (name : FeatureName) (x : Run Watched Bool) : Run Watched Bool := do
  if let some key := name.key? then
    let found ← (Host.look fun h => (h.cache id).find? key).onHost
    tell (.queried id key found)
  x

/-- Call a probe and keep how the call ends. -/
def tellEnd (id : CacheId) (key : Key) (p : Probe) (x : Run Watched Bool) : Run Watched Bool :=
  fun s =>
    let (result, s') := x s
    (result, (s'.1, s'.2 ++ [⟨.ended id key p result, s'.1⟩]))

/-- Register an offer and keep that. -/
def enter (id : CacheId) (name : FeatureName) (o : Offer) (force : Bool) : Run Watched Unit := do
  (Host.enter id name o force).onHost
  if let some key := name.key? then tell (.registered id key o force)

/-- The truth of a feature, with probes calling each other to a depth. -/
def query : Nat → CacheId → FeatureName → Run Watched Bool
  | 0, id, name =>
    tellQuery id name (Host.lookUp (fun key p => tellEnd id key p (throw .unfinished)) id name)
  | depth + 1, id, name =>
    tellQuery id name
      (Host.lookUp (fun key p => tellEnd id key p (Host.settle ⟨query depth, enter⟩ id key p)) id
        name)

/-- The access of host code to the features of a watched host. -/
def access (depth : Nat) : Access Watched := ⟨query depth, enter⟩

end Watched

/-- The history of a session with a host. -/
def history (depth : Nat) (id : CacheId) (requests : List Request) (h : Host) : List Moment :=
  ((serve (Watched.access depth) id requests).outcome (h, [])).2.2

/-- A session with one request leaves what the request leaves. -/
theorem outcome_serve_singleton {σ : Type} [Hosted σ] (via : Access σ) (id : CacheId)
    (request : Request) (s : σ) :
    ((serve via id [request]).outcome s).2 = ((request.run via id).outcome s).2 := by
  simp only [serve, Run.outcome_bind, Run.outcome_attempt]
  rcases (request.run via id).outcome s with ⟨result, s'⟩
  cases result with
  | ok a => rfl
  | error stop => cases stop <;> rfl

theorem history_request (depth : Nat) (id : CacheId) (request : Request) (h : Host) :
    history depth id [request] h = ((request.run (Watched.access depth) id).outcome (h, [])).2.2 :=
  congrArg Prod.snd (outcome_serve_singleton _ _ _ _)

/-! ### Changes of the caches -/

namespace Host

theorem cache_setCache_eq (h : Host) (id : CacheId) (c : Cache) :
    (h.setCache id c).cache = Caches.set h.cache id c := by
  funext other
  simp [Caches.set]

/-- A cache of a host was changed, and something may have been logged. -/
def Puts (h : Host) (id : CacheId) (c : Cache) (k : Host) : Prop :=
  ∃ journal, k = { h.setCache id c with journal := journal }

namespace Puts

variable {id : CacheId} {c : Cache} {h k : Host}

theorem cache (puts : h.Puts id c k) : k.cache = Caches.set h.cache id c := by
  obtain ⟨journal, rfl⟩ := puts
  exact cache_setCache_eq h id c

theorem cache_self (puts : h.Puts id c k) : k.cache id = c := by
  rw [puts.cache]
  simp [Caches.set]

theorem workspace (puts : h.Puts id c k) : k.workspace = h.workspace := by
  obtain ⟨journal, rfl⟩ := puts
  rfl

end Puts

/-- Under a name with a key, entering an offer puts it into the cache and does nothing else but log. -/
theorem puts_enter {name : FeatureName} {key : Key} (named : name.key = .ok key) (h : Host)
    (id : CacheId) (o : Offer) (force : Bool) :
    ∃ k, (enter id name o force).outcome h = (.ok (), k) ∧
      h.Puts id ((h.cache id).offer key o force) k := by
  simp only [enter, named, Run.outcome_bind, outcome_look]
  cases (h.cache id).entries.contains key && !force with
  | false => exact ⟨_, rfl, h.journal, rfl⟩
  | true => exact ⟨_, rfl, _, rfl⟩

theorem outcome_enter {name : FeatureName} {key : Key} (named : name.key = .ok key)
    (id : CacheId) (o : Offer) (force : Bool) (h : Host) :
    ∃ h', (enter id name o force).outcome h = (.ok (), h') ∧
      h'.cache = Caches.set h.cache id ((h.cache id).offer key o force) := by
  obtain ⟨h', entered, puts⟩ := puts_enter named h id o force
  exact ⟨h', entered, puts.cache⟩

/-- Keeping an answer stores it and changes no other cache. -/
theorem cache_keep (id : CacheId) (key : Key) (b : Bool) (h : Host) :
    ((keep id key b).outcome h).2.cache =
      Caches.set h.cache id ((h.cache id).store key (.resolved b)) :=
  cache_setCache_eq h id _

end Host

/-! ### Following -/

/-- A watched run does what the plain run does and adds a history that unfolds; at its end the same
probes are running as before. -/
def Run.Follows (x : Run Watched α) (y : Run Host α) : Prop :=
  ∀ h seen running, ∃ more,
    x.outcome (h, seen) = ((y.outcome h).1, ((y.outcome h).2, seen ++ more)) ∧
    Unfolds h.cache running more (y.outcome h).2.cache running

namespace Run.Follows

theorem pure (a : α) : Follows (Pure.pure a) (Pure.pure a) :=
  fun _ _ _ => ⟨[], by simp, .nil⟩

theorem throw (stop : Stop) : Follows (throw stop : Run Watched α) (throw stop) :=
  fun _ _ _ => ⟨[], by simp, .nil⟩

theorem bind {x : Run Watched α} {y : Run Host α} {next : α → Run Watched β}
    {next' : α → Run Host β} (first : Follows x y) (rest : ∀ a, Follows (next a) (next' a)) :
    Follows (x >>= next) (y >>= next') := by
  intro h seen running
  obtain ⟨more, went, unfolds⟩ := first h seen running
  rcases ended : y.outcome h with ⟨result, k⟩
  rw [ended] at went unfolds
  cases result with
  | error stop =>
    rw [outcome_bind_of_error went, outcome_bind_of_error ended]
    exact ⟨more, rfl, unfolds⟩
  | ok a =>
    rw [outcome_bind_of_ok went, outcome_bind_of_ok ended]
    obtain ⟨further, goesOn, unfoldsOn⟩ := rest a k (seen ++ more) running
    rw [List.append_assoc] at goesOn
    exact ⟨more ++ further, goesOn, unfolds.append unfoldsOn⟩

theorem attempt {x : Run Watched α} {y : Run Host α} (follows : Follows x y) :
    Follows x.attempt y.attempt := by
  intro h seen running
  obtain ⟨more, went, unfolds⟩ := follows h seen running
  rw [outcome_attempt, outcome_attempt, went]
  rcases ended : y.outcome h with ⟨result, k⟩
  rw [ended] at unfolds
  cases result with
  | ok a => exact ⟨more, rfl, unfolds⟩
  | error stop =>
    cases stop with
    | fault f => exact ⟨more, rfl, unfolds⟩
    | unfinished => exact ⟨more, rfl, unfolds⟩

/-- What matters to no cache can be watched as it is. -/
theorem neutral {x : Run Host α} (neutral : Host.Neutral x) :
    Follows (x.onHost : Run Watched α) x.onHost := by
  intro h seen running
  have kept : (x.outcome h).2.cache = h.cache := funext (neutral.cache h)
  refine ⟨[], by simp [Hosted.host, Hosted.withHost], ?_⟩
  show Unfolds h.cache running [] (x.outcome h).2.cache running
  rw [kept]
  exact .nil

end Run.Follows

/-- Following, as a comparison. -/
def following : Comparison Watched Host where
  Rel := Run.Follows
  pure := .pure
  throw := .throw
  bind := .bind
  attempt := .attempt
  neutral := .neutral

namespace Watched

/-- Entering is watched without changing it. -/
theorem follows_enter (id : CacheId) (name : FeatureName) (o : Offer) (force : Bool) :
    Run.Follows (enter id name o force) (Host.enter id name o force) := by
  intro h seen running
  cases named : name.key with
  | error e =>
    have stops := Host.outcome_enter_of_error named id o force h
    refine ⟨[], ?_, ?_⟩
    · simp [enter, Run.outcome_bind, stops, Hosted.host, Hosted.withHost]
    · rw [stops]
      exact .nil
  | ok key =>
    obtain ⟨h', entered, changed⟩ := Host.outcome_enter named id o force h
    refine ⟨[⟨.registered id key o force, h'⟩], ?_, ?_⟩
    · simp [enter, Run.outcome_bind, entered, Hosted.host, Hosted.withHost, FeatureName.key?, named,
        Except.toOption, tell]
    · rw [entered]
      refine .cons ?_ .nil
      rw [changed]
      exact .registered

/-- A watched run follows the plain one while a probe is running, and ends the call of the probe. -/
def Ends (f : Frame) (x : Run Watched Bool) (y : Run Host Bool) : Prop :=
  ∀ h seen running, ∃ more,
    x.outcome (h, seen) = ((y.outcome h).1, ((y.outcome h).2, seen ++ more)) ∧
    Unfolds h.cache (f :: running) more (y.outcome h).2.cache running

theorem outcome_tellEnd (id : CacheId) (key : Key) (p : Probe) (x : Run Watched Bool)
    (s : Watched) :
    (tellEnd id key p x).outcome s =
      ((x.outcome s).1, ((x.outcome s).2.1,
        (x.outcome s).2.2 ++ [⟨.ended id key p (x.outcome s).1, (x.outcome s).2.1⟩])) := rfl

/-- The end of a call that stops is told as that. -/
theorem ends_throw (id : CacheId) (key : Key) (p : Probe) (stop : Stop) :
    Ends ⟨id, key, p⟩ (tellEnd id key p (throw stop)) (throw stop) := by
  intro h seen running
  exact ⟨[⟨.ended id key p (.error stop), h⟩], rfl, .cons .stopped .nil⟩

/-- The call of a probe ends when its answer is stored, or when it stops. -/
theorem ends_settle {via : Access Watched} {via' : Access Host} (ways : following.Over via via')
    (id : CacheId) (key : Key) (p : Probe) :
    Ends ⟨id, key, p⟩ (tellEnd id key p (Host.settle via id key p)) (Host.settle via' id key p) := by
  intro h seen running
  obtain ⟨more, went, unfolds⟩ := ways.invoke id p h seen (⟨id, key, p⟩ :: running)
  rcases invoked : (Host.invoke via' id p).outcome h with ⟨result, k⟩
  rw [invoked] at went unfolds
  rw [outcome_tellEnd, Host.outcome_settle, Host.outcome_settle, went, invoked]
  cases result with
  | error stop =>
    refine ⟨more ++ [⟨.ended id key p (.error stop), k⟩], by simp, ?_⟩
    exact unfolds.append (.cons .stopped .nil)
  | ok b =>
    -- the answer is stored after the probe, on whatever it made of the host
    let k' := ((Host.keep id key b).outcome k).2
    refine ⟨more ++ [⟨.ended id key p (.ok b), k'⟩], ?_, ?_⟩
    · simp [k', Hosted.host, Hosted.withHost]
    · refine unfolds.append (.cons ?_ .nil)
      show Event.Leads _ _ _ k'.cache _
      rw [Host.cache_keep]
      exact .returned

/-- A query under a name with a key is told before it is served. -/
theorem outcome_tellQuery {id : CacheId} {name : FeatureName} {key : Key}
    (named : name.key? = some key) (x : Run Watched Bool) (h : Host) (seen : List Moment) :
    (tellQuery id name x).outcome (h, seen) =
      x.outcome (h, seen ++ [⟨.queried id key ((h.cache id).find? key), h⟩]) := by
  simp [tellQuery, named, tell, Run.outcome_bind, Hosted.host, Hosted.withHost]

/-- A watched query keeps what it finds and then, if that is a pending probe, how its call ends. -/
theorem follows_lookUp {id : CacheId} {settling : Key → Probe → Run Watched Bool}
    {settling' : Key → Probe → Run Host Bool}
    (ends : ∀ key p, Ends ⟨id, key, p⟩ (settling key p) (settling' key p)) (name : FeatureName) :
    Run.Follows (tellQuery id name (Host.lookUp settling id name))
      (Host.lookUp settling' id name) := by
  intro h seen running
  cases named : name.key? with
  | none =>
    refine ⟨[], ?_, ?_⟩
    · simp [tellQuery, named, Host.outcome_lookUp_of_unnamed _ _ _ named]
    · rw [Host.outcome_lookUp_of_unnamed _ _ _ named]
      exact .nil
  | some key =>
    rw [outcome_tellQuery named]
    simp only [Host.outcome_lookUp_of_key? _ _ _ named, Hosted.host, id_eq]
    match found : (h.cache id).find? key with
    | none => exact ⟨[⟨.queried id key none, h⟩], rfl, .cons (.missing found) .nil⟩
    | some (.resolved b) =>
      exact ⟨[⟨.queried id key (some (.resolved b)), h⟩], rfl, .cons (.resolved found) .nil⟩
    | some (.pending p) =>
      -- the query starts the call, and settling the feature ends it
      let called : Moment := ⟨.queried id key (some (.pending p)), h⟩
      obtain ⟨more, went, unfolds⟩ := ends key p h (seen ++ [called]) running
      refine ⟨called :: more, ?_, .cons (.called found) unfolds⟩
      simpa [called] using went

/-- A watched query does what the query does. -/
theorem follows_query (depth : Nat) (id : CacheId) (name : FeatureName) :
    Run.Follows (query depth id name) (Host.query depth id name) := by
  induction depth generalizing id name with
  | zero => exact follows_lookUp (fun key p => ends_throw id key p _) name
  | succ depth ih =>
    have ways : following.Over ⟨query depth, enter⟩ ⟨Host.query depth, Host.enter⟩ :=
      ⟨ih, follows_enter⟩
    exact follows_lookUp (fun key p => ends_settle ways id key p) name

/-- So everything that is done with watched access does what it does without. -/
theorem over_access (depth : Nat) : following.Over (access depth) (Host.access depth) :=
  ⟨follows_query depth, follows_enter⟩

end Watched

/-- Every session on a watched host follows the plain one. -/
theorem follows_serve (depth : Nat) (id : CacheId) (requests : List Request) :
    Run.Follows (serve (Watched.access depth) id requests) (serve (Host.access depth) id requests) :=
  (Watched.over_access depth).serve id requests

end FeatureChoice
