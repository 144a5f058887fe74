import FeatureChoice.Proofs.Feature.History
/-!
Probes that keep to themselves. While such a probe runs, nothing is asked of its cache or registered
for it, so the call leaves the cache as it is. It may still look at the cache and at everything
else, and act on the element, on the variables and on other caches.

* `Host.call`: what a query does with a pending probe (`Host.query_of_call`).
* `Watched.appends_query`: what was seen before makes no difference to a run that is watched.
* `Probe.doings`, `Probe.Aloof`: what happens while a probe runs, and that none of it happens to its
  own cache (`Probe.Aloof.cache`).
* `Script.Abstains`, `Probe.aloof_of_abstains`: probes that use no features.
* `Watched.outcome_query_of_call`: what is seen of a query of a pending feature.
-/

namespace FeatureChoice

variable {α β : Type}

/-! ### Calls of probes -/

/-- Call a probe of a cache, with probes calling each other to a depth. -/
def Host.call : Nat → CacheId → Probe → Run Host Bool
  | 0, _, _ => throw .unfinished
  | depth + 1, id, p => invoke (access depth) id p

/-- What is left of a host when a call of a feature's probe has ended: an answer is stored. -/
def Host.afterCall (id : CacheId) (key : Key) (k : Host) : Except Stop Bool → Host
  | .ok b => ((keep id key b).outcome k).2
  | .error _ => k

/-- A query of a pending feature calls its probe and stores the answer on whatever the probe left;
if there is no answer, nothing is stored. -/
theorem Host.query_of_call {h : Host} {id : CacheId} {name : FeatureName} {key : Key} {p : Probe}
    (named : name.key? = some key) (pending : (h.cache id).find? key = some (.pending p))
    (depth : Nat) :
    (query depth id name).outcome h =
      let called := (call depth id p).outcome h
      (called.1, called.2.afterCall id key called.1) := by
  cases depth with
  | zero =>
    rw [query, outcome_lookUp_of_key? _ _ _ named]
    simp only [Hosted.host, id_eq, pending]
    rfl
  | succ depth =>
    rw [query_of_pending named pending, outcome_settle, call]
    rcases (invoke (access depth) id p).outcome h with ⟨result, k⟩
    cases result with
    | ok b => rfl
    | error stop => rfl

/-! ### What was seen before -/

/-- What was seen before makes no difference to a watched run. -/
def Run.Appends (x : Run Watched α) : Prop :=
  ∀ h seen, x.outcome (h, seen) =
    ((x.outcome (h, [])).1, ((x.outcome (h, [])).2.1, seen ++ (x.outcome (h, [])).2.2))

namespace Run.Appends

theorem pure (a : α) : Appends (Pure.pure a) := fun h seen => by simp

theorem throw (stop : Stop) : Appends (throw stop : Run Watched α) := fun h seen => by simp

theorem bind {x : Run Watched α} {next : α → Run Watched β} (first : Appends x)
    (rest : ∀ a, Appends (next a)) : Appends (x >>= next) := by
  intro h seen
  have went := first h seen
  rcases ended : x.outcome (h, []) with ⟨result, k, more⟩
  rw [ended] at went
  cases result with
  | error stop => rw [outcome_bind_of_error went, outcome_bind_of_error ended]
  | ok a =>
    rw [outcome_bind_of_ok went, outcome_bind_of_ok ended, rest a k (seen ++ more), rest a k more,
      List.append_assoc]

theorem attempt {x : Run Watched α} (appends : Appends x) : Appends x.attempt := by
  intro h seen
  rw [outcome_attempt, outcome_attempt, appends h seen]
  rcases x.outcome (h, []) with ⟨result, k, more⟩
  cases result with
  | ok a => rfl
  | error stop => cases stop <;> rfl

theorem onHost (x : Run Host α) : Appends (x.onHost : Run Watched α) := by
  intro h seen
  simp [Hosted.host, Hosted.withHost]

end Run.Appends

namespace Watched

/-- To be the same run, to which it makes no difference what was seen before, as a comparison. -/
def appending : Comparison Watched Watched where
  Rel x y := x = y ∧ Run.Appends x
  pure a := ⟨rfl, .pure a⟩
  throw stop := ⟨rfl, .throw stop⟩
  bind := by
    rintro _ _ x _ next next' ⟨rfl, appends⟩ rest
    have same : next = next' := funext fun a => (rest a).1
    exact ⟨by rw [same], appends.bind fun a => (rest a).2⟩
  attempt := by
    rintro _ x _ ⟨rfl, appends⟩
    exact ⟨rfl, appends.attempt⟩
  neutral _ := ⟨rfl, .onHost _⟩

theorem appends_tell (e : Event) : Run.Appends (tell e) := fun _ _ => rfl

theorem appends_tellQuery (id : CacheId) (name : FeatureName) {x : Run Watched Bool}
    (appends : Run.Appends x) : Run.Appends (tellQuery id name x) := by
  unfold tellQuery
  cases name.key? with
  | none => exact appends
  | some key =>
    exact Run.Appends.bind (.onHost _) fun found => Run.Appends.bind (appends_tell _) fun _ => appends

theorem appends_tellEnd (id : CacheId) (key : Key) (p : Probe) {x : Run Watched Bool}
    (appends : Run.Appends x) : Run.Appends (tellEnd id key p x) := by
  intro h seen
  rw [outcome_tellEnd, outcome_tellEnd, appends h seen, List.append_assoc]

theorem appends_enter (id : CacheId) (name : FeatureName) (o : Offer) (force : Bool) :
    Run.Appends (enter id name o force) := by
  refine Run.Appends.bind (.onHost _) fun _ => ?_
  cases name.key? with
  | none => exact .pure _
  | some key => exact appends_tell _

theorem appends_lookUp {settling : Key → Probe → Run Watched Bool}
    (appends : ∀ key p, Run.Appends (settling key p)) (id : CacheId) (name : FeatureName) :
    Run.Appends (Host.lookUp settling id name) :=
  (appending.lookUp (fun key p => ⟨rfl, appends key p⟩) id name).2

/-- A watched query only adds to what was seen before. -/
theorem appends_query (depth : Nat) (id : CacheId) (name : FeatureName) :
    Run.Appends (query depth id name) := by
  induction depth generalizing id name with
  | zero =>
    exact appends_tellQuery id name
      (appends_lookUp (fun key p => appends_tellEnd id key p (.throw _)) id name)
  | succ depth ih =>
    have ways : appending.Over ⟨query depth, enter⟩ ⟨query depth, enter⟩ :=
      ⟨fun id name => ⟨rfl, ih id name⟩, fun id name o force => ⟨rfl, appends_enter id name o force⟩⟩
    refine appends_tellQuery id name (appends_lookUp (fun key p => ?_) id name)
    refine appends_tellEnd id key p (Run.Appends.bind (ways.invoke id p).2 fun b => ?_)
    exact Run.Appends.bind (.onHost _) fun _ => .pure b

/-- Access that only adds to what was seen does so in whatever is done with it. -/
theorem over_appending (depth : Nat) : appending.Over (access depth) (access depth) :=
  ⟨fun id name => ⟨rfl, appends_query depth id name⟩,
    fun id name o force => ⟨rfl, appends_enter id name o force⟩⟩

/-- Call a probe of a cache of a watched host. -/
def call : Nat → CacheId → Probe → Run Watched Bool
  | 0, _, _ => throw .unfinished
  | depth + 1, id, p => Host.invoke (access depth) id p

/-- The call of a probe is watched without changing it. -/
theorem follows_call (depth : Nat) (id : CacheId) (p : Probe) :
    Run.Follows (call depth id p) (Host.call depth id p) := by
  cases depth with
  | zero => exact .throw _
  | succ depth => exact (over_access depth).invoke id p

theorem appends_call (depth : Nat) (id : CacheId) (p : Probe) : Run.Appends (call depth id p) := by
  cases depth with
  | zero => exact .throw _
  | succ depth => exact ((over_appending depth).invoke id p).2

end Watched

/-! ### What happens meanwhile -/

namespace Probe

variable {p : Probe} {depth : Nat} {id : CacheId} {h : Host}

/-- What happens to features while a probe of a cache is called. -/
def doings (depth : Nat) (id : CacheId) (p : Probe) (h : Host) : List Moment :=
  ((Watched.call depth id p).outcome (h, [])).2.2

/-- Called on a host, a probe leaves its cache alone: nothing is asked of it or registered for it. -/
def Aloof (depth : Nat) (id : CacheId) (p : Probe) (h : Host) : Prop :=
  ∀ m ∈ p.doings depth id h, m.event.subject.1 ≠ id

/-- A watched call does what the call does, and adds what the probe was doing. -/
theorem outcome_watched_call (depth : Nat) (id : CacheId) (p : Probe) (h : Host)
    (seen : List Moment) :
    (Watched.call depth id p).outcome (h, seen) =
      (((Host.call depth id p).outcome h).1,
        (((Host.call depth id p).outcome h).2, seen ++ p.doings depth id h)) := by
  obtain ⟨more, went, _⟩ := Watched.follows_call depth id p h [] []
  rw [Watched.appends_call depth id p h seen, doings, went]

/-- What a probe leaves in the caches is what its doings lead to. -/
theorem unfolds_doings (depth : Nat) (id : CacheId) (p : Probe) (h : Host)
    (running : List Frame) :
    Unfolds h.cache running (p.doings depth id h) ((Host.call depth id p).outcome h).2.cache
      running := by
  obtain ⟨more, went, unfolds⟩ := Watched.follows_call depth id p h [] running
  rwa [doings, went]

/-- A probe is aloof if none of its doings is about the cache. -/
theorem aloof_of_subjects (ids : List CacheId)
    (subjects : (p.doings depth id h).map (·.event.subject.1) = ids) (free : id ∉ ids) :
    p.Aloof depth id h := by
  intro m mem same
  exact free (subjects ▸ List.mem_map.mpr ⟨m, mem, same⟩)

/-- The call of an aloof probe leaves its cache as it is. -/
theorem Aloof.cache (aloof : p.Aloof depth id h) :
    ((Host.call depth id p).outcome h).2.cache id = h.cache id :=
  (p.unfolds_doings depth id h []).cache_of_other aloof

end Probe

/-! ### Probes that use no features -/

/-- A script that neither queries nor registers nor evaluates anything. It may look at what it
likes, and do what it likes to the element and the variables. -/
def Script.Abstains : Script → Prop
  | .finish _ => True
  | .fail _ _ => True
  | .look _ next => ∀ seen, (next seen).Abstains
  | .assign _ _ next => next.Abstains
  | .query .. => False
  | .register .. => False
  | .registerProbe .. => False
  | .setMarkup _ next => next.Abstains
  | .append _ next => next.Abstains
  | .reset next => ∀ b, (next b).Abstains
  | .select .. => False
  | .attempt first next => first.Abstains ∧ ∀ result, (next result).Abstains

/-- While a watched run goes on nothing happens to any feature. -/
def Run.Silent (x : Run Watched α) : Prop := ∀ h seen, (x.outcome (h, seen)).2.2 = seen

namespace Run.Silent

theorem pure (a : α) : Silent (Pure.pure a) := fun _ _ => rfl

theorem throw (stop : Stop) : Silent (throw stop : Run Watched α) := fun _ _ => rfl

theorem onHost (x : Run Host α) : Silent (x.onHost : Run Watched α) := fun _ _ => rfl

theorem bind {x : Run Watched α} {next : α → Run Watched β} (first : Silent x)
    (rest : ∀ a, Silent (next a)) : Silent (x >>= next) := by
  intro h seen
  have same := first h seen
  rcases ended : x.outcome (h, seen) with ⟨stop | a, k, seen'⟩ <;> rw [ended] at same
  · rw [outcome_bind_of_error ended]
    exact same
  · rw [outcome_bind_of_ok ended, rest a k seen']
    exact same

theorem attempt {x : Run Watched α} (silent : Silent x) : Silent x.attempt := by
  intro h seen
  have same := silent h seen
  rw [outcome_attempt]
  rcases ended : x.outcome (h, seen) with ⟨stop | a, k, seen'⟩ <;> rw [ended] at same
  · cases stop with
    | fault f => exact same
    | unfinished => exact same
  · exact same

end Run.Silent

/-- A script that abstains is not seen doing anything to a cache. -/
theorem Script.Abstains.silent {script : Script} (abstains : script.Abstains) (via : Access Watched)
    (label : String) (element : Option ElementId) :
    Run.Silent (script.run via label element) := by
  induction script with
  | finish answer => exact .pure answer
  | fail kind message => exact .throw _
  | look view next ih => exact (Run.Silent.onHost _).bind fun seen => ih seen (abstains seen)
  | assign name value next ih => exact (Run.Silent.onHost _).bind fun _ => ih abstains
  | query name next ih => exact abstains.elim
  | register name value force next ih => exact abstains.elim
  | registerProbe name label title body force next _ ih => exact abstains.elim
  | setMarkup markup next ih =>
    cases element with
    | none => exact .throw _
    | some e =>
      exact (Run.Silent.onHost _).bind fun _ => (Run.Silent.onHost _).bind fun _ => ih abstains
  | append child next ih =>
    cases element with
    | none => exact .throw _
    | some e =>
      exact (Run.Silent.onHost _).bind fun _ => (Run.Silent.onHost _).bind fun _ => ih abstains
  | reset next ih =>
    refine (Run.Silent.onHost _).bind fun id => (Run.Silent.onHost _).bind fun emptied => ?_
    exact (Run.Silent.onHost _).bind fun _ => ih _ (abstains _)
  | select expression next ih => exact abstains.elim
  | attempt first next ihFirst ihNext =>
    exact (ihFirst abstains.1).attempt.bind fun result => ihNext result (abstains.2 result)

/-- A probe that uses no features leaves its cache alone, wherever it is called. -/
theorem Probe.aloof_of_abstains {p : Probe} (abstains : ∀ context, (p.body context).Abstains)
    (depth : Nat) (id : CacheId) (h : Host) : p.Aloof depth id h := by
  have silent : Run.Silent (Watched.call depth id p) := by
    cases depth with
    | zero => exact .throw _
    | succ depth =>
      refine (Run.Silent.onHost _).bind fun context => (Run.Silent.onHost _).bind fun _ => ?_
      refine Run.Silent.bind ?_ fun answer => .pure answer.truth
      exact (abstains context).silent _ p.label context.element
  intro m mem
  rw [doings, silent h []] at mem
  cases mem

/-! ### Queries -/

namespace Watched

variable {h : Host} {id : CacheId} {name : FeatureName} {key : Key} {p : Probe}

/-- A query of a feature without a pending probe finds its entry, and nothing else happens. -/
theorem outcome_query_of_found (named : name.key? = some key)
    (found : ∀ p, (h.cache id).find? key ≠ some (.pending p)) (depth : Nat) (seen : List Moment) :
    (query depth id name).outcome (h, seen) =
      (((Host.query depth id name).outcome h).1,
        (h, seen ++ [⟨.queried id key ((h.cache id).find? key), h⟩])) := by
  match entry : (h.cache id).find? key with
  | some (.pending p) => exact absurd entry (found p)
  | none =>
    rw [Host.query_of_missing named entry]
    cases depth <;>
    · rw [query, outcome_tellQuery named, Host.outcome_lookUp_of_key? _ _ _ named]
      simp only [Hosted.host, id_eq, entry]
  | some (.resolved b) =>
    rw [Host.query_of_resolved named entry]
    cases depth <;>
    · rw [query, outcome_tellQuery named, Host.outcome_lookUp_of_key? _ _ _ named]
      simp only [Hosted.host, id_eq, entry]

/-- A query of a pending feature calls its probe, and what happens meanwhile lies between the
beginning and the end of the call. -/
theorem outcome_query_of_call (named : name.key? = some key)
    (pending : (h.cache id).find? key = some (.pending p)) (depth : Nat) (seen : List Moment) :
    (query depth id name).outcome (h, seen) =
      let called := (Host.call depth id p).outcome h
      let left := called.2.afterCall id key called.1
      (called.1, (left, seen ++
        (⟨.queried id key (some (.pending p)), h⟩ :: p.doings depth id h ++
          [⟨.ended id key p called.1, left⟩]))) := by
  let begun : Moment := ⟨.queried id key (some (.pending p)), h⟩
  have called := p.outcome_watched_call depth id h (seen ++ [begun])
  cases depth with
  | zero =>
    rw [query, outcome_tellQuery named, Host.outcome_lookUp_of_key? _ _ _ named]
    simp only [Hosted.host, id_eq, pending, outcome_tellEnd]
    simp [Host.call, Host.afterCall, Probe.doings, call]
  | succ depth =>
    rw [query, outcome_tellQuery named, Host.outcome_lookUp_of_key? _ _ _ named]
    simp only [Hosted.host, id_eq, pending]
    show (tellEnd id key p (Host.settle (access depth) id key p)).outcome (h, seen ++ [begun]) = _
    rw [call] at called
    rw [outcome_tellEnd, Host.outcome_settle, called]
    rcases (Host.call (depth + 1) id p).outcome h with ⟨result, k⟩
    cases result <;> simp [Host.afterCall, begun, Hosted.host, Hosted.withHost]

end Watched

end FeatureChoice
