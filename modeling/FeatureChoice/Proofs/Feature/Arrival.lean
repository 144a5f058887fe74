import FeatureChoice.Proofs.Feature.Answers
import Mathlib.Data.List.DropRight
/-!
The order of the features of a cache. A feature stands where it came in: what happens to a feature
that is there leaves it at its place, and one that was removed and comes back goes to the end. So
the features stand in the order in which each of them last came in, also when a probe removes
features, its own among them, while it is running.

* `Cache.Consistent`: what can be read off a cache fits together.
* `Event.reorder`, `Event.Leads.names_eq`: what an event does to the order.
* `arrival`, `Arrived.after`: when a feature came to stay, and that whole histories keep the
  features in the order of these times.
* `features_in_order_of_arrival`: so does every run from the making of a cache on.
-/

namespace FeatureChoice

/-! ### Reading a cache -/

namespace FeatureName

/-- A normalised name is among keys exactly if its key is one of them. -/
theorem normalize_mem_toName_iff (name : FeatureName) (keys : List Key) :
    name.normalize ∈ keys.map Key.toName ↔ ∃ key, name.key? = some key ∧ key ∈ keys := by
  constructor
  · intro mem
    obtain ⟨key, listed, same⟩ := List.mem_map.mp mem
    exact ⟨key, (name.normalize_eq_toName_iff key).mp same.symm, listed⟩
  · rintro ⟨key, named, listed⟩
    apply List.mem_map.mpr
    exact ⟨key, listed, ((name.normalize_eq_toName_iff key).mpr named).symm⟩

end FeatureName

/-- What a host reads off a cache. -/
inductive Reading where
  | contains (name : FeatureName)
  | isPending (name : FeatureName)
  | names
  /-- The keys that a walk over the cache comes by. -/
  | walk
  | size
  | snapshot
  | display

namespace Reading

abbrev Result : Reading → Type
  | contains _ | isPending _ => Bool
  | names | walk => List Key
  | size => Nat
  | snapshot => OrderedMap Key (Option Bool)
  | display => String

/-- Read something off a cache. -/
def of (c : Cache) : (r : Reading) → Except NoKey r.Result
  | contains name => c.contains name
  | isPending name => c.isPending name
  | names => .ok c.names
  | walk => .ok c.entries.keys
  | size => .ok c.size
  | snapshot => .ok c.snapshot
  | display => .ok c.display

/-- Read something off a cache of a host. -/
def run (id : CacheId) (r : Reading) : Run Host r.Result := do
  match r.of (← Host.look (·.cache id)) with
  | .ok result => return result
  | .error e => Run.fail (.ofNoKey e)

/-- The name that a reading asks about. -/
def name? : Reading → Option FeatureName
  | contains name | isPending name => some name
  | _ => none

/-- Reading something off a cache leaves the host as it is. -/
theorem outcome_run (id : CacheId) (r : Reading) (h : Host) :
    (r.run id).outcome h = ((r.of (h.cache id)).mapError fun e => .fault (.ofNoKey e), h) := by
  rw [run, Run.outcome_bind_of_ok (Host.outcome_look _ h)]
  cases r.of (h.cache id) <;> rfl

/-- A cache can be read, except under an integer that cannot be written. -/
theorem of_isOk_or (c : Cache) (r : Reading) :
    (∃ result, r.of c = .ok result) ∨
      r.of c = .error .longInteger ∧
        ∃ name, r.name? = some name ∧ name.key = .error .longInteger := by
  have looked : ∀ name : FeatureName, (∃ key?, name.sought = .ok key?) ∨
      name.sought = .error .longInteger ∧ name.key = .error .longInteger := by
    intro name
    unfold FeatureName.sought
    match name.key with
    | .ok key => exact .inl ⟨_, rfl⟩
    | .error (.compound _) => exact .inl ⟨_, rfl⟩
    | .error .longInteger => exact .inr ⟨rfl, rfl⟩
  cases r with
  | contains name =>
    rcases looked name with ⟨key?, sought⟩ | ⟨sought, long⟩
    · exact .inl ⟨_, by rw [of, Cache.contains, sought]; rfl⟩
    · exact .inr ⟨by rw [of, Cache.contains, sought]; rfl, name, rfl, long⟩
  | isPending name =>
    rcases looked name with ⟨key?, sought⟩ | ⟨sought, long⟩
    · exact .inl ⟨_, by rw [of, Cache.isPending, sought]; rfl⟩
    · exact .inr ⟨by rw [of, Cache.isPending, sought]; rfl, name, rfl, long⟩
  | names => exact .inl ⟨_, rfl⟩
  | walk => exact .inl ⟨_, rfl⟩
  | size => exact .inl ⟨_, rfl⟩
  | snapshot => exact .inl ⟨_, rfl⟩
  | display => exact .inl ⟨_, rfl⟩

end Reading

namespace Cache

/-- What can be read off a cache fits together, and no feature is listed twice or under an
integer. -/
structure Consistent (c : Cache) : Prop where
  nodup : c.names.Nodup
  noNumber : ∀ n, FeatureName.number n ∉ c.names.map Key.toName
  walk : Reading.of c .walk = .ok c.names
  snapshot : c.snapshot.keys = c.names
  size : c.size = c.names.length
  contains : ∀ name : FeatureName,
    c.contains name = .ok true ↔ name.normalize ∈ c.names.map Key.toName
  isPending : ∀ name : FeatureName,
    c.isPending name = .ok true ↔
      ∃ binding ∈ c.snapshot.entries, binding.1.toName = name.normalize ∧ binding.2 = none
  display : c.display =
    s!"FeatureCache(features={c.names.length}, pending={(c.names.filter fun key =>
      c.isPending key.toName matches .ok true).length})"

variable {c : Cache}

theorem snapshot_keys (c : Cache) : c.snapshot.keys = c.names := OrderedMap.keys_mapValues _ _

theorem size_eq_length (c : Cache) : c.size = c.names.length := (List.length_map _).symm

/-- What is contained is among the names, once it is normalised. -/
theorem contains_iff_mem (c : Cache) (name : FeatureName) :
    c.contains name = .ok true ↔ name.normalize ∈ c.names.map Key.toName := by
  rw [contains_iff, name.normalize_mem_toName_iff]

/-- An entry is pending exactly if its probe has yet to run, as no key comes twice. -/
theorem isPending_toName (nodup : c.names.Nodup) {key : Key} {e : Entry}
    (mem : (key, e) ∈ c.entries.entries) : c.isPending key.toName = .ok e.isPending := by
  have found : c.find? key = some e := (OrderedMap.get?_eq_some_iff nodup).mpr mem
  have named : key.toName.key? = some key := FeatureName.key?_eq_some_iff.mpr key.key_toName
  rw [isPending_eq named, cell_of_key? named, found]
  rfl

/-- What is pending is shown without a result in the snapshot. -/
theorem isPending_iff_mem (nodup : c.names.Nodup) (name : FeatureName) :
    c.isPending name = .ok true ↔
      ∃ binding ∈ c.snapshot.entries, binding.1.toName = name.normalize ∧ binding.2 = none := by
  rw [isPending_iff]
  constructor
  · rintro ⟨key, named, unknown⟩
    have same := ((name.normalize_eq_toName_iff key).mpr named).symm
    exact ⟨(key, none), OrderedMap.mem_of_find unknown, same, rfl⟩
  · rintro ⟨⟨key, known⟩, mem, same, rfl⟩
    obtain ⟨⟨k, e⟩, listed, eq⟩ := List.mem_map.mp mem
    obtain ⟨rfl, unknown⟩ := Prod.mk.inj eq
    have found : c.find? k = some e :=
      (OrderedMap.get?_eq_some_iff nodup).mpr listed
    refine ⟨k, (name.normalize_eq_toName_iff k).mp same.symm, ?_⟩
    rw [get?_snapshot, found]
    exact congrArg some unknown

/-- As no key comes twice, the pending features are counted once each. -/
theorem pendingCount_eq (nodup : c.names.Nodup) :
    c.pendingCount =
      (c.names.filter fun key => c.isPending key.toName matches .ok true).length := by
  rw [pendingCount, names, OrderedMap.keys, List.filter_map, List.length_map,
    List.countP_eq_length_filter]
  congr 1
  apply List.filter_congr
  rintro ⟨key, e⟩ mem
  simp only [Function.comp_apply, isPending_toName nodup mem]
  cases e <;> rfl

/-- If no feature is listed twice, all that can be read off a cache fits together. -/
theorem consistent (nodup : c.names.Nodup) : c.Consistent where
  nodup := nodup
  noNumber n listed := by
    obtain ⟨key, _, same⟩ := List.mem_map.mp listed
    cases key <;> cases same
  walk := rfl
  snapshot := c.snapshot_keys
  size := c.size_eq_length
  contains := c.contains_iff_mem
  isPending := isPending_iff_mem nodup
  display := by
    rw [← pendingCount_eq nodup, ← size_eq_length]
    rfl

end Cache

/-! ### What an event does to the order -/

/-- A new feature goes to the end; a present one keeps its place. -/
def placed (names : List Key) (key : Key) : List Key :=
  if key ∈ names then names else names ++ [key]

/-- What an event makes of the order of a cache's features. -/
def Event.reorder (id : CacheId) (names : List Key) : Event → List Key
  | .queried .. => names
  | .ended other key _ (.ok _) => if other = id then placed names key else names
  | .ended _ _ _ (.error _) => names
  | .registered other key o force =>
    if other ≠ id ∨ (key ∈ names ∧ force = false) then names
    else if o.isNothing then names.filter (· ≠ key)
    else placed names key

/-- An offer for a feature that is there keeps the order, unless it is forced and removes the
feature; a new feature goes to the end. -/
theorem Cache.names_offer (c : Cache) (key : Key) (o : Offer) (force : Bool) :
    (c.offer key o force).names =
      if key ∈ c.names ∧ force = false then c.names
      else if o.isNothing then c.names.filter (· ≠ key)
      else placed c.names key := by
  have there : c.entries.contains key = true ↔ key ∈ c.names := (c.entries.mem_keys_iff key).symm
  simp only [offer, Bool.and_eq_true, there, Bool.not_eq_true']
  split
  · rfl
  · split
    · exact c.names_remove key
    · exact c.names_store key _

/-- Every event changes the order of the features as its kind says. -/
theorem Event.Leads.names_eq {e : Event} {c c' : Caches} {running running' : List Frame}
    (leads : e.Leads c running c' running') (id : CacheId) :
    (c' id).names = e.reorder id (c id).names := by
  cases leads with
  | missing => rfl
  | resolved => rfl
  | called => rfl
  | @returned other key p b =>
    by_cases same : other = id
    · subst same
      simp [Caches.set, reorder, placed, Cache.names_store]
    · simp [Caches.set, reorder, same, Ne.symm same]
  | stopped => rfl
  | @registered other key o force =>
    by_cases same : other = id
    · subst same
      simp [Caches.set, reorder, Cache.names_offer]
    · simp [Caches.set, reorder, same, Ne.symm same]

/-- The ways in which the order of features changes from one time to the next. -/
inductive Reorders (names : List Key) : List Key → Prop where
  | same : Reorders names names
  | removed (key : Key) : Reorders names (names.filter (· ≠ key))
  | added {key : Key} (fresh : key ∉ names) : Reorders names (names ++ [key])

/-- Placing a key keeps the order of all others. -/
theorem reorders_placed (names : List Key) (key : Key) : Reorders names (placed names key) := by
  unfold placed
  split
  · exact .same
  · next fresh => exact .added fresh

/-- What an event does to the order keeps the others in their places. -/
theorem Event.reorders (e : Event) (id : CacheId) (names : List Key) :
    Reorders names (e.reorder id names) := by
  cases e with
  | queried => exact .same
  | ended other key p result =>
    cases result with
    | error stop => exact .same
    | ok b =>
      simp only [reorder]
      split
      · exact reorders_placed names key
      · exact .same
  | registered other key o force =>
    simp only [reorder]
    split
    · exact .same
    · split
      · exact .removed key
      · exact reorders_placed names key

/-! ### Times of arrival -/

/-- When a feature came to stay: the number of stages up to the last one without it. -/
def arrival (key : Key) (stages : List Cache) : Nat :=
  (stages.rdropWhile fun c => key ∈ c.names).length

/-- A key that is absent at the last stage arrives after it, if ever. -/
theorem arrival_concat (key : Key) (stages : List Cache) (c : Cache) :
    arrival key (stages ++ [c]) =
      if key ∈ c.names then arrival key stages else stages.length + 1 := by
  unfold arrival
  rw [List.rdropWhile_concat]
  split <;> simp_all

theorem arrival_le (key : Key) (stages : List Cache) : arrival key stages ≤ stages.length :=
  (List.rdropWhile_prefix _ stages).length_le

/-- After some stages the features of a cache, which is the last of them, stand in the order of
their arrival. -/
structure Arrived (stages : List Cache) (c : Cache) : Prop where
  ordered : c.names.Pairwise fun a b => arrival a stages < arrival b stages
  present : ∀ key ∈ c.names, arrival key stages < stages.length
  absent : ∀ key ∉ c.names, arrival key stages = stages.length

namespace Arrived

variable {stages : List Cache} {c c' : Cache}

theorem new (context : Context) : Arrived [.new context] (.new context) where
  ordered := .nil
  present := nofun
  absent key away := by
    rw [← List.nil_append [Cache.new context], arrival_concat, if_neg away]
    rfl

/-- In a cache that has arrived, no key comes twice. -/
theorem nodup (arrived : Arrived stages c) : c.names.Nodup := by
  refine arrived.ordered.imp fun earlier => ?_
  rintro rfl
  exact Nat.lt_irrefl _ earlier

/-- One more stage keeps the features in the order of their arrival. -/
theorem next (arrived : Arrived stages c) (change : Reorders c.names c'.names) :
    Arrived (stages ++ [c']) c' where
  ordered := by
    -- who is there now arrived when it did before, and a new feature arrived after all others
    have before : c'.names.Pairwise fun a b => arrival a stages < arrival b stages := by
      generalize c'.names = names at change
      cases change with
      | same => exact arrived.ordered
      | removed key => exact arrived.ordered.filter _
      | @added key fresh =>
        apply List.pairwise_append.mpr
        refine ⟨arrived.ordered, List.pairwise_singleton _ _, ?_⟩
        intro a there b last
        rw [List.mem_singleton.mp last, arrived.absent key fresh]
        exact arrived.present a there
    refine before.imp_of_mem fun a_there b_there earlier => ?_
    rw [arrival_concat, arrival_concat, if_pos a_there, if_pos b_there]
    exact earlier
  present key there := by
    rw [arrival_concat, if_pos there, List.length_append]
    exact Nat.lt_succ_of_le (arrival_le key stages)
  absent key away := by
    rw [arrival_concat, if_neg away, List.length_append]
    rfl

end Arrived

/-! ### Stages of a cache -/

/-- A cache and what becomes of it as a seed is copied, one result after the other. -/
def Cache.stages (c : Cache) : List (Key × Offer) → List Cache
  | [] => [c]
  | (key, o) :: seed => c :: (if o.isNothing then c else c.store key (.ofOffer o)).stages seed

namespace Arrived

variable {stages : List Cache} {c : Cache}

/-- Copying a seed keeps the features in the order of their arrival. -/
theorem sow (arrived : Arrived (stages ++ [c]) c) (seed : List (Key × Offer)) :
    Arrived (stages ++ c.stages seed) (c.sow seed) := by
  induction seed generalizing stages c with
  | nil => exact arrived
  | cons binding seed ih =>
    obtain ⟨key, o⟩ := binding
    let c' := if o.isNothing then c else c.store key (.ofOffer o)
    have change : Reorders c.names c'.names := by
      simp only [c']
      split
      · exact .same
      · rw [c.names_store]
        exact reorders_placed c.names key
    have rest := ih (arrived.next change)
    rwa [List.append_assoc] at rest

/-- A history keeps the features of every cache in the order of their arrival. -/
theorem after {id : CacheId} {c c' : Caches} {running running' : List Frame}
    {moments : List Moment} (arrived : Arrived stages (c id))
    (unfolds : Unfolds c running moments c' running') :
    Arrived (stages ++ moments.map fun m => m.host.cache id) (c' id) := by
  induction unfolds generalizing stages with
  | nil => simpa using arrived
  | @cons c _ m _ _ _ _ leads _ ih =>
    have change := m.event.reorders id (c id).names
    rw [← leads.names_eq id] at change
    have rest := ih (arrived.next change)
    rwa [List.append_assoc] at rest

end Arrived

/-! ### Runs -/

/-- Serve requests to caches, one after the other. -/
def serveAll {σ : Type} [Hosted σ] (via : Access σ) : List (CacheId × Request) → Run σ Unit
  | [] => pure ()
  | (id, request) :: requests => do
    let _ ← (request.run via id).attempt
    serveAll via requests

/-- The history of requests to the caches of a host. -/
def historyOfAll (depth : Nat) (requests : List (CacheId × Request)) (h : Host) : List Moment :=
  ((serveAll (Watched.access depth) requests).outcome (h, [])).2.2

theorem Comparison.Over.serveAll {σ τ : Type} [Hosted σ] [Hosted τ] {C : Comparison σ τ}
    {via : Access σ} {via' : Access τ} (ways : C.Over via via')
    (requests : List (CacheId × Request)) :
    C.Rel (FeatureChoice.serveAll via requests) (FeatureChoice.serveAll via' requests) := by
  induction requests with
  | nil => exact C.pure _
  | cons request requests ih =>
    exact C.bind (C.attempt (ways.request request.1 request.2)) fun _ => ih

/-- What requests leave in the caches is what their history leads to. -/
theorem unfolds_serveAll (depth : Nat) (requests : List (CacheId × Request)) (h : Host) :
    Unfolds h.cache [] (historyOfAll depth requests h)
      ((serveAll (Host.access depth) requests).outcome h).2.cache [] := by
  obtain ⟨more, went, unfolds⟩ := (Watched.over_access depth).serveAll requests h [] []
  rw [historyOfAll, went]
  exact unfolds

/-- From the making of a cache on, whatever is asked of it and of other caches and whatever probes
do, at every time what can be read off the cache fits together, reading it changes nothing and only
fails under an integer that cannot be written, its features stand in the order of their arrival, and
the next event changes the order as it should: a removed feature is gone, a new one goes to the end,
and all others keep their places. What the run leaves in the end is what its history leads to. -/
theorem features_in_order_of_arrival (context : Context) (seed : List (Key × Offer))
    (depth : Nat) (requests : List (CacheId × Request)) (h : Host) :
    let id := (h.addCache ((Cache.new context).sow seed)).1
    let made := (h.addCache ((Cache.new context).sow seed)).2
    let moments := historyOfAll depth requests made
    ((serveAll (Host.access depth) requests).outcome made).2.cache =
        (hostAfter made moments).cache ∧
      ∀ before after, moments = before ++ after →
        let now := hostAfter made before
        let stages := (Cache.new context).stages seed ++ before.map fun m => m.host.cache id
        (now.cache id).Consistent ∧
          (∀ r : Reading, ((r.run id).outcome now).2 = now ∧
            ((∃ result, r.of (now.cache id) = .ok result ∧
                (r.run id).outcome now = (.ok result, now)) ∨
              ∃ name, r.name? = some name ∧ name.key = .error .longInteger ∧
                (r.run id).outcome now = (.error (.fault .longInteger), now))) ∧
          ((now.cache id).names.Pairwise fun a b => arrival a stages < arrival b stages) ∧
          ∀ m rest, after = m :: rest →
            (m.host.cache id).names = m.event.reorder id (now.cache id).names := by
  intro id made moments
  have unfolds : Unfolds made.cache [] moments _ [] := unfolds_serveAll depth requests made
  refine ⟨unfolds.cache_hostAfter, ?_⟩
  intro before after happens now stages
  rw [happens] at unfolds
  obtain ⟨c, running, first, second⟩ := unfolds.split before
  have reached : c = now.cache := first.cache_hostAfter
  have sown : made.cache id = (Cache.new context).sow seed := by simp [made, id, Host.addCache]
  have start : Arrived ((Cache.new context).stages seed) (made.cache id) := by
    rw [sown]
    have first : Arrived ([] ++ [.new context]) (.new context) := .new context
    exact first.sow seed
  have arrived : Arrived stages (now.cache id) := by
    rw [← reached]
    exact start.after first
  refine ⟨Cache.consistent arrived.nodup, fun r => ?_, arrived.ordered, ?_⟩
  · have went := r.outcome_run id now
    refine ⟨congrArg Prod.snd went, ?_⟩
    rcases r.of_isOk_or (now.cache id) with ⟨result, read⟩ | ⟨long, name, asked, unwritten⟩
    · rw [read] at went
      exact .inl ⟨result, read, went⟩
    · rw [long] at went
      exact .inr ⟨name, asked, unwritten, went⟩
  · rintro m rest rfl
    cases second with
    | cons leads _ =>
      rw [← reached]
      exact leads.names_eq id

/-- A truth is kept as a key, though truths are integers: the one is equal to one. And membership of
an integer that cannot be written has no answer. -/
theorem truths_are_keys :
    let made := (Host.empty.addCache (.new .plain)).2
    let left :=
      ((Host.register 0 ⟨0⟩ (.truth true) (.value (.bool true)) false false).outcome made).2
    (left.cache ⟨0⟩).names = [.truth true] ∧
      (Key.truth true).toName.toValue.sameKey (.int 1) = true ∧
      (Host.readUnder Cache.contains ⟨0⟩ .overlong).outcome left =
        (.error (.fault .longInteger), left) :=
  ⟨rfl, rfl, Host.contains_overlong _ _⟩

/-- A seed whose first feature has a probe that removes the feature while it is running. -/
def vanishingSeed : List (Key × Offer) :=
  let script : Script := .register (.text "canvas") .none true (.finish (.bool true))
  [(.text "canvas", .probe ⟨"canvas", "canvas", fun _ => script⟩),
    (.text "dom", .value (.bool false))]

/-- The answer of a probe that removed its own feature brings the feature back at the end. -/
theorem features_in_order_of_arrival_vanishing :
    let made := ({ Host.empty with workspace := some ⟨0⟩ }.addCache
      ((Cache.new .plain).sow vanishingSeed)).2
    let moments := historyOfAll 1 [(⟨0⟩, .query (.text "canvas"))] made
    let now := hostAfter made moments
    (made.cache ⟨0⟩).names = [.text "canvas", .text "dom"] ∧
      (now.cache ⟨0⟩).names = [.text "dom", .text "canvas"] ∧ (now.cache ⟨0⟩).Consistent := by
  intro made moments now
  refine ⟨rfl, rfl, ?_⟩
  have runs := features_in_order_of_arrival .plain vanishingSeed 1
    [(⟨0⟩, .query (.text "canvas"))] { Host.empty with workspace := some ⟨0⟩ }
  exact (runs.2 moments [] (List.append_nil _).symm).1

end FeatureChoice
