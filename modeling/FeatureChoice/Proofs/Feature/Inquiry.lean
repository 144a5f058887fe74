import FeatureChoice.Proofs.Feature.Answers
import FeatureChoice.Proofs.Run.Invariant
/-!
Probes that register nothing. They may query and select, and so find out about further features on
the way, but on a cache whose probes are of this kind nothing happens besides pending features
becoming resolved. What such a cache answers once it answers from then on, without a probe.

* `Cache.known?`: what a cache answers without calling a probe.
* `Host.Inquires`: caches whose probes register nothing.
* `Host.Advances`: what may become of a cache when some of its pending features are resolved.
* `Host.advances_query`: queries of such a cache make it advance, whatever else its probes do.
* `Host.known_query`, `Host.query_of_known`: an answer is known afterwards, and what is known is the
  answer.
-/

namespace FeatureChoice

/-- What a cache answers for a feature without calling a probe. -/
def Cache.known? (c : Cache) (key : Key) : Option Bool :=
  (c.find? key).elim (some false) Entry.result?

namespace Host

variable {h k l : Host} {id other : CacheId} {key : Key} {name : FeatureName} {b : Bool}

/-- The probes that a cache has yet to run register nothing. -/
def Inquires (h : Host) (id : CacheId) : Prop :=
  ∀ key p, (h.cache id).find? key = some (.pending p) → ∀ context, (p.body context).Inquires

/-! ### Advancing -/

/-- Some features of a cache that were pending are resolved, and nothing else about this cache has
changed. -/
structure Advances (id : CacheId) (h k : Host) : Prop where
  workspace : k.workspace = h.workspace
  entry : ∀ key, (k.cache id).find? key = (h.cache id).find? key ∨
    ∃ p b, (h.cache id).find? key = some (.pending p) ∧
      (k.cache id).find? key = some (.resolved b)

namespace Advances

theorem of_cache (cache : k.cache id = h.cache id) (workspace : k.workspace = h.workspace) :
    h.Advances id k := by
  refine ⟨workspace, fun key => .inl ?_⟩
  rw [cache]

theorem refl (id : CacheId) (h : Host) : h.Advances id h := .of_cache rfl rfl

/-- A cache that advances and advances again has advanced. -/
theorem trans (first : h.Advances id k) (second : k.Advances id l) : h.Advances id l := by
  refine ⟨second.workspace.trans first.workspace, fun key => ?_⟩
  rcases second.entry key with same | ⟨p, b, pending, resolved⟩
  · rw [same]
    exact first.entry key
  · rcases first.entry key with same | ⟨p', b', _, resolved'⟩
    · exact .inr ⟨p, b, same ▸ pending, resolved⟩
    · simp [pending] at resolved'

/-- A cache whose probes register nothing still has such probes after it has advanced. -/
theorem inquires (advances : h.Advances id k) (inquires : h.Inquires id) : k.Inquires id := by
  intro key p pending
  rcases advances.entry key with same | ⟨_, _, _, resolved⟩
  · exact inquires key p (same ▸ pending)
  · simp [pending] at resolved

/-- What was known is still known. -/
theorem known (advances : h.Advances id k) (known : (h.cache id).known? key = some b) :
    (k.cache id).known? key = some b := by
  rcases advances.entry key with same | ⟨p, _, pending, _⟩
  · rwa [Cache.known?, same]
  · simp [Cache.known?, pending, Entry.result?] at known

/-- To have advanced is an invariant. -/
theorem invariant (id : CacheId) (h : Host) : Invariant (h.Advances id) h.workspace where
  workspace _ advances := advances.workspace
  aside k l caches workspace advances := by
    refine advances.trans (.of_cache ?_ workspace)
    simp only [cache, caches]

end Advances

/-- What is done to another cache leaves this one as it is. -/
theorem Puts.advances {c : Cache} (puts : h.Puts other c k) (ne : other ≠ id) :
    h.Advances id k := by
  refine .of_cache ?_ puts.workspace
  rw [puts.cache, Caches.set, if_neg ne.symm]

theorem puts_keep (id : CacheId) (key : Key) (b : Bool) (h : Host) :
    h.Puts id ((h.cache id).store key (.resolved b)) ((keep id key b).outcome h).2 := ⟨_, rfl⟩

/-- Entering something into another cache advances this one. -/
theorem advances_enter (ne : other ≠ id) (name : FeatureName) (o : Offer) (force : Bool) (h : Host) :
    h.Advances id ((enter other name o force).outcome h).2 := by
  cases named : name.key with
  | error e =>
    rw [outcome_enter_of_error named]
    exact .refl id h
  | ok key =>
    obtain ⟨k, entered, puts⟩ := puts_enter named h other o force
    rw [entered]
    exact puts.advances ne

/-- Storing the answer of a probe that was pending advances its cache. -/
theorem advances_keep {p : Probe} (pending : (h.cache id).find? key = some (.pending p))
    (called : h.Advances id k) (b : Bool) :
    h.Advances id ((keep id key b).outcome k).2 := by
  have puts := puts_keep id key b k
  refine ⟨puts.workspace.trans called.workspace, fun other => ?_⟩
  rw [puts.cache_self, Cache.find?_store]
  by_cases same : other = key
  · rw [if_pos same, same]
    exact .inr ⟨p, b, pending, rfl⟩
  · rw [if_neg same]
    exact called.entry other

/-- The call of a probe makes a cache whose probes register nothing advance, if the queries of the
workspace do. What the probe does it does to the workspace, so it registers for another cache if at
all. -/
theorem advances_invoke {ask : CacheId → FeatureName → Run Host Bool} {p : Probe}
    (inquires : h.Inquires id) (used : other = id ∨ h.workspace = some other)
    (pending : (h.cache other).find? key = some (.pending p))
    (asked : ∀ w, h.workspace = some w → ∀ name, Run.Keeps (h.Advances id) (ask w name)) :
    h.Advances id ((invoke ⟨ask, enter⟩ other p).outcome h).2 := by
  have entered : ∀ w, h.workspace = some w → (∀ context, (p.body context).Inquires) ∨
      ∀ name o force, Run.Keeps (h.Advances id) (enter w name o force) := by
    intro w named
    by_cases same : w = id
    · left
      obtain rfl : other = id := by
        rcases used with same' | named'
        · exact same'
        · exact (Option.some.inj (named'.symm.trans named)).trans same
      exact inquires key p pending
    · right
      intro name o force k advances
      exact advances.trans (advances_enter same name o force k)
  exact (Advances.invariant id h).invoke asked other p entered h (.refl id h)

/-- A query of a cache makes this one advance if the call of a pending probe does. -/
theorem advances_query_of_call {depth : Nat} {name : FeatureName}
    (called : ∀ key p, (h.cache other).find? key = some (.pending p) →
      h.Advances id ((call depth other p).outcome h).2) :
    h.Advances id ((query depth other name).outcome h).2 := by
  cases named : name.key? with
  | none =>
    rw [query_of_unnamed named]
    exact .refl id h
  | some key =>
    match found : (h.cache other).find? key with
    | none =>
      rw [query_of_missing named found]
      exact .refl id h
    | some (.resolved b) =>
      rw [query_of_resolved named found]
      exact .refl id h
    | some (.pending p) =>
      have advances := called key p found
      rw [query_of_call named found]
      generalize (call depth other p).outcome h = ended at advances
      rcases ended with ⟨stop | b, k⟩
      · exact advances
      · by_cases same : other = id
        · subst same
          exact advances_keep found advances b
        · exact advances.trans ((puts_keep other key b k).advances same)

/-- A query of a cache whose probes register nothing makes it advance; and so does a query of the
workspace that a probe of this cache makes on the way. -/
theorem advances_query (inquires : h.Inquires id) (depth : Nat)
    (used : other = id ∨ h.workspace = some other) (name : FeatureName) :
    h.Advances id ((query depth other name).outcome h).2 := by
  induction depth generalizing h other name with
  | zero => exact advances_query_of_call fun _ _ _ => .refl id h
  | succ depth ih =>
    refine advances_query_of_call fun key p found => ?_
    refine advances_invoke inquires used found fun w named name k advances => ?_
    have usedThen : w = id ∨ k.workspace = some w := .inr (advances.workspace.trans named)
    exact advances.trans (ih (advances.inquires inquires) usedThen name)

/-! ### What is known -/

/-- A feature that is known is answered without a change. -/
theorem query_of_known (named : name.key? = some key) (known : (h.cache id).known? key = some b)
    (depth : Nat) : (query depth id name).outcome h = (.ok b, h) := by
  match found : (h.cache id).find? key with
  | none =>
    obtain rfl : b = false := by simpa [Cache.known?, found, eq_comm] using known
    exact query_of_missing named found depth
  | some (.resolved b') =>
    obtain rfl : b = b' := by simpa [Cache.known?, found, Entry.result?, eq_comm] using known
    exact query_of_resolved named found depth
  | some (.pending p) => simp [Cache.known?, found, Entry.result?] at known

/-- What a query answers is known from then on. -/
theorem known_query {depth : Nat} (named : name.key? = some key)
    (asked : (query depth id name).outcome h = (.ok b, k)) : (k.cache id).known? key = some b := by
  match found : (h.cache id).find? key with
  | none =>
    rw [query_of_missing named found] at asked
    cases asked
    simp [Cache.known?, found]
  | some (.resolved b') =>
    rw [query_of_resolved named found] at asked
    cases asked
    simp [Cache.known?, found, Entry.result?]
  | some (.pending p) =>
    rw [query_of_call named found] at asked
    rcases ended : (call depth id p).outcome h with ⟨stop | b', l⟩
    · rw [ended] at asked
      cases asked
    · rw [ended] at asked
      cases asked
      simp [afterCall, Cache.known?, find?_keep, Entry.result?]

end Host

end FeatureChoice
