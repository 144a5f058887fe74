import FeatureChoice.Feature.Session
import FeatureChoice.Proofs.Run.Invariant
/-!
The scope of host code. Host code uses the cache that it is given and, by what its probes do, the
workspace. It neither makes caches nor chooses another workspace, and every other cache stays as it
is.

* `Scope`, `Run.Holds`: caches that are used among those that are there, and runs that use no other
  ones.
* `holds_query`, `holds_request`: queries of and all other requests to a cache in the scope.
* `Host.Numbered`: hosts that number their caches as they are made.
-/

namespace FeatureChoice

variable {α β : Type}

/-- The caches that are there, and those among them that are used; the workspace is one of these.
The others hold what is said here. -/
structure Scope where
  ids : List CacheId
  used : List CacheId
  workspace : Option CacheId
  cache : CacheId → Cache
  used_subset : used ⊆ ids
  workspace_used : ∀ id, workspace = some id → id ∈ used

/-- The same host, in a scope. -/
structure Host.Within (scope : Scope) (h h' : Host) : Prop where
  same : h = h'
  ids : h.caches.keys = scope.ids
  workspace : h.workspace = scope.workspace
  others : ∀ id, id ∉ scope.used → h.cache id = scope.cache id

/-- A run that stays in a scope. -/
def Run.Holds (scope : Scope) (x : Run Host α) : Prop := Run.Similar (Host.Within scope) x x

variable {scope : Scope} {id : CacheId}

namespace Run.Holds

theorem pure (a : α) : Holds scope (Pure.pure a) := Similar.pure a

theorem throw (stop : Stop) : Holds scope (throw stop : Run Host α) := Similar.throw stop

theorem bind {x : Run Host α} {next : α → Run Host β} (first : Holds scope x)
    (rest : ∀ a, Holds scope (next a)) : Holds scope (x >>= next) :=
  Similar.bind first rest

theorem map {x : Run Host α} (holds : Holds scope x) (f : α → β) : Holds scope (f <$> x) := by
  rw [← bind_pure_comp]
  exact holds.bind fun a => .pure (f a)

/-- A run within a scope leaves a host within it. -/
theorem outcome {x : Run Host α} (holds : Holds scope x) {h : Host} (within : h.Within scope h) :
    (x.outcome h).2.Within scope (x.outcome h).2 := (holds h h within).2

end Run.Holds

namespace Host

open Run (Holds)

theorem holds_look (f : Host → α) : Holds scope (look f) := by
  rintro h _ ⟨rfl, ids, workspace, others⟩
  exact ⟨rfl, rfl, ids, workspace, others⟩

/-- What changes neither caches nor workspace stays within every scope. -/
theorem holds_change {f : Host → Host}
    (keeps : ∀ h, (f h).caches = h.caches ∧ (f h).workspace = h.workspace) :
    Holds scope (change f) := by
  rintro h _ ⟨rfl, ids, workspace, others⟩
  obtain ⟨sameCaches, sameWorkspace⟩ := keeps h
  have same : ∀ id, (f h).cache id = h.cache id := fun id => by simp only [cache, sameCaches]
  exact ⟨rfl, rfl, (congrArg _ sameCaches).trans ids, sameWorkspace.trans workspace,
    fun id free => (same id).trans (others id free)⟩

theorem holds_say (logger message : String) : Holds scope (say logger message) :=
  holds_change fun _ => ⟨rfl, rfl⟩

/-- To stay in a scope is to keep hosts in it. -/
theorem holds_iff_keeps {x : Run Host α} :
    Holds scope x ↔ Run.Keeps (fun h => h.Within scope h) x := by
  constructor
  · intro holds h within
    exact holds.outcome within
  · rintro keeps h _ ⟨rfl, ids, workspace, others⟩
    exact ⟨rfl, keeps h ⟨rfl, ids, workspace, others⟩⟩

/-- That a host is in a scope is decided by its caches and its workspace. -/
theorem invariant_within (scope : Scope) :
    Invariant (fun h => h.Within scope h) scope.workspace where
  workspace _ within := within.workspace
  aside h k caches workspace within := by
    refine ⟨rfl, caches ▸ within.ids, workspace.trans within.workspace, fun id free => ?_⟩
    rw [← within.others id free]
    simp only [cache, caches]

/-- A cache that is used can be changed. -/
theorem holds_setCache (used : id ∈ scope.used) (f : Host → Cache) :
    Holds scope (change fun h => h.setCache id (f h)) := by
  rintro h _ ⟨rfl, ids, workspace, others⟩
  have keys : (h.setCache id (f h)).caches.keys = h.caches.keys := by
    rw [setCache, OrderedMap.keys_insert, if_pos (ids ▸ scope.used_subset used)]
  refine ⟨rfl, rfl, keys.trans ids, workspace, fun other free => ?_⟩
  have ne : other ≠ id := fun same => free (same ▸ used)
  show (h.setCache id (f h)).cache other = scope.cache other
  rw [cache_setCache, if_neg ne, others other free]

/-- Entering into a cache that is used stays within the scope. -/
theorem holds_enter (used : id ∈ scope.used) (name : FeatureName) (o : Offer) (force : Bool) :
    Holds scope (enter id name o force) := by
  refine holds_iff_keeps.mpr (keeps_enter ?_ ?_ name)
  · exact fun _ => holds_iff_keeps.mp (holds_say _ _)
  · exact fun _ _ within => (holds_setCache used fun _ => _).outcome within

theorem holds_keep (used : id ∈ scope.used) (key : Key) (b : Bool) :
    Holds scope (keep id key b) :=
  (holds_setCache used _).bind fun _ => holds_say _ _

theorem holds_selectBy {ask : FeatureName → Run Host Bool}
    (asked : ∀ name, Holds scope (ask name)) (expression : String) :
    Holds scope (selectBy ask expression) :=
  holds_iff_keeps.mpr <|
    (invariant_within scope).selectBy (fun name => holds_iff_keeps.mp (asked name)) expression

section Access

variable {via : Access Host} (asked : ∀ id ∈ scope.used, ∀ name, Holds scope (via.ask id name))
  (entered : ∀ id ∈ scope.used, ∀ name o force, Holds scope (via.enter id name o force))

include asked

/-- Resolving stays within a scope if its continuations do. -/
theorem holds_resolve (used : id ∈ scope.used) (expression : String)
    {onResolved : String → Run Host Unit} {onUnresolved : Run Host Unit}
    (resolved : ∀ name, Holds scope (onResolved name)) (unresolved : Holds scope onUnresolved) :
    Holds scope (via.resolve (some id) expression onResolved onUnresolved) := by
  refine (holds_selectBy (asked id used) expression).bind fun s => (holds_say _ _).bind fun _ => ?_
  cases s.identifier with
  | none => exact unresolved.bind fun _ => .pure s
  | some name => exact (resolved name).bind fun _ => .pure s

include entered

/-- Scripts act on the workspace, which is in every scope. -/
theorem holds_script (script : Script) (label : String) (element : Option ElementId) :
    Holds scope (script.run via label element) := by
  -- the workspace is one of the caches that are used
  have used := scope.workspace_used
  apply holds_iff_keeps.mpr
  apply (invariant_within scope).script
  · intro id named name
    exact holds_iff_keeps.mp (asked id (used id named) name)
  · intro id named
    exact .inr fun name o force => holds_iff_keeps.mp (entered id (used id named) name o force)

theorem holds_invoke (id : CacheId) (p : Probe) : Holds scope (invoke via id p) := by
  have used := scope.workspace_used
  apply holds_iff_keeps.mpr
  apply (invariant_within scope).invoke
  · intro id named name
    exact holds_iff_keeps.mp (asked id (used id named) name)
  · intro id named
    exact .inr fun name o force => holds_iff_keeps.mp (entered id (used id named) name o force)

theorem holds_callback (c : Callback) : Holds scope (c.run via) :=
  (holds_script asked entered c.script c.label c.element).bind fun _ => .pure _

/-- Settling a feature of a cache that is used stays within the scope. -/
theorem holds_settle (used : id ∈ scope.used) (key : Key) (p : Probe) :
    Holds scope (settle via id key p) := by
  refine (holds_invoke asked entered id p).bind fun b => ?_
  exact (holds_keep used key b).bind fun _ => .pure b

/-- Whatever a cache that is used is asked for. -/
theorem holds_request (used : id ∈ scope.used) (request : Request) :
    Holds scope (request.run via id) := by
  have runs := holds_callback asked entered
  cases request with
  | query name => exact (asked id used name).bind fun _ => .pure _
  | register name o now force =>
    refine Holds.bind ((entered id used name o force).bind fun _ => ?_) fun _ => .pure _
    cases now with
    | false => exact .pure none
    | true => exact (asked id used name).map some
  | registerDefaults =>
    refine (holds_look _).bind fun features => ?_
    induction features with
    | nil => exact .pure PUnit.unit
    | cons feature features ih => exact (entered id used _ _ _).bind fun _ => ih
  | select expression => exact (holds_selectBy (asked id used) expression).bind fun _ => .pure _
  | resolve expression onResolved onUnresolved =>
    refine (holds_resolve asked used expression ?_ ?_).bind fun _ => .pure _
    · exact fun name => runs (onResolved name)
    · exact runs onUnresolved
  | load expression require answer loaded =>
    refine (holds_resolve asked used expression ?_ ?_).bind fun _ => .pure _
    · intro name
      refine (runs (require [name])).bind fun _ => ?_
      cases answer with
      | none => exact .pure _
      | some values => exact runs (loaded values)
    · exact runs (loaded [])

end Access

theorem holds_lookUp {settling : Key → Probe → Run Host Bool}
    (settled : ∀ key p, Holds scope (settling key p)) (id : CacheId) (name : FeatureName) :
    Holds scope (lookUp settling id name) := by
  unfold lookUp
  match name.sought with
  | .error e => exact .throw _
  | .ok none => exact .pure false
  | .ok (some key) =>
    refine (holds_look fun h => (h.cache id).find? key).bind fun e => ?_
    match e with
    | none => exact .pure false
    | some (.resolved b) => exact .pure b
    | some (.pending p) => exact settled key p

/-- A query of a cache that is used stays within the scope, to whatever depth probes call each
other. -/
theorem holds_query (depth : Nat) (used : id ∈ scope.used) (name : FeatureName) :
    Holds scope (query depth id name) := by
  induction depth generalizing id name with
  | zero => exact holds_lookUp (fun _ _ => .throw _) id name
  | succ depth ih =>
    refine holds_lookUp (fun key p => ?_) id name
    exact holds_settle (fun _ used => ih used) (fun _ used => holds_enter used) used key p

/-! ### Numbers -/

/-- A host whose caches have numbers below the next one and whose workspace is one of them. -/
structure Numbered (h : Host) : Prop where
  below : ∀ id ∈ h.caches.keys, id.index < h.caches.size
  workspace : ∀ id, h.workspace = some id → id ∈ h.caches.keys

end Host

/-- The scope of host code that is given a cache. -/
def Scope.of {h : Host} (numbered : h.Numbered) (id : CacheId) (known : id ∈ h.caches.keys) :
    Scope where
  ids := h.caches.keys
  used := id :: h.workspace.toList
  workspace := h.workspace
  cache := h.cache
  used_subset := by
    intro other mem
    rcases List.mem_cons.mp mem with rfl | mem
    · exact known
    · exact numbered.workspace other (Option.mem_toList.mp mem)
  workspace_used other named := List.mem_cons_of_mem _ (Option.mem_toList.mpr named)

/-- A host is within the scope of each of its caches. -/
theorem Host.within_of {h : Host} (numbered : h.Numbered) (id : CacheId)
    (known : id ∈ h.caches.keys) : h.Within (.of numbered id known) h :=
  ⟨rfl, rfl, rfl, fun _ _ => rfl⟩

end FeatureChoice
