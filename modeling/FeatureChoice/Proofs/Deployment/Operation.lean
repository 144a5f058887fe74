import FeatureChoice.Deployment.SharedCache
import FeatureChoice.Proofs.Feature.History
import FeatureChoice.Proofs.Feature.Scope
import FeatureChoice.Proofs.Run.Lifting
/-!
Operations on caches in a process. An operation is given a cache, or works on the process-wide one;
either way, once its cache is found, it is host code that uses this cache.

* `Operation.run`, `Operation.on`: an operation in a process, and on a cache of a host
  (`Operation.run_eq`).
* `Operation.within_on`: an operation uses its cache and the workspace.
* `Operation.history`, `Operation.cache_of_other`: what happens meanwhile, and the caches that stay
  as they are.
-/

namespace FeatureChoice

instance : LawfulHosted Deployment := ⟨fun _ _ => rfl, fun _ => rfl, fun _ _ _ => rfl⟩

/-- What a host wants of a cache. -/
inductive Operation where
  /-- Get hold of it. -/
  | get
  | has (name : FeatureName)
  | select (expression : String)
  | load (expression : String) (require : List String → Callback)
      (answer : Option (List String)) (loaded : List String → Callback)
  /-- Make another request to it. -/
  | serve (request : Request)

/-- What an operation answers. -/
inductive Operation.Answer where
  | cache (id : CacheId)
  | truth (b : Bool)
  | selection (s : Selection)
  | done

section Scripts

variable {σ τ : Type} [Hosted σ] [Hosted τ]

namespace Operation

/-- Request a resource, and hand the values of the answer on, if there is one. -/
def requesting (via : Access σ) (require : List String → Callback) (answer : Option (List String))
    (names : List String) (deliver : List String → Run σ Unit) : Run σ Unit := do
  (require names).run via
  match answer with
  | some values => deliver values
  | none => pure ()

/-- Carry an operation out on a cache. -/
def on (via : Access σ) (id : CacheId) : Operation → Run σ Answer
  | get => return .cache id
  | has name => .truth <$> via.ask id name
  | select expression => .selection <$> via.select id expression
  | load expression require answer loaded =>
    .selection <$> via.load id expression (requesting via require answer) fun values =>
      (loaded values).run via
  | serve request => (fun _ => .done) <$> request.run via id

open Deployment in
/-- Carry an operation out in a process, on the cache that is given or on the process-wide one. -/
def run (depth : Nat) (cache : Option CacheId) : Operation → Run Deployment Answer
  | get => .cache <$> cacheOrShared cache
  | has name =>
    match cache with
    | none => .truth <$> Deployment.has depth name
    | some id => .truth <$> (Host.query depth id name).onHost
  | select expression => .selection <$> Deployment.select depth cache expression
  | load expression require answer loaded => do
    let id ← cacheOrShared cache
    let via : Access Deployment := Host.accessFrom depth
    .selection <$> FeatureChoice.load depth id expression (requesting via require answer)
      fun values => (loaded values).run via
  | serve request => do
    let id ← cacheOrShared cache
    (fun _ => .done) <$> request.run (Host.accessFrom depth) id

end Operation

/-- An operation compares with itself. -/
theorem Comparison.Over.operation {C : Comparison σ τ} {via : Access σ} {via' : Access τ}
    (ways : C.Over via via') (id : CacheId) (op : Operation) :
    C.Rel (op.on via id) (op.on via' id) := by
  cases op with
  | get => exact C.pure _
  | has name => exact C.map (ways.ask id name) _
  | select expression => exact C.map (ways.select id expression) _
  | load expression require answer loaded =>
    refine C.map (ways.resolve id expression (fun name => ?_) (ways.callback (loaded []))) _
    refine C.bind (ways.callback (require [name])) fun _ => ?_
    cases answer with
    | none => exact C.pure _
    | some values => exact ways.callback (loaded values)
  | serve request => exact C.map (ways.request id request) _

end Scripts

/-- An operation uses the cache that it is given, besides the workspace. -/
theorem Host.holds_on {scope : Scope} {id : CacheId} (depth : Nat) (used : id ∈ scope.used)
    (op : Operation) : Run.Holds scope (op.on (access depth) id) := by
  have asked : ∀ id ∈ scope.used, ∀ name, Run.Holds scope ((access depth).ask id name) :=
    fun _ used name => holds_query depth used name
  have entered : ∀ id ∈ scope.used, ∀ name o force,
      Run.Holds scope ((access depth).enter id name o force) := fun _ used => holds_enter used
  have runs := holds_callback asked entered
  cases op with
  | get => exact .pure _
  | has name => exact (asked id used name).map _
  | select expression => exact (holds_selectBy (asked id used) expression).map _
  | load expression require answer loaded =>
    refine (holds_resolve asked used expression (fun name => ?_) (runs (loaded []))).map _
    refine (runs (require [name])).bind fun _ => ?_
    cases answer with
    | none => exact .pure _
    | some values => exact runs (loaded values)
  | serve request => exact (holds_request asked entered used request).map _

namespace Operation

/-- What happens to features while an operation is carried out. -/
def history (depth : Nat) (id : CacheId) (op : Operation) (h : Host) : List Moment :=
  ((op.on (Watched.access depth) id).outcome (h, [])).2.2

/-- What an operation leaves in the caches is what its history leads to. -/
theorem unfolds_history (depth : Nat) (id : CacheId) (op : Operation) (h : Host) :
    Unfolds h.cache [] (op.history depth id h)
      ((op.on (Host.access depth) id).outcome h).2.cache [] := by
  obtain ⟨more, went, unfolds⟩ := (Watched.over_access depth).operation id op h [] []
  have seen : op.history depth id h = more := by
    rw [history, went]
    rfl
  rwa [seen]

section Caches

variable {h : Host} (numbered : h.Numbered) {id : CacheId} (known : id ∈ h.caches.keys)

include numbered known

/-- An operation neither makes caches nor chooses another workspace, and it uses no cache but its
own and the workspace. -/
theorem within_on (depth : Nat) (op : Operation) :
    let k := ((op.on (Host.access depth) id).outcome h).2
    k.Within (.of numbered id known) k :=
  (Host.holds_on depth List.mem_cons_self op).outcome (Host.within_of numbered id known)

/-- An operation leaves every other cache as it is, unless it happens to be the workspace and code
that is run on the way acts on it. -/
theorem cache_of_other {g : CacheId} (other : g ≠ id) (depth : Nat) (op : Operation) :
    ((op.on (Host.access depth) id).outcome h).2.cache g = h.cache g ∨
      h.workspace = some g ∧ ∃ m ∈ op.history depth id h, m.event.subject.1 = g := by
  by_cases acted : ∃ m ∈ op.history depth id h, m.event.subject.1 = g
  · by_cases works : h.workspace = some g
    · exact .inr ⟨works, acted⟩
    · refine .inl ((within_on numbered known depth op).others g ?_)
      simpa [Scope.of, other] using works
  · refine .inl ((unfolds_history depth id op h).cache_of_other ?_)
    exact fun m mem same => acted ⟨m, mem, same⟩

end Caches

/-! ### In a process -/

open Deployment in
/-- An operation finds its cache, and then it is host code that uses this cache. -/
theorem run_eq (depth : Nat) (cache : Option CacheId) (op : Operation) :
    op.run depth cache = cacheOrShared cache >>= fun id =>
      (op.on (Host.access depth) id).onHost := by
  have lifted : ∀ id, (op.on (Host.access depth) id).onHost =
      op.on (Host.accessFrom depth : Access Deployment) id :=
    fun id => ((Host.over_accessFrom depth).operation id op).symm
  simp only [lifted]
  cases op with
  | get => exact (bind_pure_comp _ _).symm
  | has name => cases cache <;> simp [run, on, Deployment.has, cacheOrShared, Host.accessFrom]
  | select expression =>
    have evaluates : ∀ id, (Host.select depth id expression).onHost =
        (Host.accessFrom depth : Access Deployment).select id expression :=
      fun id => ((Host.over_accessFrom depth).select id expression).symm
    simp [run, on, Deployment.select, evaluates]
  | load expression require answer loaded => rfl
  | serve request => rfl

/-- An operation on a given cache is an affair of the host. -/
theorem run_some (depth : Nat) (id : CacheId) (op : Operation) :
    op.run depth (some id) = (op.on (Host.access depth) id).onHost := by
  rw [run_eq]
  rfl

/-- On the process-wide cache an operation is carried out as on this cache, once it is there. -/
theorem run_none (depth : Nat) (op : Operation) :
    op.run depth none = Deployment.sharedCache >>= fun id => op.run depth (some id) := by
  simp only [run_some, run_eq depth none]
  rfl

/-- An operation on a given cache does to the host what it would do without a process. -/
theorem outcome_run (depth : Nat) (id : CacheId) (op : Operation) (d : Deployment) :
    (op.run depth (some id)).outcome d =
      (((op.on (Host.access depth) id).outcome d.host).1,
        { d with host := ((op.on (Host.access depth) id).outcome d.host).2 }) := by
  rw [run_some]
  rfl

end Operation

end FeatureChoice
