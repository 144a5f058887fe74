import FeatureChoice.Selection.Evaluate
/-!
Queries and registrations. The first query of a feature runs its probe and stores the truth of the
answer; later queries read it. While a probe runs it may query, register and select on the
workspace, so a query is given a depth to which probes may call each other.

Main statements: a query of a missing or resolved feature changes nothing (`query_of_missing`,
`query_of_resolved`), and what a query of a pending feature does is to settle it
(`query_of_pending`).
-/

namespace FeatureChoice

def cacheLogger : String := Log.moduleLogger "features.cache"

namespace Host

def theWorkspace : Run Host CacheId := do
  match ← look (·.workspace) with
  | some id => return id
  | none => Run.fail (.unknownCache workspaceName)

def acted (label : String) (action : Action) (result : Value) : Run Host Unit :=
  change (·.note (.acted label action result))

/-- Register an offer for a feature, without running anything. -/
def enter (id : CacheId) (name : FeatureName) (o : Offer) (force : Bool) : Run Host Unit := do
  match name.key with
  | .error e => Run.fail (.ofNoKey e)
  | .ok key =>
    let c ← look (·.cache id)
    if c.entries.contains key && !force then
      say cacheLogger s!"feature {key.display} already registered, keeping first"
    change (·.setCache id (c.offer key o force))

def readUnder (read : Cache → FeatureName → Except NoKey Bool) (id : CacheId) (name : FeatureName) :
    Run Host Bool := do
  match read (← look (·.cache id)) name with
  | .ok b => return b
  | .error e => Run.fail (.ofNoKey e)

def see (element : Option ElementId) : View → Run Host Value
  | .markup => do
    match element with
    | none => Run.fail (.absent "inner_html")
    | some e => look fun h => .text (h.element e).markup
  | .children => do
    match element with
    | none => Run.fail (.absent "children")
    | some e => look fun h => .list (h.element e).children
  | .contains name => do return .bool (← readUnder Cache.contains (← theWorkspace) name)
  | .isPending name => do return .bool (← readUnder Cache.isPending (← theWorkspace) name)
  | .snapshot => do
    let id ← theWorkspace
    look fun h => .map <| (h.cache id).snapshot.entries.map fun (key, b) =>
      (key.toName.toValue, b.elim .none .bool)
  | .ambient name => look fun h => (h.ambient.get? name).getD .none

def setVariable (name : String) (value : Value) : Run Host Unit :=
  change fun h => { h with ambient := h.ambient.insert name value }

def changeElement (e : ElementId) (f : Element → Element) : Run Host Unit :=
  change fun h => h.setElement e (f (h.element e))

/-- Empty an element, or the element of a cache's context, and tell which one it was. -/
def resetElement (id : CacheId) (element : Option ElementId) : Run Host (Option ElementId) := do
  let target := element <|> (← look (·.cache id)).context.element
  if let some e := target then changeElement e (·.setMarkup "")
  return target

end Host

/-- How host code gets at the features of caches: what answers its queries and what registers for
it. -/
structure Access (σ : Type) where
  ask : CacheId → FeatureName → Run σ Bool
  enter : CacheId → FeatureName → Offer → Bool → Run σ Unit

section Scripts

variable {σ : Type} [Hosted σ]

namespace Access

/-- Register an offer for a feature and, if asked for, query it at once. -/
def register (via : Access σ) (id : CacheId) (name : FeatureName) (o : Offer)
    (now force : Bool) : Run σ (Option Bool) := do
  via.enter id name o force
  if now then some <$> via.ask id name else return none

def select (via : Access σ) (id : CacheId) (expression : String) : Run σ Selection :=
  selectBy (via.ask id) expression

/-- Evaluate an expression on a cache, if there is one; without a cache no guard can be asked. -/
def selectOn (via : Access σ) (cache : Option CacheId) (expression : String) : Run σ Selection :=
  match cache with
  | some id => via.select id expression
  | none => selectBy (fun _ => Run.fail (.absent "query")) expression

end Access

open Host in
/-- Run a script: `label` is the probe's and `element` the element of its context. -/
def Script.run (via : Access σ) (label : String) (element : Option ElementId) :
    Script → Run σ Value
  | .finish answer => return answer
  | .fail kind message => Run.fail (.raised kind message)
  | .look view next => do
    let seen ← (see element view).onHost
    (next seen).run via label element
  | .assign name value next => do
    (setVariable name value).onHost
    next.run via label element
  | .query name next => do
    let b ← via.ask (← theWorkspace.onHost) name
    (acted label .query (.bool b)).onHost
    (next b).run via label element
  | .register name value force next => do
    via.enter (← theWorkspace.onHost) name (.value value) force
    (acted label .register .none).onHost
    next.run via label element
  | .registerProbe name inner title body force next => do
    via.enter (← theWorkspace.onHost) name (.probe ⟨inner, title, body⟩) force
    (acted label .register .none).onHost
    next.run via label element
  | .setMarkup markup next => do
    match element with
    | none => Run.fail (.absent "inner_html")
    | some e =>
      (changeElement e (·.setMarkup markup)).onHost
      (acted label .markup (.text markup)).onHost
      next.run via label element
  | .append child next => do
    match element with
    | none => Run.fail (.absent "append_child")
    | some e =>
      (changeElement e (·.append child)).onHost
      (acted label .append child).onHost
      next.run via label element
  | .reset next => do
    let emptied ← (resetElement (← theWorkspace.onHost) element).onHost
    let same : Bool := emptied = element
    (acted label .reset (.bool same)).onHost
    (next same).run via label element
  | .select expression next => do
    let s ← via.select (← theWorkspace.onHost) expression
    (acted label .select (s.identifier.elim .none .text)).onHost
    (next s.identifier).run via label element
  | .attempt first next => do
    let result ← (first.run via label element).attempt
    (next result).run via label element

namespace Host

/-- Look a feature up; `settle` is what to do with a pending probe. -/
def lookUp (settle : Key → Probe → Run σ Bool) (id : CacheId) (name : FeatureName) :
    Run σ Bool := do
  match name.sought with
  | .error e => Run.fail (.ofNoKey e)
  | .ok none => return false
  | .ok (some key) =>
    match ← (look fun h => (h.cache id).find? key).onHost with
    | none => return false
    | some (.resolved b) => return b
    | some (.pending p) => settle key p

/-- Run a probe in the context of a cache; what counts is the truth of its answer. -/
def invoke (via : Access σ) (id : CacheId) (p : Probe) : Run σ Bool := do
  let context ← (look fun h => (h.cache id).context).onHost
  (change fun h => h.note (h.invocation p.label context)).onHost
  let answer ← (p.body context).run via p.label context.element
  return answer.truth

def keep (id : CacheId) (key : Key) (b : Bool) : Run Host Unit := do
  change fun h => h.setCache id ((h.cache id).store key (.resolved b))
  say cacheLogger s!"probe {key.display} -> {Value.displayBool b}"

/-- Run the probe of a feature and store the truth of its answer. -/
def settle (via : Access σ) (id : CacheId) (key : Key) (p : Probe) : Run σ Bool := do
  let b ← invoke via id p
  (keep id key b).onHost
  return b

end Host

end Scripts

namespace Host

/-- The truth of a feature, with probes calling each other to a depth. -/
def query : Nat → CacheId → FeatureName → Run Host Bool
  | 0, id, name => lookUp (fun _ _ => throw .unfinished) id name
  | depth + 1, id, name => lookUp (settle ⟨query depth, enter⟩ id) id name

/-- The access of host code to the features of a host, with probes calling each other to a
depth. -/
def access (depth : Nat) : Access Host := ⟨query depth, enter⟩

def accessFrom {σ : Type} [Hosted σ] (depth : Nat) : Access σ where
  ask id name := (query depth id name).onHost
  enter id name o force := (enter id name o force).onHost

/-- Register an offer for a feature and, if asked for, query it at once. -/
def register (depth : Nat) (id : CacheId) (name : FeatureName) (o : Offer) (now force : Bool) :
    Run Host (Option Bool) :=
  (access depth).register id name o now force

def select (depth : Nat) (id : CacheId) (expression : String) : Run Host Selection :=
  (access depth).select id expression

def walk (depth : Nat) (id : CacheId) (t : Expression.Term) : Run Deciding (Option String) :=
  walkBy (query depth id) t

/-! ### Laws of looking -/

theorem outcome_theWorkspace (h : Host) :
    theWorkspace.outcome h =
      (match h.workspace with
        | some id => .ok id
        | none => .error (.fault (.unknownCache workspaceName)), h) := by
  rw [theWorkspace, Run.outcome_bind_of_ok (outcome_look _ h)]
  cases h.workspace <;> rfl

/-- Reading something off a cache changes nothing. -/
theorem outcome_readUnder (read : Cache → FeatureName → Except NoKey Bool) (id : CacheId)
    (name : FeatureName) (h : Host) :
    (readUnder read id name).outcome h =
      ((read (h.cache id) name).mapError fun e => .fault (.ofNoKey e), h) := by
  rw [readUnder, Run.outcome_bind_of_ok (outcome_look _ h)]
  cases read (h.cache id) name <;> rfl

/-- Looking changes nothing. -/
theorem unchanged_see (element : Option ElementId) (view : View) (h : Host) :
    ((see element view).outcome h).2 = h := by
  have workspace := outcome_theWorkspace h
  cases view with
  | markup => cases element <;> rfl
  | children => cases element <;> rfl
  | contains name =>
    cases named : h.workspace <;> rw [named] at workspace
    · rw [see, Run.outcome_bind_of_error workspace]
    · rw [see, Run.outcome_bind_of_ok workspace, Run.outcome_bind, outcome_readUnder]
      cases (h.cache _).contains name <;> rfl
  | isPending name =>
    cases named : h.workspace <;> rw [named] at workspace
    · rw [see, Run.outcome_bind_of_error workspace]
    · rw [see, Run.outcome_bind_of_ok workspace, Run.outcome_bind, outcome_readUnder]
      cases (h.cache _).isPending name <;> rfl
  | snapshot =>
    cases named : h.workspace <;> rw [named] at workspace
    · rw [see, Run.outcome_bind_of_error workspace]
    · rw [see, Run.outcome_bind_of_ok workspace, outcome_look]
  | ambient name => rfl

/-- Nothing is registered under a name without a key. -/
theorem outcome_enter_of_error {name : FeatureName} {e : NoKey} (unnamed : name.key = .error e)
    (id : CacheId) (o : Offer) (force : Bool) (h : Host) :
    (enter id name o force).outcome h = (.error (.fault (.ofNoKey e)), h) := by
  rw [enter, unnamed]
  rfl

/-- Without a key a registration fails before anything is changed. -/
theorem outcome_register_of_error {name : FeatureName} {e : NoKey} (unnamed : name.key = .error e)
    (depth : Nat) (id : CacheId) (o : Offer) (now force : Bool) (h : Host) :
    (register depth id name o now force).outcome h = (.error (.fault (.ofNoKey e)), h) :=
  Run.outcome_bind_of_error (outcome_enter_of_error unnamed id o force h) _

/-- A registration is made first, and then the feature is queried if that is asked for. -/
theorem outcome_register {id : CacheId} {name : FeatureName} {o : Offer} {force : Bool} {h k : Host}
    (entered : (enter id name o force).outcome h = (.ok (), k)) (depth : Nat) (now : Bool) :
    (register depth id name o now force).outcome h =
      if now then (some <$> query depth id name).outcome k else (.ok none, k) := by
  have went := Run.outcome_bind_of_ok entered fun _ =>
    if now then some <$> query depth id name else pure none
  cases now with
  | false => exact went
  | true => exact went

/-! ### Laws of queries -/

/-- Settling a feature is to run its probe and to store what it found out, unless it stops. -/
theorem outcome_settle {σ : Type} [Hosted σ] (via : Access σ) (id : CacheId) (key : Key)
    (p : Probe) (s : σ) :
    (settle via id key p).outcome s =
      match (invoke via id p).outcome s with
      | (.ok b, s') =>
        (.ok b, Hosted.withHost ((keep id key b).outcome (Hosted.host s')).2 s')
      | (.error stop, s') => (.error stop, s') := by
  rw [settle, Run.outcome_bind]
  obtain ⟨result, s'⟩ := (invoke via id p).outcome s
  cases result <;> rfl

/-- A query sees the entry of the feature and nothing else. -/
theorem outcome_lookUp {σ : Type} [Hosted σ] [LawfulHosted σ]
    (settling : Key → Probe → Run σ Bool) (s : σ) (id : CacheId) (name : FeatureName) :
    (lookUp settling id name).outcome s =
      match name.sought with
      | .error e => (.error (.fault (.ofNoKey e)), s)
      | .ok none => (.ok false, s)
      | .ok (some key) =>
        match ((Hosted.host s).cache id).find? key with
        | none => (.ok false, s)
        | some (.resolved b) => (.ok b, s)
        | some (.pending p) => (settling key p).outcome s := by
  unfold lookUp
  match name.sought with
  | .error e => rfl
  | .ok none => rfl
  | .ok (some key) =>
    simp only [Run.outcome_bind, Run.outcome_onHost, outcome_look, LawfulHosted.withHost_host]
    cases ((Hosted.host s).cache id).find? key with
    | none => rfl
    | some e => cases e <;> rfl

def unnamed (name : FeatureName) : Except Stop Bool :=
  match name.sought with
  | .error e => .error (.fault (.ofNoKey e))
  | .ok _ => .ok false

section LookUp

variable {σ : Type} [Hosted σ] [LawfulHosted σ] (settling : Key → Probe → Run σ Bool) (s : σ)
  (id : CacheId) {name : FeatureName}

/-- A query under a name without a key changes nothing. -/
theorem outcome_lookUp_of_unnamed (without : name.key? = none) :
    (lookUp settling id name).outcome s = (unnamed name, s) := by
  rcases name.sought_of_unnamed without with sought | sought
  · simp [outcome_lookUp, unnamed, sought]
  · simp [outcome_lookUp, unnamed, sought]

theorem outcome_lookUp_of_key? {key : Key} (named : name.key? = some key) :
    (lookUp settling id name).outcome s =
      match ((Hosted.host s).cache id).find? key with
      | none => (.ok false, s)
      | some (.resolved b) => (.ok b, s)
      | some (.pending p) => (settling key p).outcome s := by
  rw [outcome_lookUp, name.sought_of_key? named]

end LookUp

/-- To whatever depth, a query looks its feature up. -/
theorem query_eq_lookUp (depth : Nat) (id : CacheId) (name : FeatureName) :
    ∃ settling, query depth id name = lookUp settling id name := by
  cases depth with
  | zero => exact ⟨_, rfl⟩
  | succ depth => exact ⟨_, rfl⟩

/-- A query under a name without a key calls no probe. -/
theorem query_of_unnamed {name : FeatureName} (without : name.key? = none) (h : Host)
    (id : CacheId) (depth : Nat) : (query depth id name).outcome h = (unnamed name, h) := by
  obtain ⟨settling, eq⟩ := query_eq_lookUp depth id name
  rw [eq, outcome_lookUp_of_unnamed _ _ _ without]

/-- A feature that is not there is false. -/
theorem query_of_missing {h : Host} {id : CacheId} {name : FeatureName} {key : Key}
    (named : name.key? = some key) (missing : (h.cache id).find? key = none) (depth : Nat) :
    (query depth id name).outcome h = (.ok false, h) := by
  obtain ⟨settling, eq⟩ := query_eq_lookUp depth id name
  simp [eq, outcome_lookUp_of_key? _ _ _ named, Hosted.host, missing]

/-- A resolved feature answers at once. -/
theorem query_of_resolved {h : Host} {id : CacheId} {name : FeatureName} {key : Key} {b : Bool}
    (named : name.key? = some key) (resolved : (h.cache id).find? key = some (.resolved b))
    (depth : Nat) : (query depth id name).outcome h = (.ok b, h) := by
  obtain ⟨settling, eq⟩ := query_eq_lookUp depth id name
  simp [eq, outcome_lookUp_of_key? _ _ _ named, Hosted.host, resolved]

/-- A pending feature is settled by its probe. -/
theorem query_of_pending {h : Host} {id : CacheId} {name : FeatureName} {key : Key} {p : Probe}
    (named : name.key? = some key) (pending : (h.cache id).find? key = some (.pending p))
    (depth : Nat) :
    (query (depth + 1) id name).outcome h = (settle (access depth) id key p).outcome h := by
  simp [query, access, outcome_lookUp_of_key? _ _ _ named, Hosted.host, pending]

end Host

end FeatureChoice
