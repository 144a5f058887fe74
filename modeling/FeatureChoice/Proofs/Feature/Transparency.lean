import FeatureChoice.Proofs.Feature.Laziness
/-!
Laziness is transparent. A plan is host code that uses one cache, step by step: what it does next may
depend on all that it has found out, and so may its continuations, which are plans themselves. If
probes do nothing but return a value, then a plan that queries features as it registers them, or
that has truths in place of probes, finds out the same.

* `Plan.run`: carrying a plan out, with everything that is found in order and the host as it is then.
* `Plan.Lazier`: the changes to a plan in question.
* `Plan.coupled_run`: such plans stay together, step by step and continuation by continuation.
* `Plan.laziness_transparent`: from the making of the cache on they find the same, and their
  snapshots differ only where a probe is pending.
-/

namespace FeatureChoice

/-- What host code may want to know of a cache. -/
inductive Inquiry where
  /-- The truth of a feature, by the query operation or by calling the cache. -/
  | query (name : FeatureName)
  | contains (name : FeatureName)
  | names
  | size
  | select (expression : String)

/-- What it finds out. -/
inductive Answer where
  | truth (b : Bool)
  | names (keys : List Key)
  | size (n : Nat)
  | selection (s : Selection)

/-- Host code that uses a cache. A fault that ends one of its steps is a result like others. -/
inductive Plan where
  | finish
  | fail (f : Fault)
  | inquire (q : Inquiry) (next : Except Fault Answer → Plan)
  | register (name : FeatureName) (o : Offer) (now force : Bool)
    (next : Except Fault (Option Bool) → Plan)
  /-- Resolve an expression with these continuations. -/
  | resolve (expression : String) (onResolved : String → Plan) (onUnresolved : Plan)
    (next : Except Fault Selection → Plan)
  /-- Resolve an expression with a request for a resource; `values` says what the request is
  answered with, if it is answered. -/
  | load (expression : String) (require : List String → Plan)
    (values : List String → Option (List String)) (loaded : List String → Plan)
    (next : Except Fault Selection → Plan)

/-- A call of a continuation. -/
inductive Continuation where
  | resolved (name : String)
  | unresolved
  | required (names : List String)
  | loaded (values : List String)

/-- What is found in the course of a plan. -/
inductive Finding where
  | answered (result : Except Fault Answer)
  | registered (result : Except Fault (Option Bool))
  | continued (c : Continuation)

/-- A finding with the host as it is right then. -/
structure Observation where
  finding : Finding
  host : Host

/-- A host with what was found so far. -/
abbrev Observed := Host × List Observation

def observe (f : Finding) : Run Observed Unit := modify fun s => (s.1, s.2 ++ [⟨f, s.1⟩])

def Inquiry.run (depth : Nat) (id : CacheId) : Inquiry → Run Host Answer
  | .query name => .truth <$> Host.query depth id name
  | .contains name => .truth <$> Host.readUnder Cache.contains id name
  | .names => Host.look fun h => .names (h.cache id).names
  | .size => Host.look fun h => .size (h.cache id).size
  | .select expression => .selection <$> Host.select depth id expression

/-- Carry a plan out on a cache. -/
def Plan.run (depth : Nat) (id : CacheId) : Plan → Run Observed Unit
  | .finish => pure ()
  | .fail f => Run.fail f
  | .inquire q next => do
    let result ← (q.run depth id).onHost.attempt
    observe (.answered result)
    (next result).run depth id
  | .register name o now force next => do
    let result ← (Host.register depth id name o now force).onHost.attempt
    observe (.registered result)
    (next result).run depth id
  | .resolve expression onResolved onUnresolved next => do
    let resolved (name : String) : Run Observed Unit := do
      observe (.continued (.resolved name))
      (onResolved name).run depth id
    let unresolved : Run Observed Unit := do
      observe (.continued .unresolved)
      onUnresolved.run depth id
    let result ← (FeatureChoice.resolve depth (some id) expression resolved unresolved).attempt
    observe (.answered (result.map .selection))
    (next result).run depth id
  | .load expression require values loaded next => do
    let required (names : List String) (k : List String → Run Observed Unit) :
        Run Observed Unit := do
      observe (.continued (.required names))
      (require names).run depth id
      match values names with
      | some values => k values
      | none => pure ()
    let delivered (values : List String) : Run Observed Unit := do
      observe (.continued (.loaded values))
      (loaded values).run depth id
    let result ← (FeatureChoice.load depth id expression required delivered).attempt
    observe (.answered (result.map .selection))
    (next result).run depth id

/-- Carry a plan out on a cache that is made for it from a seed. -/
def Plan.runOnNew (depth : Nat) (context : Context) (seed : List (Key × Offer)) (plan : Plan)
    (h : Host) : Except Stop Unit × Observed :=
  let (id, made) := h.addCache ((Cache.new context).sow seed)
  (plan.run depth id).outcome (made, [])

/-! ### Lazier plans -/

/-- A plan beside one in which some registrations query their features at once, and some probes are
replaced by the truth of what they return. -/
inductive Plan.Lazier (context : Context) : Plan → Plan → Prop where
  | finish : Lazier context .finish .finish
  | fail (f : Fault) : Lazier context (.fail f) (.fail f)
  | inquire (q : Inquiry) {next next' : Except Fault Answer → Plan}
    (goesOn : ∀ result, Lazier context (next result) (next' result)) :
    Lazier context (.inquire q next) (.inquire q next')
  | register (name : FeatureName) {o o' : Offer} (offers : o.Lazier context o') (now force : Bool)
    {next next' : Except Fault (Option Bool) → Plan}
    (goesOn : ∀ result, Lazier context (next result) (next' result)) :
    Lazier context (.register name o now force next) (.register name o' now force next')
  | hastened (name : FeatureName) {o o' : Offer} (offers : o.Lazier context o') (force : Bool)
    {next next' : Except Fault (Option Bool) → Plan}
    (answered : ∀ b, Lazier context (next (.ok none)) (next' (.ok (some b))))
    (faulted : ∀ f, Lazier context (next (.error f)) (next' (.error f))) :
    Lazier context (.register name o false force next) (.register name o' true force next')
  | resolve (expression : String) {onResolved onResolved' : String → Plan}
    {onUnresolved onUnresolved' : Plan} {next next' : Except Fault Selection → Plan}
    (resolved : ∀ name, Lazier context (onResolved name) (onResolved' name))
    (unresolved : Lazier context onUnresolved onUnresolved')
    (goesOn : ∀ result, Lazier context (next result) (next' result)) :
    Lazier context (.resolve expression onResolved onUnresolved next)
      (.resolve expression onResolved' onUnresolved' next')
  | load (expression : String) {require require' : List String → Plan}
    (values : List String → Option (List String)) {loaded loaded' : List String → Plan}
    {next next' : Except Fault Selection → Plan}
    (required : ∀ names, Lazier context (require names) (require' names))
    (delivered : ∀ values, Lazier context (loaded values) (loaded' values))
    (goesOn : ∀ result, Lazier context (next result) (next' result)) :
    Lazier context (.load expression require values loaded next)
      (.load expression require' values loaded' next')

/-! ### What they find -/

/-- Findings are the same, but a registration that queries its feature at once has an answer. -/
inductive Finding.Agrees : Finding → Finding → Prop where
  | same (f : Finding) : Agrees f f
  | hastened (b : Bool) : Agrees (.registered (.ok none)) (.registered (.ok (some b)))

/-- Snapshots with the same features in the same order, that differ at most where a probe is pending
in the first and the second has the truth of what it returns. -/
structure Cache.SnapshotsAgree (context : Context) (c c' : Cache) : Prop where
  keys : c'.snapshot.keys = c.snapshot.keys
  values : ∀ key, c'.snapshot.get? key = c.snapshot.get? key ∨
    ∃ p v, c.find? key = some (.pending p) ∧ p.Returns context v ∧
      c.snapshot.get? key = some none ∧ c'.snapshot.get? key = some (some v.truth)

/-- Observations whose findings and whose snapshots of the cache agree. -/
structure Observation.Agrees (context : Context) (id : CacheId) (a a' : Observation) : Prop where
  findings : a.finding.Agrees a'.finding
  snapshots : (a.host.cache id).SnapshotsAgree context (a'.host.cache id)

/-- Runs of plans that end together, with observations that agree one by one. -/
structure Plan.FindSame (context : Context) (id : CacheId)
    (found found' : Except Stop Unit × Observed) :
    Prop where
  ends : SameEnd Stop.IsFault Eq found.1 found'.1
  observations : List.Forall₂ (Observation.Agrees context id) found.2.2 found'.2.2

variable {context : Context} {id : CacheId}

/-- Snapshots of a lazier cache agree with those of the other one. -/
theorem Cache.Lazier.snapshotsAgree {c c' : Cache} (lazier : c.Lazier context c') :
    c.SnapshotsAgree context c' where
  keys := by
    rw [snapshot, snapshot, OrderedMap.keys_mapValues, OrderedMap.keys_mapValues]
    exact lazier.names
  values key := by
    have entries := lazier.entries key
    rw [get?_snapshot, get?_snapshot]
    generalize c.find? key = entry at entries ⊢
    generalize c'.find? key = entry' at entries ⊢
    cases entries with
    | none => exact .inl rfl
    | some entries =>
      cases entries with
      | resolved b => exact .inl rfl
      | pending returns => exact .inl rfl
      | settled returns => exact .inr ⟨_, _, rfl, returns, rfl, rfl⟩

/-- Hosts with a lazier cache, and observations so far that agree. -/
def Observed.Lazier (context : Context) (id : CacheId) (s s' : Observed) : Prop :=
  Host.Lazier context id s.1 s'.1 ∧ List.Forall₂ (Observation.Agrees context id) s.2 s'.2

/-! ### Steps -/

namespace Observed

variable {α β : Type} {Q : α → β → Prop}

/-- What is coupled on hosts is coupled for observers of them. -/
theorem coupled_onHost {x : Run Host α} {y : Run Host β}
    (coupled : Run.Coupled Stop.IsFault (Host.Lazier context id) Q x y) :
    Run.Coupled Stop.IsFault (Lazier context id) Q x.onHost y.onHost := by
  rintro ⟨h, seen⟩ ⟨h', seen'⟩ ⟨lazier, agree⟩
  obtain ⟨same, left⟩ := coupled h h' lazier
  exact ⟨same, left, agree⟩

/-- What agrees can be observed in turn. -/
theorem coupled_observe {f f' : Finding} (agrees : f.Agrees f') :
    Run.Coupled Stop.IsFault (Lazier context id) Eq (observe f) (observe f') := by
  refine Run.Coupled.modify ?_
  rintro ⟨h, seen⟩ ⟨h', seen'⟩ ⟨lazier, agree⟩
  have last : Observation.Agrees context id ⟨f, h⟩ ⟨f', h'⟩ := ⟨agrees, lazier.snapshotsAgree⟩
  exact ⟨lazier, List.rel_append agree (.cons last .nil)⟩

/-- What changes no cache keeps observers lazier. -/
theorem coupled_aside (f : Host → Host) (keeps : ∀ h id, (f h).cache id = h.cache id) :
    Run.Coupled Stop.IsFault (Lazier context id) Eq (Host.change f).onHost (Host.change f).onHost :=
  coupled_onHost (Host.coupled_aside f keeps)

/-- Inquiries find the same on a lazier cache. -/
theorem coupled_inquiry (depth : Nat) (q : Inquiry) :
    Run.Coupled Stop.IsFault (Host.Lazier context id) Eq (q.run (depth + 1) id)
      (q.run (depth + 1) id) := by
  cases q with
  | query name => exact (Host.coupled_query depth name).map _
  | contains name =>
    intro h h' lazier
    have same : (h'.cache id).contains name = (h.cache id).contains name := by
      simp only [Cache.contains, funext lazier.contains_eq]
    rw [Inquiry.run, Run.outcome_map, Run.outcome_map, Host.outcome_readUnder,
      Host.outcome_readUnder, same]
    cases (h.cache id).contains name with
    | ok b => exact ⟨.answers rfl, lazier⟩
    | error e => exact ⟨.stopped ⟨_, rfl⟩, lazier⟩
  | names =>
    intro h h' lazier
    exact ⟨.answers (congrArg Answer.names lazier.names.symm), lazier⟩
  | size =>
    intro h h' lazier
    exact ⟨.answers (congrArg Answer.size lazier.size_eq.symm), lazier⟩
  | select expression =>
    exact (Run.Coupled.selectBy Host.coupled_aside (Host.coupled_query depth) expression).map _

/-- Resolving signals the same on a lazier cache, if its continuations do. -/
theorem coupled_resolve (depth : Nat) (expression : String)
    {resolved resolved' : String → Run Observed Unit} {unresolved unresolved' : Run Observed Unit}
    (onResolved : ∀ name,
      Run.Coupled Stop.IsFault (Lazier context id) Eq (resolved name) (resolved' name))
    (onUnresolved : Run.Coupled Stop.IsFault (Lazier context id) Eq unresolved unresolved') :
    Run.Coupled Stop.IsFault (Lazier context id) Eq
      (resolve (depth + 1) (some id) expression resolved unresolved)
      (resolve (depth + 1) (some id) expression resolved' unresolved') :=
  Run.Coupled.resolve coupled_aside (fun name => coupled_onHost (Host.coupled_query depth name))
    expression onResolved onUnresolved

end Observed

/-! ### Plans -/

namespace Plan

open Observed

/-- Plans one of which is lazier than the other stay together. -/
theorem coupled_run {plan plan' : Plan} (lazier : plan.Lazier context plan') (depth : Nat) :
    Run.Coupled Stop.IsFault (Observed.Lazier context id) Eq (plan.run (depth + 1) id)
      (plan'.run (depth + 1) id) := by
  induction lazier with
  | finish => exact .pure rfl
  | fail f => exact .throw ⟨f, rfl⟩
  | inquire q _ ih =>
    refine (coupled_onHost (coupled_inquiry depth q)).attempt_eq.bind_eq fun result => ?_
    exact (coupled_observe (.same _)).bind_eq fun _ => ih result
  | register name offers now force _ ih =>
    refine (coupled_onHost (Host.coupled_register offers depth name now force)).attempt_eq.bind_eq
      fun result => ?_
    exact (coupled_observe (.same _)).bind_eq fun _ => ih result
  | hastened name offers force _ _ ihAnswered ihFaulted =>
    refine (coupled_onHost (Host.coupled_hastened offers depth name force)).attempt.bind
      fun result result' same => ?_
    cases same with
    | @answers a a' related =>
      obtain ⟨rfl, answered⟩ := related
      obtain ⟨b, rfl⟩ := Option.isSome_iff_exists.mp answered
      exact (coupled_observe (.hastened b)).bind_eq fun _ => ihAnswered b
    | fault f => exact (coupled_observe (.same _)).bind_eq fun _ => ihFaulted f
  | resolve expression _ _ _ ihResolved ihUnresolved ihNext =>
    have resolves := coupled_resolve depth expression
      (fun name => (coupled_observe (.same (.continued (.resolved name)))).bind_eq fun _ =>
        ihResolved name)
      ((coupled_observe (.same (.continued .unresolved))).bind_eq fun _ => ihUnresolved)
    refine resolves.attempt_eq.bind_eq fun result => ?_
    exact (coupled_observe (.same _)).bind_eq fun _ => ihNext result
  | load expression values _ _ _ ihRequired ihDelivered ihNext =>
    have delivers := fun values =>
      (coupled_observe (.same (.continued (.loaded values)))).bind_eq fun _ => ihDelivered values
    refine (coupled_resolve depth expression (fun name => ?_)
      (delivers [])).attempt_eq.bind_eq fun result => ?_
    · refine (coupled_observe (.same _)).bind_eq fun _ => (ihRequired [name]).bind_eq fun _ => ?_
      cases values [name] with
      | none => exact .pure rfl
      | some answer => exact delivers answer
    · exact (coupled_observe (.same _)).bind_eq fun _ => ihNext result

/-- Laziness is transparent. However a plan goes on, and whatever its continuations do, it makes no
difference to register a feature and query it at once, or to give the truth of what a probe returns
in place of the probe: the two runs end together, every query, membership, order of the features,
selection and continuation is the same, and at every step the snapshots of the two caches have the
same features in the same order and differ at most where a probe is pending in the first. -/
theorem laziness_transparent {seed seed' : List (Key × Offer)} {plan plan' : Plan}
    (seeds : Seed.Lazier context seed seed') (plans : plan.Lazier context plan') (depth : Nat)
    (h : Host) :
    FindSame context ⟨h.caches.size⟩ (plan.runOnNew (depth + 1) context seed h)
      (plan'.runOnNew (depth + 1) context seed' h) := by
  have caches : Host.Lazier context ⟨h.caches.size⟩
      (h.addCache ((Cache.new context).sow seed)).2
      (h.addCache ((Cache.new context).sow seed')).2 := by
    have sown := (Cache.Lazier.new context).sow seeds
    simpa [Host.Lazier, Host.addCache] using sown
  obtain ⟨ends, _, agree⟩ := coupled_run plans depth
    ((h.addCache ((Cache.new context).sow seed)).2, [])
    ((h.addCache ((Cache.new context).sow seed')).2, []) ⟨caches, .nil⟩
  exact ⟨ends, agree⟩

/-- Resolve an expression on `dom` and `canvas`, and list the features if that selects something. -/
def domPlan : Plan :=
  .resolve "dom?canvas?a:b:c" (fun _ => .inquire .names fun _ => .finish) .finish fun _ => .finish

/-- Register a probe for `canvas` and a truth for `dom`, which has an entry already; both are
queried at once or not. -/
def canvasPlan (now : Bool) : Plan :=
  .register (.text "canvas") (.probe ⟨"canvas", "canvas", fun _ => .finish (.text "")⟩) now false
    fun _ => .register (.text "dom") (.value (.bool false)) now false fun _ => domPlan

/-- A pending probe and its truth cannot be told apart by what is found. -/
theorem laziness_transparent_canvas :
    let dom : Probe := ⟨"dom", "dom", fun _ => .finish (.int 1)⟩
    Seed.Lazier .plain [(.text "dom", .probe dom)] [(.text "dom", .value (.bool true))] ∧
      (canvasPlan false).Lazier .plain (canvasPlan true) ∧
      FindSame .plain ⟨0⟩
        ((canvasPlan false).runOnNew 1 .plain [(.text "dom", .probe dom)] .empty)
        ((canvasPlan true).runOnNew 1 .plain [(.text "dom", .value (.bool true))] .empty) := by
  intro dom
  have returns : dom.Returns .plain (.int 1) := fun h => ⟨h.ambient, rfl⟩
  have seeds : Seed.Lazier .plain [(.text "dom", .probe dom)]
      [(.text "dom", .value (.bool true))] := .cons ⟨rfl, .settled returns⟩ .nil
  have resolves : domPlan.Lazier .plain domPlan :=
    .resolve _ (fun _ => .inquire .names fun _ => .finish) .finish fun _ => .finish
  have registers : Plan.Lazier .plain
      (.register (.text "dom") (.value (.bool false)) false false fun _ => domPlan)
      (.register (.text "dom") (.value (.bool false)) true false fun _ => domPlan) :=
    .hastened (.text "dom") (.value (.bool false)) false (fun _ => resolves) fun _ => resolves
  have returned : ∀ context, (⟨"canvas", "canvas", fun _ => .finish (.text "")⟩ : Probe).Returns
      context (.text "") := fun _ h => ⟨h.ambient, rfl⟩
  have plans : (canvasPlan false).Lazier .plain (canvasPlan true) :=
    .hastened (.text "canvas") (.probe (returned .plain)) false (fun _ => registers)
      fun _ => registers
  exact ⟨seeds, plans, laziness_transparent seeds plans 0 .empty⟩

end Plan

end FeatureChoice
