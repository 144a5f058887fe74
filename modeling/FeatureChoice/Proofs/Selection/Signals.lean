import FeatureChoice.Proofs.Feature.Transparency
import FeatureChoice.Proofs.Run.Lifting
/-!
Resolutions signal once. Whoever resolves an expression waits for one of two continuations, and a
loader for the end of one request, so none may be left out and none may come twice. Continuations
are heard when they are called; what they do then is their own affair.

* `Host.outcome_resolve`: a resolution is a selection, and then the continuation that it calls for.
* `CallsOnce`, `Run.SparesCaches`: what can be asked of continuations.
* `resolution_signals_once`: which continuations are called by a resolution and by the request for a
  resource, in what state, and how that ends.
-/

namespace FeatureChoice

variable {σ α β : Type}

/-! ### Continuations that are heard -/

/-- A state with the continuations that were called so far. -/
abbrev Heard (σ : Type) := σ × List Continuation

/-- Call a continuation. -/
def hear (c : Continuation) : Run (Heard σ) Unit := modify fun s => (s.1, s.2 ++ [c])

/-- Code of a host that is heard when it is called. -/
def calling (c : Continuation) (x : Run σ Unit) : Run (Heard σ) Unit := do
  hear c
  x.onFirst

/-- A function that requests resources: it is told the identifiers and what to call with the
values. -/
abbrev Requester (σ : Type) := List String → (List String → Run σ Unit) → Run σ Unit

/-- A request that is heard when it is made. -/
def requesting (require : Requester (Heard σ)) : Requester (Heard σ) := fun names loaded => do
  hear (.required names)
  require names loaded

/-- Whether it is the continuation that takes the values of resources. -/
def Continuation.takesValues : Continuation → Bool
  | .loaded _ => true
  | _ => false

/-- However a request for resources ends, what it was given has been called once. -/
def CallsOnce (require : Requester (Heard σ)) : Prop :=
  ∀ names (loaded : List String → Run σ Unit) s heard, ∃ values,
    ((require names fun values => calling (.loaded values) (loaded values)).outcome
      (s, heard)).2.2 = heard ++ [.loaded values]

/-- A run that leaves all caches as they are. -/
def Run.SparesCaches [Hosted σ] (x : Run σ α) : Prop :=
  ∀ s, (Hosted.host (x.outcome s).2).cache = (Hosted.host s).cache

theorem outcome_calling (c : Continuation) (x : Run σ Unit) (s : σ) (heard : List Continuation) :
    (calling c x).outcome (s, heard) =
      ((x.outcome s).1, ((x.outcome s).2, heard ++ [c])) := by
  rw [calling, hear, Run.outcome_bind_of_ok (Run.outcome_modify _ _), Run.outcome_onFirst]

theorem outcome_requesting (require : Requester (Heard σ)) (names : List String)
    (loaded : List String → Run (Heard σ) Unit) (s : σ) (heard : List Continuation) :
    (requesting require names loaded).outcome (s, heard) =
      (require names loaded).outcome (s, heard ++ [.required names]) := by
  rw [requesting, hear, Run.outcome_bind_of_ok (Run.outcome_modify _ _)]

/-- To note which continuation was called spares the caches. -/
theorem Run.SparesCaches.calling [Hosted σ] {x : Run σ Unit} (spares : x.SparesCaches)
    (c : Continuation) : (calling c x).SparesCaches := by
  rintro ⟨s, heard⟩
  rw [outcome_calling]
  exact spares s

/-! ### Resolutions -/

/-- How a run ends if its answer is replaced by a selection. -/
def selecting (selection : Selection) (ended : Except Stop Unit × σ) : Except Stop Selection × σ :=
  (ended.1.map fun _ => selection, ended.2)

/-- How a resolution ends whose one signal is this continuation, called in this state. -/
def signalling (c : Continuation) (x : Run σ Unit) (selection : Selection) (s : σ) :
    Except Stop Selection × Heard σ :=
  ((x.outcome s).1.map fun _ => selection, ((x.outcome s).2, [c]))

theorem selecting_outcome_calling (c : Continuation) (x : Run σ Unit) (selection : Selection)
    (s : σ) : selecting selection ((calling c x).outcome (s, [])) = signalling c x selection s :=
  congrArg (selecting selection) (outcome_calling c x s [])

/-- The host after an evaluation, once it is said what came of it. -/
def Host.told (h : Host) (s : Selection) : Host :=
  h.log ⟨.debug, resolveLogger, resolvedMessage s⟩

section Resolutions

variable [Hosted σ]

/-- To resolve is to evaluate, to log, and to call the continuation that fits. -/
theorem Access.resolve_eq (via : Access σ) (id : CacheId) (expression : String)
    (onResolved : String → Run σ Unit) (onUnresolved : Run σ Unit) :
    via.resolve (some id) expression onResolved onUnresolved = (do
      let selection ← via.select id expression
      (Host.say resolveLogger (resolvedMessage selection)).onHost
      (fun _ => selection) <$> selection.identifier.elim onUnresolved onResolved) := by
  refine bind_congr fun selection => bind_congr fun _ => ?_
  cases selection.identifier with
  | none => exact bind_pure_comp _ _
  | some name => exact bind_pure_comp _ _

variable [LawfulHosted σ]

namespace Host

/-- A resolution evaluates the expression. If that stops, so does the resolution; otherwise it says
what came of it, and ends as the continuation does that the selection calls for. -/
theorem outcome_resolve (depth : Nat) (id : CacheId) (expression : String)
    (onResolved : String → Run σ Unit) (onUnresolved : Run σ Unit) (s : σ) :
    (resolve depth (some id) expression onResolved onUnresolved).outcome s =
      match (select depth id expression).outcome (Hosted.host s) with
      | (.error stop, h) => (.error stop, Hosted.withHost h s)
      | (.ok selection, h) =>
        selecting selection ((selection.identifier.elim onUnresolved onResolved).outcome
          (Hosted.withHost (h.told selection) s)) := by
  have lifted : (accessFrom depth : Access σ).select id expression =
      (select depth id expression).onHost := (over_accessFrom depth).select id expression
  rw [resolve, Access.resolve_eq, lifted, Run.outcome_bind, Run.outcome_onHost]
  rcases (select depth id expression).outcome (Hosted.host s) with ⟨result, h⟩
  cases result with
  | error stop => rfl
  | ok selection => simp [Run.outcome_bind, Run.outcome_map, say, told, selecting]

variable {depth : Nat} {id : CacheId} {expression : String} {onResolved : String → Run σ Unit}
  {onUnresolved : Run σ Unit} {s : σ} {h : Host} {selection : Selection}

/-- Where an evaluation stops, so does resolving, and no continuation is called. -/
theorem outcome_resolve_of_stopped {stop : Stop}
    (stopped : (select depth id expression).outcome (Hosted.host s) = (.error stop, h)) :
    (resolve depth (some id) expression onResolved onUnresolved).outcome s =
      (.error stop, Hosted.withHost h s) := by
  rw [outcome_resolve, stopped]

/-- A name at the leaf goes to the first continuation. -/
theorem outcome_resolve_of_named {name : String}
    (evaluated : (select depth id expression).outcome (Hosted.host s) = (.ok selection, h))
    (value : selection.value = some name) (named : name ≠ "") :
    (resolve depth (some id) expression onResolved onUnresolved).outcome s =
      selecting selection ((onResolved name).outcome (Hosted.withHost (h.told selection) s)) := by
  have identifier : selection.identifier = some name := by
    simp [Selection.identifier, value, named]
  rw [outcome_resolve, evaluated]
  simp only [identifier, Option.elim_some]

/-- An empty or absent leaf leads to the second continuation. -/
theorem outcome_resolve_of_unnamed
    (evaluated : (select depth id expression).outcome (Hosted.host s) = (.ok selection, h))
    (value : selection.value = none ∨ selection.value = some "") :
    (resolve depth (some id) expression onResolved onUnresolved).outcome s =
      selecting selection (onUnresolved.outcome (Hosted.withHost (h.told selection) s)) := by
  have identifier : selection.identifier = none := by
    rcases value with value | value <;> simp [Selection.identifier, value]
  rw [outcome_resolve, evaluated]
  simp only [identifier, Option.elim_none]

end Host

end Resolutions

/-! ### Signals -/

/-- A selection has a name, or nothing, or the empty name. -/
theorem Selection.named_or_unnamed (s : Selection) :
    (∃ name, s.value = some name ∧ name ≠ "") ∨ s.value = none ∨ s.value = some "" := by
  match value : s.value with
  | none => exact .inr (.inl rfl)
  | some name =>
    by_cases empty : name = ""
    · exact .inr (.inr (congrArg some empty))
    · exact .inl ⟨name, rfl, empty⟩

/-- Every resolution signals once. If the evaluation of the expression stops, no continuation is
called, and the stop is what the resolution and the request come to. If it selects a name, a
resolution calls the continuation that takes the name, and a loader asks for this one resource and
hands on what is to be called with the values; if the leaf that it reaches is empty or absent, the
continuation without a name is called, or what takes the values, with none. Nothing else is called,
and the one that is called decides how it ends. The caches are then as the evaluation alone leaves
them, if no continuation touches them. -/
theorem resolution_signals_once [Hosted σ] [LawfulHosted σ] (depth : Nat) (id : CacheId)
    (expression : String) (onResolved : String → Run σ Unit) (onUnresolved : Run σ Unit)
    (require : Requester (Heard σ)) (loaded : List String → Run σ Unit) (s : σ) :
    let own := fun values => calling (.loaded values) (loaded values)
    let resolved := (resolve depth (some id) expression
      (fun name => calling (.resolved name) (onResolved name))
      (calling .unresolved onUnresolved)).outcome (s, [])
    let requested := (load depth id expression (requesting require) own).outcome (s, [])
    match (Host.select depth id expression).outcome (Hosted.host s) with
    | (.error stop, h) =>
      resolved = (.error stop, (Hosted.withHost h s, [])) ∧
        requested = (.error stop, (Hosted.withHost h s, []))
    | (.ok selection, h) => ∃ k, h.Alike k ∧
      let s' := Hosted.withHost k s
      (∀ name, selection.value = some name → name ≠ "" →
        resolved = signalling (.resolved name) (onResolved name) selection s' ∧
        requested =
          selecting selection ((require [name] own).outcome (s', [.required [name]]))) ∧
      (selection.value = none ∨ selection.value = some "" →
        resolved = signalling .unresolved onUnresolved selection s' ∧
        requested = signalling (.loaded []) (loaded []) selection s') ∧
      (CallsOnce require → requested.2.2.countP Continuation.takesValues = 1) ∧
      ((∀ name, (onResolved name).SparesCaches) → onUnresolved.SparesCaches →
        (Hosted.host resolved.2.1).cache = h.cache) ∧
      ((∀ values, (loaded values).SparesCaches) →
        (∀ names k, (∀ values, (k values).SparesCaches) → (require names k).SparesCaches) →
        (Hosted.host requested.2.1).cache = h.cache) := by
  intro own resolved requested
  rcases evaluated : (Host.select depth id expression).outcome (Hosted.host s) with ⟨result, h⟩
  have heard : (Host.select depth id expression).outcome
      (Hosted.host (s, ([] : List Continuation))) = (result, h) := evaluated
  cases result with
  | error stop =>
    exact ⟨Host.outcome_resolve_of_stopped heard, Host.outcome_resolve_of_stopped heard⟩
  | ok selection =>
    refine ⟨h.told selection, .log h _, ?_⟩
    intro s'
    have named : ∀ name, selection.value = some name → name ≠ "" →
        resolved = signalling (.resolved name) (onResolved name) selection s' ∧
        requested =
          selecting selection ((require [name] own).outcome (s', [.required [name]])) := by
      intro name value isName
      constructor
      · refine (Host.outcome_resolve_of_named heard value isName).trans ?_
        exact selecting_outcome_calling _ _ selection s'
      · refine (Host.outcome_resolve_of_named heard value isName).trans ?_
        exact congrArg (selecting selection) (outcome_requesting require [name] own s' [])
    have unnamed : selection.value = none ∨ selection.value = some "" →
        resolved = signalling .unresolved onUnresolved selection s' ∧
        requested = signalling (.loaded []) (loaded []) selection s' := by
      intro value
      constructor
      · refine (Host.outcome_resolve_of_unnamed heard value).trans ?_
        exact selecting_outcome_calling _ _ selection s'
      · refine (Host.outcome_resolve_of_unnamed heard value).trans ?_
        exact selecting_outcome_calling _ _ selection s'
    have cache : (Hosted.host s').cache = h.cache := by
      rw [LawfulHosted.host_withHost]
      rfl
    refine ⟨named, unnamed, fun once => ?_, fun spares spares' => ?_, fun spares spares' => ?_⟩
    · rcases selection.named_or_unnamed with ⟨name, value, isName⟩ | value
      · obtain ⟨values, called⟩ := once [name] loaded s' [.required [name]]
        rw [(named name value isName).2]
        show ((require [name] own).outcome (s', [.required [name]])).2.2.countP _ = 1
        rw [called]
        rfl
      · rw [(unnamed value).2]
        rfl
    · rcases selection.named_or_unnamed with ⟨name, value, isName⟩ | value
      · rw [(named name value isName).1]
        exact (spares name s').trans cache
      · rw [(unnamed value).1]
        exact (spares' s').trans cache
    · rcases selection.named_or_unnamed with ⟨name, value, isName⟩ | value
      · have owned := fun values => (spares values).calling (.loaded values)
        rw [(named name value isName).2]
        exact (spares' [name] own owned (s', [.required [name]])).trans cache
      · rw [(unnamed value).2]
        exact (spares [] s').trans cache

/-- A loader that answers every request with the names of the resources. -/
def obliging : Requester (Heard Host) := fun names loaded => loaded names

/-- A missing feature leads to the second branch, which is requested, or is empty behind a dangling
mark. -/
theorem resolution_signals_once_dangling :
    let loading (expression : String) := (load 1 ⟨0⟩ expression (requesting obliging)
      fun values => calling (.loaded values) (pure ())).outcome (Host.empty, [])
    CallsOnce obliging ∧ (loading "x?a:b").2.2.countP Continuation.takesValues = 1 ∧
      (loading "x?a:").2.2.countP Continuation.takesValues = 1 := by
  intro loading
  have once : CallsOnce obliging := by
    intro names loaded s heard
    refine ⟨names, ?_⟩
    rw [obliging, outcome_calling]
  have counted : ∀ expression,
      ((Host.select 1 ⟨0⟩ expression).outcome Host.empty).1.toOption.isSome →
      (loading expression).2.2.countP Continuation.takesValues = 1 := by
    intro expression ends
    have signals := resolution_signals_once 1 ⟨0⟩ expression (fun _ => pure ()) (pure ()) obliging
      (fun _ => pure ()) Host.empty
    rcases evaluated : (Host.select 1 ⟨0⟩ expression).outcome Host.empty with ⟨result, h⟩
    rw [evaluated] at ends
    simp only [Hosted.host, id_eq, evaluated] at signals
    cases result with
    | error stop => cases ends
    | ok selection =>
      obtain ⟨_, _, _, _, count, _⟩ := signals
      exact count once
  exact ⟨once, counted _ (by decide +kernel), counted _ (by decide +kernel)⟩

end FeatureChoice
