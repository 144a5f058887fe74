import FeatureChoice.Feature.Session
import FeatureChoice.Proofs.Run.Neutral
import FeatureChoice.Proofs.Selection.Descent
/-!
Comparisons of runs. Host code is compared with itself over two ways of getting at the features: a
relation between runs that sequencing respects, and that holds of everything host code does besides
queries and registrations, holds of all host code as soon as it holds of those two.

* `Comparison.ofRelation`: comparing runs by a relation between their states.
* `Comparison.Over.script`: whatever a probe does, step by step.
* `Comparison.lookUp`, `Comparison.Over.invoke`: what a query of a cache is made of.
* `Comparison.Over.serve`: a session.
-/

namespace FeatureChoice

variable {σ τ α β : Type}

/-- A relation between runs on two kinds of states that sequencing respects and that holds of every
neutral run. -/
structure Comparison (σ τ : Type) [Hosted σ] [Hosted τ] where
  Rel : {α : Type} → Run σ α → Run τ α → Prop
  pure : ∀ {α : Type} (a : α), Rel (Pure.pure a) (Pure.pure a)
  throw : ∀ {α : Type} (stop : Stop), Rel (throw stop : Run σ α) (throw stop : Run τ α)
  bind : ∀ {α β : Type} {x : Run σ α} {y : Run τ α} {next : α → Run σ β} {next' : α → Run τ β},
    Rel x y → (∀ a, Rel (next a) (next' a)) → Rel (x >>= next) (y >>= next')
  attempt : ∀ {α : Type} {x : Run σ α} {y : Run τ α}, Rel x y → Rel x.attempt y.attempt
  neutral : ∀ {α : Type} {x : Run Host α}, Host.Neutral x → Rel x.onHost x.onHost

/-- The comparison of runs by a relation between their states. -/
def Comparison.ofRelation [Hosted σ] [Hosted τ] (R : σ → τ → Prop)
    (neutral : ∀ {α : Type} {x : Run Host α}, Host.Neutral x →
      Run.Similar R (x.onHost : Run σ α) (x.onHost : Run τ α)) : Comparison σ τ where
  Rel := Run.Similar R
  pure := .pure
  throw := .throw
  bind := .bind
  attempt := .attempt
  neutral := neutral

namespace Comparison

variable [Hosted σ] [Hosted τ] (C : Comparison σ τ)

/-- Two ways of getting at the features that compare. -/
structure Over (via : Access σ) (via' : Access τ) : Prop where
  ask : ∀ id name, C.Rel (via.ask id name) (via'.ask id name)
  enter : ∀ id name o force, C.Rel (via.enter id name o force) (via'.enter id name o force)

theorem map {x : Run σ α} {y : Run τ α} (rel : C.Rel x y) (f : α → β) :
    C.Rel (f <$> x) (f <$> y) := by
  rw [← bind_pure_comp, ← bind_pure_comp]
  exact C.bind rel fun a => C.pure (f a)

/-- Ways down a tree are related if what is asked on them is. -/
theorem descend {ask : String → Run σ Bool} {ask' : String → Run τ Bool}
    (asked : ∀ feature, C.Rel (ask feature) (ask' feature)) (t : Expression.Term) :
    C.Rel (t.descend ask) (t.descend ask') := by
  induction t with
  | leaf name => exact C.pure _
  | guarded feature t u iht ihu =>
    refine C.bind (asked feature) fun b => ?_
    cases b with
    | false => exact C.bind ihu fun _ => C.pure _
    | true => exact C.bind iht fun _ => C.pure _

/-- Evaluations are related if what they ask is. -/
theorem selectBy {ask : FeatureName → Run σ Bool} {ask' : FeatureName → Run τ Bool}
    (asked : ∀ name, C.Rel (ask name) (ask' name)) (expression : String) :
    C.Rel (selectBy ask expression) (FeatureChoice.selectBy ask' expression) := by
  rw [selectBy_eq_descend, selectBy_eq_descend]
  refine C.bind (C.descend (fun feature => ?_) _) fun found => ?_
  · exact C.bind (asked _) fun b =>
      C.bind (C.neutral (Host.neutral_trace _)) fun _ => C.pure b
  · exact C.bind (C.neutral (Host.neutral_trace _)) fun _ => C.pure _

section Operations

variable {C} {via : Access σ} {via' : Access τ}

namespace Over

variable (ways : C.Over via via')

include ways

theorem select (id : CacheId) (expression : String) :
    C.Rel (via.select id expression) (via'.select id expression) :=
  C.selectBy (ways.ask id) expression

/-- Resolutions are related if what they ask and their continuations are. -/
theorem resolve (id : CacheId) (expression : String) {onResolved : String → Run σ Unit}
    {onResolved' : String → Run τ Unit} {onUnresolved : Run σ Unit} {onUnresolved' : Run τ Unit}
    (resolved : ∀ name, C.Rel (onResolved name) (onResolved' name))
    (unresolved : C.Rel onUnresolved onUnresolved') :
    C.Rel (via.resolve (some id) expression onResolved onUnresolved)
      (via'.resolve (some id) expression onResolved' onUnresolved') := by
  refine C.bind (ways.select id expression) fun s => ?_
  refine C.bind (C.neutral (Host.neutral_say _ _)) fun _ => ?_
  cases s.identifier with
  | none => exact C.bind unresolved fun _ => C.pure s
  | some name => exact C.bind (resolved name) fun _ => C.pure s

theorem register (id : CacheId) (name : FeatureName) (o : Offer) (now force : Bool) :
    C.Rel (via.register id name o now force) (via'.register id name o now force) := by
  refine C.bind (ways.enter id name o force) fun _ => ?_
  cases now with
  | false => exact C.pure none
  | true => exact C.map (ways.ask id name) some

theorem registerDefaults (id : CacheId) :
    C.Rel (via.registerDefaults id) (via'.registerDefaults id) := by
  refine C.bind (C.neutral (Host.neutral_defaultsOf id)) fun features => ?_
  induction features with
  | nil => exact C.pure PUnit.unit
  | cons feature features ih => exact C.bind (ways.enter id _ _ _) fun _ => ih

/-- Whatever a probe does, it compares with itself. -/
theorem script (script : Script) (label : String) (element : Option ElementId) :
    C.Rel (script.run via label element) (script.run via' label element) := by
  have workspace := C.neutral Host.neutral_theWorkspace
  have acted := fun action result => C.neutral (Host.neutral_acted label action result)
  -- one step of the script at a time: what it does compares, and so does what it goes on with
  induction script with
  | finish answer => exact C.pure answer
  | fail kind message => exact C.throw _
  | look view next ih => exact C.bind (C.neutral (Host.neutral_see element view)) ih
  | assign name value next ih =>
    exact C.bind (C.neutral (Host.neutral_setVariable name value)) fun _ => ih
  | query name next ih =>
    exact C.bind workspace fun id => C.bind (ways.ask id name) fun b =>
      C.bind (acted _ _) fun _ => ih b
  | register name value force next ih =>
    exact C.bind workspace fun id => C.bind (ways.enter id name _ force) fun _ =>
      C.bind (acted _ _) fun _ => ih
  | registerProbe name inner title body force next _ ih =>
    exact C.bind workspace fun id => C.bind (ways.enter id name _ force) fun _ =>
      C.bind (acted _ _) fun _ => ih
  | setMarkup markup next ih =>
    cases element with
    | none => exact C.throw _
    | some e =>
      exact C.bind (C.neutral (Host.neutral_changeElement e _)) fun _ =>
        C.bind (acted _ _) fun _ => ih
  | append child next ih =>
    cases element with
    | none => exact C.throw _
    | some e =>
      exact C.bind (C.neutral (Host.neutral_changeElement e _)) fun _ =>
        C.bind (acted _ _) fun _ => ih
  | reset next ih =>
    exact C.bind workspace fun id =>
      C.bind (C.neutral (Host.neutral_resetElement id element)) fun _ =>
        C.bind (acted _ _) fun _ => ih _
  | select expression next ih =>
    exact C.bind workspace fun id => C.bind (ways.select id expression) fun s =>
      C.bind (acted _ _) fun _ => ih s.identifier
  | attempt first next ihFirst ihNext =>
    exact C.bind (C.attempt ihFirst) fun result => ihNext result

/-- Calls of probes are related if their ways to the features are. -/
theorem invoke (id : CacheId) (p : Probe) :
    C.Rel (Host.invoke via id p) (Host.invoke via' id p) := by
  refine C.bind (C.neutral (Host.neutral_context id)) fun context => ?_
  refine C.bind (C.neutral (Host.neutral_invocation p.label context)) fun _ => ?_
  exact C.bind (ways.script (p.body context) p.label context.element) fun _ => C.pure _

theorem callback (c : Callback) : C.Rel (c.run via) (c.run via') :=
  C.bind (ways.script c.script c.label c.element) fun _ => C.pure _

/-- Requests are related if the ways to the features are. -/
theorem request (id : CacheId) (request : Request) :
    C.Rel (request.run via id) (request.run via' id) := by
  cases request with
  | query name => exact C.bind (ways.ask id name) fun _ => C.pure _
  | register name o now force => exact C.bind (ways.register id name o now force) fun _ => C.pure _
  | registerDefaults => exact ways.registerDefaults id
  | select expression => exact C.bind (ways.select id expression) fun _ => C.pure _
  | resolve expression onResolved onUnresolved =>
    refine C.bind (ways.resolve id expression ?_ ?_) fun _ => C.pure _
    · exact fun name => ways.callback (onResolved name)
    · exact ways.callback onUnresolved
  | load expression require answer loaded =>
    refine C.bind (ways.resolve id expression ?_ ?_) fun _ => C.pure _
    · intro name
      refine C.bind (ways.callback (require [name])) fun _ => ?_
      cases answer with
      | none => exact C.pure _
      | some values => exact ways.callback (loaded values)
    · exact ways.callback (loaded [])

/-- A session compares with itself. -/
theorem serve (id : CacheId) (requests : List Request) :
    C.Rel (serve via id requests) (FeatureChoice.serve via' id requests) := by
  induction requests with
  | nil => exact C.pure _
  | cons request requests ih => exact C.bind (C.attempt (ways.request id request)) fun _ => ih

end Over

/-- Looking up is related if what is done with pending features is. -/
theorem lookUp {settling : Key → Probe → Run σ Bool} {settling' : Key → Probe → Run τ Bool}
    (settled : ∀ key p, C.Rel (settling key p) (settling' key p)) (id : CacheId)
    (name : FeatureName) :
    C.Rel (Host.lookUp settling id name) (Host.lookUp settling' id name) := by
  unfold Host.lookUp
  match name.sought with
  | .error e => exact C.throw _
  | .ok none => exact C.pure false
  | .ok (some key) =>
    refine C.bind (C.neutral (Host.neutral_find id key)) fun e => ?_
    match e with
    | none => exact C.pure false
    | some (.resolved b) => exact C.pure b
    | some (.pending p) => exact settled key p

end Operations

end Comparison

end FeatureChoice
