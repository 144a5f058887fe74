import FeatureChoice.Host.Fault
import FeatureChoice.Host.State
/-!
Runs: operations that change a state and end with a result or stop early. What was changed before a
stop stays changed. A run stops at a fault, or because probes kept calling each other beyond the
depth that the run was given; the second is not a fault of any probe.

Larger states have a host inside; a run on the host is a run on each of them (`Run.onHost`).
-/

namespace FeatureChoice

/-- Why a run stops early. -/
inductive Stop where
  | fault (f : Fault)
  | unfinished
  deriving Repr

abbrev Run (σ α : Type) := ExceptT Stop (StateM σ) α

/-- States with a host inside. -/
class Hosted (σ : Type) where
  host : σ → Host
  withHost : Host → σ → σ

/-- States in which putting a host in place of the one inside changes nothing else. -/
class LawfulHosted (σ : Type) [Hosted σ] : Prop where
  host_withHost (h : Host) (s : σ) : Hosted.host (Hosted.withHost h s) = h
  withHost_host (s : σ) : Hosted.withHost (Hosted.host s) s = s
  withHost_withHost (h h' : Host) (s : σ) :
    Hosted.withHost h (Hosted.withHost h' s) = Hosted.withHost h s

attribute [simp] LawfulHosted.host_withHost LawfulHosted.withHost_host
  LawfulHosted.withHost_withHost

instance : Hosted Host := ⟨id, fun h _ => h⟩

instance : LawfulHosted Host := ⟨fun _ _ => rfl, fun _ => rfl, fun _ _ _ => rfl⟩

instance {σ γ : Type} [Hosted σ] : Hosted (σ × γ) :=
  ⟨fun s => Hosted.host s.1, fun h s => (Hosted.withHost h s.1, s.2)⟩

instance {σ γ : Type} [Hosted σ] [LawfulHosted σ] : LawfulHosted (σ × γ) where
  host_withHost := by simp [Hosted.host, Hosted.withHost]
  withHost_host := by simp [Hosted.host, Hosted.withHost]
  withHost_withHost := by simp [Hosted.withHost]

namespace Run

variable {σ τ α β : Type}

/-- The outcome of a run from a state, and the state it leaves. -/
def outcome (x : Run σ α) (s : σ) : Except Stop α × σ := x s

def fail (f : Fault) : Run σ α := throw (.fault f)

def within (part : τ → σ) (put : σ → τ → τ) (x : Run σ α) : Run τ α :=
  fun t => ((x (part t)).1, put (x (part t)).2 t)

def onHost [Hosted σ] (x : Run Host α) : Run σ α := x.within Hosted.host Hosted.withHost

def onFirst {γ : Type} (x : Run σ α) : Run (σ × γ) α :=
  x.within Prod.fst fun s t => (s, t.2)

/-- A run with a second part of the state that starts as given and is kept only if the run ends. -/
def collecting {γ : Type} (start : γ) (x : Run (σ × γ) α) : Run σ (α × γ) := fun s =>
  match x (s, start) with
  | (.ok a, (s', g)) => (.ok (a, g), s')
  | (.error e, (s', _)) => (.error e, s')

/-- A run whose faults are results. A run beyond its depth has none. -/
def attempt (x : Run σ α) : Run σ (Except Fault α) := fun s =>
  match x s with
  | (.ok a, s') => (.ok (.ok a), s')
  | (.error (.fault f), s') => (.ok (.error f), s')
  | (.error .unfinished, s') => (.error .unfinished, s')

/-! ### Outcomes -/

theorem ext {x y : Run σ α} (same : ∀ s, x.outcome s = y.outcome s) : x = y := funext same

@[simp] theorem outcome_pure (a : α) (s : σ) : (pure a : Run σ α).outcome s = (.ok a, s) := rfl

@[simp] theorem outcome_throw (stop : Stop) (s : σ) :
    (throw stop : Run σ α).outcome s = (.error stop, s) := rfl

@[simp] theorem outcome_fail (f : Fault) (s : σ) :
    (fail f : Run σ α).outcome s = (.error (.fault f), s) := rfl

@[simp] theorem outcome_get (s : σ) : (get : Run σ σ).outcome s = (.ok s, s) := rfl

@[simp] theorem outcome_modify (f : σ → σ) (s : σ) :
    (modify f : Run σ PUnit).outcome s = (.ok ⟨⟩, f s) := rfl

/-- A run goes on where the one before it ended, unless that one stopped. -/
theorem outcome_bind (x : Run σ α) (next : α → Run σ β) (s : σ) :
    (x >>= next).outcome s =
      match x.outcome s with
      | (.ok a, s') => (next a).outcome s'
      | (.error stop, s') => (.error stop, s') := by
  simp only [outcome, bind, ExceptT.bind, ExceptT.mk, StateT.bind]
  obtain ⟨result, s'⟩ := x s
  cases result <;> rfl

/-- After a result the next operation goes on from the state that was left. -/
theorem outcome_bind_of_ok {x : Run σ α} {s s' : σ} {a : α} (ok : x.outcome s = (.ok a, s'))
    (next : α → Run σ β) : (x >>= next).outcome s = (next a).outcome s' := by
  rw [outcome_bind, ok]

/-- After a stop nothing more is done. -/
theorem outcome_bind_of_error {x : Run σ α} {s s' : σ} {stop : Stop}
    (stopped : x.outcome s = (.error stop, s')) (next : α → Run σ β) :
    (x >>= next).outcome s = (.error stop, s') := by
  rw [outcome_bind, stopped]

theorem outcome_map (f : α → β) (x : Run σ α) (s : σ) :
    (f <$> x).outcome s = ((x.outcome s).1.map f, (x.outcome s).2) := by
  rw [← bind_pure_comp, outcome_bind]
  obtain ⟨result, s'⟩ := x.outcome s
  cases result <;> rfl

/-- Attempting stops only where a probe is called too deep. -/
theorem outcome_attempt (x : Run σ α) (s : σ) :
    x.attempt.outcome s =
      match x.outcome s with
      | (.ok a, s') => (.ok (.ok a), s')
      | (.error (.fault f), s') => (.ok (.error f), s')
      | (.error .unfinished, s') => (.error .unfinished, s') := rfl

@[simp] theorem outcome_onHost [Hosted σ] (x : Run Host α) (s : σ) :
    (x.onHost : Run σ α).outcome s =
      ((x.outcome (Hosted.host s)).1, Hosted.withHost (x.outcome (Hosted.host s)).2 s) := rfl

@[simp] theorem outcome_onFirst {γ : Type} (x : Run σ α) (s : σ) (g : γ) :
    (x.onFirst : Run (σ × γ) α).outcome (s, g) = ((x.outcome s).1, ((x.outcome s).2, g)) := rfl

/-- On a host itself nothing has to be lifted. -/
theorem onHost_self (x : Run Host α) : (x.onHost : Run Host α) = x := rfl

end Run

namespace Host

def look {α : Type} (f : Host → α) : Run Host α := return f (← get)

def change (f : Host → Host) : Run Host Unit := modify f

def make {α : Type} (f : Host → α × Host) : Run Host α := do
  let (a, h) := f (← get)
  set h
  return a

def traceWith (expression : Option String) (message : String) (fields : List (String × String)) :
    Run Host Unit :=
  match Trace.rowWith expression message fields with
  | .ok row => change (·.trace row)
  | .error e => Run.fail (.takenName e)

def say (logger message : String) : Run Host Unit := change (·.log ⟨.debug, logger, message⟩)

@[simp] theorem outcome_look {α : Type} (f : Host → α) (h : Host) :
    (look f).outcome h = (.ok (f h), h) := rfl

@[simp] theorem outcome_change (f : Host → Host) (h : Host) :
    (change f).outcome h = (.ok (), f h) := rfl

end Host

end FeatureChoice
