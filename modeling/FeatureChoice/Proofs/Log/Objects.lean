import FeatureChoice.Proofs.Log.Destinations
/-!
The objects of the log facility. They are numbered as they are made, and an object is handed out
only when the log was set up, so one that was left behind by a set-up that failed is none of those
that anybody has.

* `LogFacility.Orderly`: what is always true of the numbers and of the object handed out.
* `Run.KeepsOrder`: runs that keep it so.
* `orderly_afterSteps`: it is so after any number of steps.
-/

namespace FeatureChoice

open Run (SparesLog)

/-! ### Facilities -/

namespace LogFacility

variable {f : LogFacility}

/-- A facility whose objects have numbers below the next one; an object that was not set up is not
handed out. -/
structure Orderly (f : LogFacility) : Prop where
  single : ∀ id, f.single = some id → id.index < f.made
  handedOut : ∀ id, f.handedOut = some id → id.index < f.made
  apart : f.isSetUp = false → ∀ id, f.single = some id → f.handedOut ≠ some id

namespace Orderly

theorem dropped (orderly : f.Orderly) : f.dropped.Orderly where
  single _ there := by cases there
  handedOut := orderly.handedOut
  apart _ _ there := by cases there

/-- The next object is among those that were made. -/
theorem next_lt (orderly : f.Orderly) : f.next.index < f.filled.made := by
  unfold next filled
  cases there : f.single with
  | none => exact Nat.lt_succ_self _
  | some id => exact orderly.single id there

theorem made_le (f : LogFacility) : f.made ≤ f.filled.made := by
  unfold filled
  split
  · exact Nat.le_succ _
  · exact Nat.le_refl _

theorem filled (orderly : f.Orderly) : f.filled.Orderly where
  single id there := by
    obtain rfl := Option.some.inj there
    exact orderly.next_lt
  handedOut id out := Nat.lt_of_lt_of_le (orderly.handedOut id out) (made_le f)
  apart down id there out := by
    obtain rfl := Option.some.inj there
    cases single : f.single with
    | none =>
      have new : f.next = ⟨f.made⟩ := by rw [next, single]; rfl
      exact Nat.lt_irrefl _ (new ▸ orderly.handedOut f.next out)
    | some id =>
      have old : f.next = id := by rw [next, single]; rfl
      exact orderly.apart down id single (old ▸ out)

theorem setUp (orderly : f.Orderly) : ({ f with isSetUp := true } : LogFacility).Orderly where
  single := orderly.single
  handedOut := orderly.handedOut
  apart down := by cases down

/-- A facility stays in order when it hands out an object that was made. -/
theorem handing (orderly : f.Orderly) (up : f.isSetUp = true) {id : LoggerId}
    (below : id.index < f.made) : (f.handing id).Orderly where
  single := orderly.single
  handedOut other out := by
    obtain rfl := Option.some.inj out
    exact below
  apart down := by simp [LogFacility.handing, up] at down

end Orderly

end LogFacility

/-! ### Runs -/

namespace Run

variable {α β : Type}

/-- A run that keeps the facility orderly. -/
def KeepsOrder (x : Run Deployment α) : Prop :=
  ∀ d : Deployment, d.facility.Orderly → (x.outcome d).2.facility.Orderly

/-- What spares the log keeps its facility in order. -/
theorem SparesLog.keepsOrder {x : Run Deployment α} (spares : SparesLog x) : KeepsOrder x :=
  fun d orderly => (spares d).facility ▸ orderly

theorem KeepsOrder.bind {x : Run Deployment α} {next : α → Run Deployment β} (first : KeepsOrder x)
    (rest : ∀ a, KeepsOrder (next a)) : KeepsOrder (x >>= next) := by
  intro d orderly
  have kept := first d orderly
  rcases ended : x.outcome d with ⟨stop | a, k⟩
  · rw [ended] at kept
    rw [outcome_bind_of_error ended]
    exact kept
  · rw [ended] at kept
    rw [outcome_bind_of_ok ended]
    exact rest a k kept

theorem KeepsOrder.map {x : Run Deployment α} (keeps : KeepsOrder x) (f : α → β) :
    KeepsOrder (f <$> x) := by
  rw [← bind_pure_comp]
  exact keeps.bind fun a => (SparesLog.pure (f a)).keepsOrder

end Run

open Run (KeepsOrder)

namespace Deployment

variable {d : Deployment}

/-- An object that is yielded is set up and has a number below the next one. -/
theorem orderly_makeLogger (directory : Option String) (level : String)
    (orderly : d.facility.Orderly) :
    let came := (makeLogger directory level).outcome d
    came.2.facility.Orderly ∧
      ∀ id, came.1 = .ok id → came.2.facility.isSetUp = true ∧ id.index < came.2.facility.made := by
  dsimp only
  cases up : d.facility.isSetUp with
  | true =>
    rw [outcome_makeLogger_of_isSetUp up]
    refine ⟨orderly.filled, fun id yielded => ?_⟩
    obtain rfl := Except.ok.inj yielded
    exact ⟨up, orderly.next_lt⟩
  | false =>
    rw [outcome_makeLogger_of_not up]
    rcases (setUpLog directory level).outcome d with ⟨stop | _, k⟩
    · exact ⟨orderly.filled, fun _ yielded => by cases yielded⟩
    · refine ⟨orderly.filled.setUp, fun id yielded => ?_⟩
      obtain rfl := Except.ok.inj yielded
      exact ⟨rfl, orderly.next_lt⟩

theorem keepsOrder_handingOut (directory : Option String) (level : String) :
    KeepsOrder (handingOut directory level) := by
  intro d orderly
  obtain ⟨kept, yields⟩ := orderly_makeLogger directory level orderly
  unfold handingOut
  rcases ended : (makeLogger directory level).outcome d with ⟨stop | id, k⟩
  · rw [ended] at kept
    rw [Run.outcome_bind_of_error ended]
    exact kept
  · rw [ended] at kept yields
    obtain ⟨up, below⟩ := yields id rfl
    rw [Run.outcome_bind_of_ok ended]
    exact kept.handing up below

theorem keepsOrder_setupLogger (directory : Option String) (level : String) :
    KeepsOrder (setupLogger directory level) :=
  fun d orderly => keepsOrder_handingOut directory level (d.withFacility _) orderly.dropped

theorem keepsOrder_getLogger (directory : Option String) (level : String) :
    KeepsOrder (getLogger directory level) := by
  intro d orderly
  cases out : d.facility.handedOut with
  | none =>
    rw [outcome_getLogger_of_none out]
    exact keepsOrder_handingOut directory level d orderly
  | some id =>
    rw [outcome_getLogger_of_some out]
    exact orderly

end Deployment

open Deployment

/-! ### Steps -/

/-- Every call keeps the facility in order. -/
theorem LogCall.keepsOrder_run (c : LogCall) : KeepsOrder c.run := by
  have yieldsNone : KeepsOrder (pure none : Run Deployment (Option LoggerId)) :=
    (SparesLog.pure none).keepsOrder
  have got := keepsOrder_getLogger none usualLevel
  cases c with
  | setup directory level => exact (keepsOrder_setupLogger directory level).map some
  | make directory level =>
    exact KeepsOrder.map (fun _ orderly => (orderly_makeLogger directory level orderly).1) some
  | get directory level => exact (keepsOrder_getLogger directory level).map some
  | setLevel level =>
    exact (got.bind fun _ => (sparesLog_setThreshold level).keepsOrder).bind fun _ => yieldsNone
  | adjust level =>
    have adjusts := (sparesLog_setThreshold level).keepsOrder.bind fun _ => yieldsNone
    rwa [bind_assoc] at adjusts
  | log row values =>
    exact got.bind fun _ => (sparesLog_log row values).keepsOrder.bind fun _ => yieldsNone
  | write row values => exact (sparesLog_log row values).keepsOrder.bind fun _ => yieldsNone
  | enableDebug enabled => exact (sparesLog_enableDebug enabled).keepsOrder.bind fun _ => yieldsNone
  | elsewhere files environment terminal => exact fun _ orderly => orderly

/-- Every command keeps the facility in order. -/
theorem Command.keepsOrder_run (depth : Nat) (a : Arguments) : KeepsOrder (run depth a) := by
  refine sparesLog_currentSettings.keepsOrder.bind fun s => ?_
  refine (keepsOrder_setupLogger _ _).bind fun _ => ?_
  exact (sparesLog_afterSetup depth a s).keepsOrder

theorem LogStep.orderly_next (depth : Nat) (step : LogStep) {d : Deployment}
    (orderly : d.facility.Orderly) : (step.next depth d).facility.Orderly := by
  cases step with
  | call c => exact c.keepsOrder_run d orderly
  | command texts =>
    simp only [next]
    cases Command.readArguments texts with
    | ok a => exact Command.keepsOrder_run depth a d orderly
    | error halt => exact orderly

namespace Deployment

theorem orderly_start (loader : Yaml.Loader) (files : Files.Tree) (environment : Environment)
    (day : String) : (start loader files environment day).facility.Orderly where
  single _ there := by cases there
  handedOut _ out := by cases out
  apart _ _ there := by cases there

/-- The facility is in order after every run. -/
theorem orderly_afterSteps (depth : Nat) (steps : List LogStep) {d : Deployment}
    (orderly : d.facility.Orderly) : (afterSteps depth d steps).facility.Orderly := by
  induction steps generalizing d with
  | nil => exact orderly
  | cons step steps ih => exact ih (step.orderly_next depth orderly)

end Deployment

end FeatureChoice
