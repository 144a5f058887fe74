import FeatureChoice.Proofs.Log.Objects
/-!
Set-ups of the log that fail. If the directory cannot be made, the log stays as it was, and so does
the object that is handed out; but the facility takes the log for one that is not set up. If it had
been set up, the next object that is made sets it up once more. Until then, or if the log had not
been set up, calls come to what they would have come to without the failure; only the numbers of
new objects are other ones.

* `echoes`: what is seen of calls, one after the other.
* `LogFacility.Renamed`, `echoes_renamed`: facilities that differ in the numbers of their objects
  are seen to differ in them.
* `LogCall.Wait`, `exists_renaming`: calls that make no object before the log is set up anew.
* `failed_setup_leaves_log`: what is seen after a set-up that failed.
* `failed_setup_is_felt`: an object that is made later can change threshold and destinations.
-/

namespace FeatureChoice

open Run (SparesFacility)
open Deployment

/-! ### What is seen -/

/-- What is seen of a call: what it yields, and the log after it. -/
structure Echo where
  answer : Except Stop (Option LoggerId)
  journal : Log.Journal

/-- The same with other numbers for the objects. -/
def Echo.rename (ρ : LoggerId → LoggerId) (o : Echo) : Echo :=
  ⟨o.answer.map (Option.map ρ), o.journal⟩

/-- What is seen of calls, one after the other. -/
def echoes (d : Deployment) : List LogCall → List Echo
  | [] => []
  | c :: calls =>
    ⟨(c.run.outcome d).1, (c.run.outcome d).2.host.journal⟩ :: echoes (c.run.outcome d).2 calls

/-! ### Other numbers -/

namespace LogFacility

variable {f g : LogFacility} {ρ : LoggerId → LoggerId}

/-- Facilities that differ in the numbers of their objects. -/
structure Renamed (ρ : LoggerId → LoggerId) (f g : LogFacility) : Prop where
  single : g.single = f.single.map ρ
  isSetUp : g.isSetUp = f.isSetUp
  handedOut : g.handedOut = f.handedOut.map ρ
  fresh : ∀ i, ρ ⟨f.made + i⟩ = ⟨g.made + i⟩

namespace Renamed

variable (renamed : f.Renamed ρ g)

include renamed

/-- The next objects are renamed into each other. -/
theorem next : g.next = ρ f.next := by
  unfold LogFacility.next
  rw [renamed.single]
  cases f.single with
  | none => exact (renamed.fresh 0).symm
  | some id => rfl

theorem filled : f.filled.Renamed ρ g.filled where
  single := congrArg some renamed.next
  isSetUp := renamed.isSetUp
  handedOut := renamed.handedOut
  fresh i := by
    unfold LogFacility.filled
    rw [renamed.single]
    cases f.single with
    | none => simpa [Nat.add_assoc, Nat.add_comm 1 i] using renamed.fresh (1 + i)
    | some id => exact renamed.fresh i

theorem dropped : f.dropped.Renamed ρ g.dropped := ⟨rfl, rfl, renamed.handedOut, renamed.fresh⟩

theorem setUp :
    ({ f with isSetUp := true } : LogFacility).Renamed ρ { g with isSetUp := true } :=
  ⟨renamed.single, rfl, renamed.handedOut, renamed.fresh⟩

theorem handing (id : LoggerId) : (f.handing id).Renamed ρ (g.handing (ρ id)) :=
  ⟨renamed.single, renamed.isSetUp, rfl, renamed.fresh⟩

end Renamed

end LogFacility

/-- Deployments that differ in the numbers of their logger objects. -/
def Deployment.Renamed (ρ : LoggerId → LoggerId) (d k : Deployment) : Prop :=
  ∃ g, k = d.withFacility g ∧ d.facility.Renamed ρ g

/-- Runs that yield objects with these numbers, or stop in the same way. -/
abbrev Run.Matching {α : Type} (ρ : LoggerId → LoggerId) (name : α → α) (x : Run Deployment α) :
    Prop :=
  Run.Coupled (fun _ => True) (Deployment.Renamed ρ) (fun a b => b = name a) x x

section Matching

open Run (Matching)

variable {α : Type} (ρ : LoggerId → LoggerId)

/-- What spares the facility does the same whatever its objects are called. -/
theorem Run.SparesFacility.matching {x : Run Deployment α} (spares : SparesFacility x) :
    Matching ρ id x := by
  rintro d _ ⟨g, rfl, renamed⟩
  have facility := spares.facility d
  rw [← facility] at renamed
  rw [spares d g]
  revert renamed
  rcases x.outcome d with ⟨stop | a, k⟩ <;> intro renamed
  · exact ⟨.stopped trivial, g, rfl, renamed⟩
  · exact ⟨.answers rfl, g, rfl, renamed⟩

/-- Objects are made alike, whatever they are called. -/
theorem matching_makeLogger (directory : Option String) (level : String) :
    Matching ρ ρ (makeLogger directory level) := by
  rintro d _ ⟨g, rfl, renamed⟩
  cases up : d.facility.isSetUp with
  | true =>
    have up' : (d.withFacility g).facility.isSetUp = true := renamed.isSetUp.trans up
    rw [outcome_makeLogger_of_isSetUp up, outcome_makeLogger_of_isSetUp up']
    exact ⟨.answers renamed.next, g.filled, rfl, renamed.filled⟩
  | false =>
    have down : (d.withFacility g).facility.isSetUp = false := renamed.isSetUp.trans up
    rw [outcome_makeLogger_of_not up, outcome_makeLogger_of_not down, sparesFacility_setUpLog]
    rcases (setUpLog directory level).outcome d with ⟨stop | _, k⟩
    · exact ⟨.stopped trivial, g.filled, rfl, renamed.filled⟩
    · exact ⟨.answers renamed.next, _, rfl, renamed.filled.setUp⟩

theorem matching_handingOut (directory : Option String) (level : String) :
    Matching ρ ρ (handingOut directory level) := by
  refine (matching_makeLogger ρ directory level).bind fun id id' same => ?_
  rintro d _ ⟨g, rfl, renamed⟩
  subst same
  exact ⟨.answers rfl, g.handing (ρ id), rfl, renamed.handing id⟩

theorem matching_setupLogger (directory : Option String) (level : String) :
    Matching ρ ρ (setupLogger directory level) := by
  rintro d _ ⟨g, rfl, renamed⟩
  have dropped := renamed.dropped
  exact matching_handingOut ρ directory level (d.withFacility d.facility.dropped) _
    ⟨g.dropped, rfl, dropped⟩

/-- Objects are handed out alike, whatever they are called. -/
theorem matching_getLogger (directory : Option String) (level : String) :
    Matching ρ ρ (getLogger directory level) := by
  rintro d _ ⟨g, rfl, renamed⟩
  have same : (d.withFacility g).facility.handedOut = d.facility.handedOut.map ρ :=
    renamed.handedOut
  cases out : d.facility.handedOut with
  | none =>
    rw [out] at same
    rw [outcome_getLogger_of_none out, outcome_getLogger_of_none same]
    exact matching_handingOut ρ directory level _ _ ⟨g, rfl, renamed⟩
  | some id =>
    rw [out] at same
    rw [outcome_getLogger_of_some out, outcome_getLogger_of_some same]
    exact ⟨.answers rfl, g, rfl, renamed⟩

end Matching

/-! ### Runs that spare the facility -/

namespace Deployment

theorem sparesFacility_setThreshold (level : String) :
    SparesFacility (do
      let n ← threshold level
      changeJournal fun j => { j with threshold := n }) :=
  (sparesFacility_threshold level).bind fun _ => sparesFacility_changeJournal _

theorem sparesFacility_log (row : Log.Row) (values : List Value) :
    SparesFacility (log row values) := by
  have looked : SparesFacility journal := fun _ _ => rfl
  refine looked.bind fun j => ?_
  cases j.accepts row with
  | false => exact .pure _
  | true =>
    cases filled : Log.fill row.message values with
    | error e =>
      simp only [if_true]
      exact .throw _
    | ok message =>
      simp only [if_true]
      exact sparesFacility_changeJournal _

theorem sparesFacility_enableDebug (enabled : Bool) : SparesFacility (enableDebug enabled) := by
  have switched : SparesFacility (modify fun d : Deployment =>
      { d with host := { d.host with tracing := enabled } }) := fun _ _ => rfl
  refine switched.bind fun _ => ?_
  cases enabled with
  | false => exact .pure _
  | true =>
    rw [if_pos rfl]
    exact sparesFacility_changeJournal _

end Deployment

/-! ### Calls -/

namespace LogCall

variable {d : Deployment}

/-- Calls yield objects with the other numbers. -/
theorem matching_run (ρ : LoggerId → LoggerId) (c : LogCall) :
    Run.Matching ρ (Option.map ρ) c.run := by
  have yielding : ∀ {x : Run Deployment LoggerId}, Run.Matching ρ ρ x →
      Run.Matching ρ (Option.map ρ) (some <$> x) := by
    intro x matching
    rw [← bind_pure_comp]
    exact matching.bind fun id id' same => .pure (by rw [same]; rfl)
  have nothing : Run.Coupled (fun _ => True) (Deployment.Renamed ρ)
      (fun a b : Option LoggerId => b = a.map ρ) (pure none) (pure none) := .pure rfl
  have got := matching_getLogger ρ none usualLevel
  cases c with
  | setup directory level => exact yielding (matching_setupLogger ρ directory level)
  | make directory level => exact yielding (matching_makeLogger ρ directory level)
  | get directory level => exact yielding (matching_getLogger ρ directory level)
  | setLevel level =>
    have sets := (sparesFacility_setThreshold level).matching ρ
    exact (got.bind fun _ _ _ => sets).bind fun _ _ _ => nothing
  | adjust level =>
    have adjusts := ((sparesFacility_setThreshold level).matching ρ).bind fun _ _ _ => nothing
    rwa [bind_assoc] at adjusts
  | log row values =>
    have logs := (sparesFacility_log row values).matching ρ
    exact got.bind fun _ _ _ => logs.bind fun _ _ _ => nothing
  | write row values =>
    exact ((sparesFacility_log row values).matching ρ).bind fun _ _ _ => nothing
  | enableDebug enabled =>
    exact ((sparesFacility_enableDebug enabled).matching ρ).bind fun _ _ _ => nothing
  | elsewhere files environment terminal =>
    rintro d _ ⟨g, rfl, renamed⟩
    exact ⟨.answers rfl, g, rfl, renamed⟩

/-- Whether a call sets up the log anew. -/
def isSetup : LogCall → Bool
  | setup _ _ => true
  | _ => false

/-- Whether a call neither sets up the log anew nor makes an object; an object is also made when
one is asked for and none was handed out. -/
def isIdle (handedOut : Option LoggerId) : LogCall → Bool
  | setup _ _ => false
  | make _ _ => false
  | get _ _ => handedOut.isSome
  | setLevel _ => handedOut.isSome
  | log _ _ => handedOut.isSome
  | _ => true

/-- Until the log is set up anew, all calls are idle. -/
def Wait (handedOut : Option LoggerId) : List LogCall → Prop
  | [] => True
  | c :: calls => c.isSetup = true ∨ c.isIdle handedOut = true ∧ Wait handedOut calls

end LogCall

/-- From this deployment the run leaves the facility as it is and depends on nothing of it but the
object that was handed out, which is the only one that it can yield. -/
structure Run.IdleFrom (d : Deployment) (x : Run Deployment (Option LoggerId)) : Prop where
  apart : ∀ g : LogFacility, g.handedOut = d.facility.handedOut →
    x.outcome (d.withFacility g) = ((x.outcome d).1, (x.outcome d).2.withFacility g)
  kept : (x.outcome d).2.facility = d.facility
  yields : ∀ id, (x.outcome d).1 = .ok (some id) → d.facility.handedOut = some id

section Idle

variable {d : Deployment} {x : Run Deployment Unit}

theorem idleFrom_nothing (spares : SparesFacility x) (d : Deployment) :
    Run.IdleFrom d (do x; return none) := by
  have all : SparesFacility (do x; return (none : Option LoggerId)) := spares.bind fun _ => .pure _
  refine ⟨fun g _ => all d g, all.facility d, fun id yielded => ?_⟩
  rw [Run.outcome_bind] at yielded
  revert yielded
  rcases x.outcome d with ⟨stop | _, k⟩ <;> intro yielded <;> cases yielded

/-- An object that was handed out is there when it is asked for. -/
theorem idleFrom_following (spares : SparesFacility x) {id : LoggerId}
    (out : d.facility.handedOut = some id) :
    Run.IdleFrom d (do let _ ← getLogger none usualLevel; x; return none) := by
  have goesOn : ∀ e : Deployment, e.facility.handedOut = some id →
      (do let _ ← getLogger none usualLevel; x; return none :
        Run Deployment (Option LoggerId)).outcome e =
      (do x; return none : Run Deployment (Option LoggerId)).outcome e :=
    fun e out => Run.outcome_bind_of_ok (outcome_getLogger_of_some out none usualLevel) _
  obtain ⟨apart, kept, yields⟩ := idleFrom_nothing spares d
  refine ⟨fun g same => ?_, ?_, ?_⟩
  · rw [goesOn d out, goesOn (d.withFacility g) (same.trans out)]
    exact apart g same
  · rwa [goesOn d out]
  · rwa [goesOn d out]

end Idle

namespace LogCall

variable {d : Deployment} {c : LogCall}

/-- A call that idles neither asks for an object nor sets the log up. -/
theorem idleFrom_run (idle : c.isIdle d.facility.handedOut = true) : Run.IdleFrom d c.run := by
  cases c with
  | setup directory level => cases idle
  | make directory level => cases idle
  | get directory level =>
    obtain ⟨id, out⟩ := Option.isSome_iff_exists.mp idle
    have gets : ∀ e : Deployment, e.facility.handedOut = some id →
        (get directory level).run.outcome e = (.ok (some id), e) := by
      intro e out
      rw [run, Run.outcome_map, outcome_getLogger_of_some out]
      rfl
    refine ⟨fun g same => ?_, ?_, fun other yielded => ?_⟩
    · rw [gets d out, gets (d.withFacility g) (same.trans out)]
    · rw [gets d out]
    · rw [gets d out] at yielded
      cases yielded
      exact out
  | setLevel level =>
    obtain ⟨id, out⟩ := Option.isSome_iff_exists.mp idle
    have sets := idleFrom_following (sparesFacility_setThreshold level) out
    rwa [← bind_assoc] at sets
  | adjust level =>
    have adjusts := idleFrom_nothing (sparesFacility_setThreshold level) d
    rwa [bind_assoc] at adjusts
  | log row values =>
    obtain ⟨id, out⟩ := Option.isSome_iff_exists.mp idle
    exact idleFrom_following (sparesFacility_log row values) out
  | write row values => exact idleFrom_nothing (sparesFacility_log row values) d
  | enableDebug enabled => exact idleFrom_nothing (sparesFacility_enableDebug enabled) d
  | elsewhere files environment terminal =>
    exact ⟨fun _ _ => rfl, rfl, fun _ yielded => by cases yielded⟩

end LogCall

/-! ### Seeing other numbers -/

/-- What is seen of deployments that differ in the numbers of their objects differs in them. -/
theorem echoes_renamed {ρ : LoggerId → LoggerId} {d k : Deployment}
    (renamed : Deployment.Renamed ρ d k) (calls : List LogCall) :
    echoes k calls = (echoes d calls).map (Echo.rename ρ) := by
  induction calls generalizing d k with
  | nil => rfl
  | cons c calls ih =>
    obtain ⟨same, left⟩ := c.matching_run ρ d k renamed
    have journals : (c.run.outcome k).2.host.journal = (c.run.outcome d).2.host.journal := by
      obtain ⟨g, eq, -⟩ := left
      rw [eq]
      rfl
    have answers : (c.run.outcome k).1 = (c.run.outcome d).1.map (Option.map ρ) := by
      generalize (c.run.outcome d).1 = r, (c.run.outcome k).1 = r' at same
      cases same with
      | answers same => rw [same]; rfl
      | stopped => rfl
    rw [echoes, echoes, List.map_cons, ih left]
    exact congrArg (· :: _) (congr (congrArg Echo.mk answers) journals)

namespace LogFacility

variable {f : LogFacility} {made : Nat} {old id : LoggerId}

/-- The facility after a set-up that failed: it has a new object, which is not set up. -/
def failed (f : LogFacility) : LogFacility := f.dropped.filled

/-- An object that was made before, other than one that was never set up. -/
def Known (f : LogFacility) (id : LoggerId) : Prop :=
  id.index < f.made ∧ (f.isSetUp = false → f.single ≠ some id)

/-- The number that an object has if one more was made at some time. -/
def shift (made : Nat) (id : LoggerId) : LoggerId :=
  if id.index < made then id else ⟨id.index + 1⟩

/-- The same, if the one more stands for an older one. -/
def swap (made : Nat) (old id : LoggerId) : LoggerId :=
  if id = old then ⟨made⟩ else shift made id

theorem shift_of_lt (below : id.index < made) : shift made id = id := if_pos below

theorem shift_of_le (above : made ≤ id.index) : shift made id = ⟨id.index + 1⟩ :=
  if_neg (Nat.not_lt.mpr above)

/-- Shifting keeps objects apart. -/
theorem shift_injective (made : Nat) : Function.Injective (shift made) := by
  rintro ⟨i⟩ ⟨j⟩ same
  simp only [shift] at same
  split at same <;> split at same <;> simp only [LoggerId.mk.injEq] at same ⊢ <;> omega

/-- Swapping keeps objects apart. -/
theorem swap_injective (made : Nat) (old : LoggerId) : Function.Injective (swap made old) := by
  intro a b same
  have misses : ∀ c, shift made c ≠ ⟨made⟩ := by
    rintro ⟨i⟩ hits
    simp only [shift] at hits
    split at hits <;> simp only [LoggerId.mk.injEq] at hits <;> omega
  unfold swap at same
  split at same
  · next here =>
    split at same
    · next there => rw [here, there]
    · next there => exact absurd same.symm (misses b)
  · next here =>
    split at same
    · next there => exact absurd same (misses a)
    · exact shift_injective made same

/-- The object that was handed out keeps its name when later ones are shifted. -/
theorem map_shift (orderly : f.Orderly) : f.handedOut.map (shift f.made) = f.handedOut := by
  cases out : f.handedOut with
  | none => rfl
  | some id => exact congrArg some (shift_of_lt (orderly.handedOut id out))

/-- Once the log is set up anew, one more object was made. -/
theorem renamed_dropped (orderly : f.Orderly) :
    f.dropped.Renamed (shift f.made) f.failed.dropped where
  single := rfl
  isSetUp := rfl
  handedOut := (map_shift orderly).symm
  fresh i := by
    have above : shift f.made ⟨f.made + i⟩ = ⟨f.made + i + 1⟩ := shift_of_le (Nat.le_add_right ..)
    simpa [failed, LogFacility.filled, LogFacility.dropped, Nat.add_right_comm] using above

/-- If there was an object that was not set up, the new one stands for it. -/
theorem renamed_failed (orderly : f.Orderly) (down : f.isSetUp = false)
    (there : f.single = some old) : f.Renamed (swap f.made old) f.failed where
  single := by
    rw [there]
    simp [failed, LogFacility.filled, LogFacility.next, LogFacility.dropped, swap]
  isSetUp := down.symm
  handedOut := by
    have apart := orderly.apart down old there
    cases out : f.handedOut with
    | none => exact out
    | some id =>
      have other : id ≠ old := fun same => apart (same ▸ out)
      refine out.trans (congrArg some ?_)
      rw [swap, if_neg other, shift_of_lt (orderly.handedOut id out)]
  fresh i := by
    have below := orderly.single old there
    have other : (⟨f.made + i⟩ : LoggerId) ≠ old := by
      rintro rfl
      exact absurd below (Nat.not_lt.mpr (Nat.le_add_right ..))
    rw [swap, if_neg other, shift_of_le (Nat.le_add_right ..)]
    simp [failed, LogFacility.filled, LogFacility.dropped, Nat.add_right_comm]

end LogFacility

/-! ### After the failure -/

namespace Deployment

open LogFacility (shift swap failed)

variable {d : Deployment} {calls : List LogCall}

/-- If the log was not set up and there was no object, the one left behind is the next one. -/
theorem outcome_makeLogger_filled (down : d.facility.isSetUp = false) (directory : Option String)
    (level : String) :
    (makeLogger directory level).outcome (d.withFacility d.facility.filled) =
      (makeLogger directory level).outcome d := by
  have down' : (d.withFacility d.facility.filled).facility.isSetUp = false := down
  rw [outcome_makeLogger_of_not down, outcome_makeLogger_of_not down', sparesFacility_setUpLog]
  rcases (setUpLog directory level).outcome d with ⟨stop | _, k⟩
  · rfl
  · rfl

/-- Whether a new object was made before makes no difference to what is handed out. -/
theorem outcome_getLogger_filled (down : d.facility.isSetUp = false)
    (absent : d.facility.handedOut = none) (directory : Option String) (level : String) :
    (getLogger directory level).outcome (d.withFacility d.facility.filled) =
      (getLogger directory level).outcome d := by
  have absent' : (d.withFacility d.facility.filled).facility.handedOut = none := absent
  rw [outcome_getLogger_of_none absent, outcome_getLogger_of_none absent', handingOut,
    Run.outcome_bind, Run.outcome_bind, outcome_makeLogger_filled down]

end Deployment

/-- A call that makes an object takes the one left behind for the next one. -/
theorem LogCall.outcome_run_filled {d : Deployment} {c : LogCall}
    (down : d.facility.isSetUp = false) (notSetup : c.isSetup = false)
    (busy : c.isIdle d.facility.handedOut = false) :
    c.run.outcome (d.withFacility d.facility.filled) = c.run.outcome d := by
  have gets := fun absent => outcome_getLogger_filled down (Option.isNone_iff_eq_none.mp absent)
  cases c with
  | setup directory level => cases notSetup
  | make directory level =>
    rw [run, Run.outcome_map, Run.outcome_map, outcome_makeLogger_filled down]
  | get directory level =>
    rw [run, Run.outcome_map, Run.outcome_map, gets (Option.isSome_eq_false_iff.mp busy)]
  | setLevel level =>
    rw [run, Deployment.setLevel, bind_assoc, Run.outcome_bind, Run.outcome_bind,
      gets (Option.isSome_eq_false_iff.mp busy)]
  | log row values =>
    rw [run, Run.outcome_bind, Run.outcome_bind, gets (Option.isSome_eq_false_iff.mp busy)]
  | adjust level => cases busy
  | write row values => cases busy
  | enableDebug enabled => cases busy
  | elsewhere files environment terminal => cases busy

theorem echoes_setup (directory : Option String) (level : String) (d : Deployment)
    (calls : List LogCall) :
    echoes (d.withFacility d.facility.dropped) (.setup directory level :: calls) =
      echoes d (.setup directory level :: calls) := rfl

theorem Echo.map_rename_id (seen : List Echo) : seen.map (Echo.rename id) = seen := by
  have same : ∀ o : Echo, o.rename id = o := by
    rintro ⟨answer, journal⟩
    cases answer with
    | error stop => rfl
    | ok yielded => cases yielded <;> rfl
  rw [show Echo.rename id = id from funext same, List.map_id]

/-- An idle call yields at most the object that was handed out, which has its number still. -/
theorem echoes_cons_of_idle {d : Deployment} {c : LogCall} {calls : List LogCall}
    {ρ : LoggerId → LoggerId} (orderly : d.facility.Orderly)
    (idle : c.isIdle d.facility.handedOut = true)
    (fixes : ∀ id, id.index < d.facility.made → ρ id = id)
    (seen : echoes ((c.run.outcome d).2.withFacility d.facility.failed) calls =
      (echoes (c.run.outcome d).2 calls).map (Echo.rename ρ)) :
    echoes (d.withFacility d.facility.failed) (c :: calls) =
      (echoes d (c :: calls)).map (Echo.rename ρ) := by
  obtain ⟨apart, -, yields⟩ := LogCall.idleFrom_run idle
  have answer : (c.run.outcome d).1 = (c.run.outcome d).1.map (Option.map ρ) := by
    rcases ended : (c.run.outcome d).1 with stop | _ | id
    · rfl
    · rfl
    · have known := fixes id (orderly.handedOut id (yields id ended))
      exact congrArg (Except.ok ∘ some) known.symm
  rw [echoes, echoes, List.map_cons, apart d.facility.failed rfl, seen]
  exact congrArg (fun a => Echo.mk a _ :: _) answer

/-- Unless there was an object that was not set up, what is seen differs at most in the objects
that are made after the log is set up anew. -/
theorem exists_renaming_of_absent {d : Deployment} {calls : List LogCall}
    (orderly : d.facility.Orderly)
    (absent : d.facility.isSetUp = false → d.facility.single = none)
    (waits : d.facility.isSetUp = true → LogCall.Wait d.facility.handedOut calls) :
    ∃ ρ, Function.Injective ρ ∧ (∀ id, id.index < d.facility.made → ρ id = id) ∧
      echoes (d.withFacility d.facility.failed) calls =
        (echoes d calls).map (Echo.rename ρ) := by
  -- by induction on the calls as long as they are idle
  induction calls generalizing d with
  | nil => exact ⟨id, Function.injective_id, fun _ _ => rfl, rfl⟩
  | cons c calls ih =>
    cases idle : c.isIdle d.facility.handedOut with
    | true =>
      have kept := (LogCall.idleFrom_run idle).kept
      have waits' : (c.run.outcome d).2.facility.isSetUp = true →
          LogCall.Wait (c.run.outcome d).2.facility.handedOut calls := by
        rw [kept]
        intro up
        rcases waits up with setup | ⟨-, rest⟩
        · cases c with
          | setup directory level => cases idle
          | _ => cases setup
        · exact rest
      obtain ⟨ρ, injective, fixes, seen⟩ :=
        ih (d := (c.run.outcome d).2) (kept.symm ▸ orderly) (kept.symm ▸ absent) waits'
      rw [kept] at fixes seen
      exact ⟨ρ, injective, fixes, echoes_cons_of_idle orderly idle fixes seen⟩
    | false =>
      cases setup : c.isSetup with
      | true =>
        cases c with
        | setup directory level =>
          refine ⟨_, LogFacility.shift_injective d.facility.made, fun id below => ?_, ?_⟩
          · exact LogFacility.shift_of_lt below
          · rw [← echoes_setup, ← echoes_setup]
            exact echoes_renamed (d := d.withFacility d.facility.dropped)
              ⟨d.facility.failed.dropped, rfl, LogFacility.renamed_dropped orderly⟩ _
        | _ => cases setup
      | false =>
        have down : d.facility.isSetUp = false := by
          cases up : d.facility.isSetUp with
          | false => rfl
          | true =>
            rcases waits up with isSetup | ⟨isIdle, -⟩
            · exact absurd (setup.symm.trans isSetup) Bool.false_ne_true
            · exact absurd (idle.symm.trans isIdle) Bool.false_ne_true
        have next : d.facility.failed = d.facility.filled := by
          have dropped : d.facility.dropped = d.facility := by
            rw [LogFacility.dropped, ← absent down, ← down]
          rw [LogFacility.failed, dropped]
        refine ⟨id, Function.injective_id, fun _ _ => rfl, ?_⟩
        rw [Echo.map_rename_id, next, echoes, LogCall.outcome_run_filled down setup idle]
        rfl

/-- After a set-up that failed calls come to what they come to without it, up to the numbers of new
objects, if the log was not set up; and if it was, then if no object is made before it is set up
anew. -/
theorem exists_renaming {d : Deployment} {calls : List LogCall} (orderly : d.facility.Orderly)
    (waits : d.facility.isSetUp = true → LogCall.Wait d.facility.handedOut calls) :
    ∃ ρ, Function.Injective ρ ∧ (∀ id, d.facility.Known id → ρ id = id) ∧
      echoes (d.withFacility d.facility.failed) calls =
        (echoes d calls).map (Echo.rename ρ) := by
  by_cases behind : d.facility.isSetUp = false ∧ d.facility.single ≠ none
  · obtain ⟨down, there⟩ := behind
    obtain ⟨old, there⟩ := Option.ne_none_iff_exists'.mp there
    refine ⟨_, LogFacility.swap_injective d.facility.made old, fun id known => ?_, ?_⟩
    · have other : id ≠ old := fun same => known.2 down (same ▸ there)
      rw [LogFacility.swap, if_neg other, LogFacility.shift_of_lt known.1]
    · exact echoes_renamed ⟨_, rfl, LogFacility.renamed_failed orderly down there⟩ calls
  · have absent : d.facility.isSetUp = false → d.facility.single = none :=
      fun down => Decidable.not_not.mp fun there => behind ⟨down, there⟩
    obtain ⟨ρ, injective, fixes, seen⟩ := exists_renaming_of_absent orderly absent waits
    exact ⟨ρ, injective, fun id known => fixes id known.1, seen⟩

/-! ### A set-up that fails -/

namespace Deployment

variable {d : Deployment} {directory : Option String} {level : String} {e : Files.FileError}

/-- If the directory cannot be made, a set-up fails for that reason, and only the files and the
facility are not what they were. -/
theorem outcome_setupLogger_of_blocked (blocked : blocked? directory d.files = some e) :
    (setupLogger directory level).outcome d = (.error (.fault (.file e)),
      withFacility d.facility.failed
        { d with files := ((setupLogger directory level).outcome d).2.files }) := by
  have down : (d.withFacility d.facility.dropped).facility.isSetUp = false := rfl
  have here : blocked? directory (d.withFacility d.facility.dropped).files = some e := blocked
  have sets := setsUp_setUpLog directory level (d.withFacility d.facility.dropped)
  rw [outcome_setupLogger, handingOut, Run.outcome_bind, outcome_makeLogger_of_not down]
  generalize (setUpLog directory level).outcome (d.withFacility d.facility.dropped) = came at sets
  cases sets with
  | blocked blocks =>
    rw [here] at blocks
    cases blocks
    rfl
  | unnamed free => simp [here] at free
  | unopened free => simp [here] at free
  | done free => simp [here] at free

/-- A set-up whose directory cannot be made fails, and leaves the log and the object that is handed
out as they were. Calls afterwards come to what they would have come to, and yield the objects that
there were, if the log had not been set up, or if no object is made before it is set up anew. But if
it had been set up, an object that is made sets it up once more, and is a new one. -/
theorem failed_setup_leaves_log (depth : Nat) (loader : Yaml.Loader) (files : Files.Tree)
    (environment : Environment) (day : String) (before : List LogStep)
    (blocked : blocked? directory
      (afterSteps depth (start loader files environment day) before).files = some e) :
    let d := afterSteps depth (start loader files environment day) before
    let k := ((setupLogger directory level).outcome d).2
    ((setupLogger directory level).outcome d).1 = .error (.fault (.file e)) ∧
    k.host = d.host ∧ k.facility.handedOut = d.facility.handedOut ∧
    (∀ calls, (d.facility.isSetUp = true → LogCall.Wait d.facility.handedOut calls) →
      ∃ ρ, Function.Injective ρ ∧ (∀ id, d.facility.Known id → ρ id = id) ∧
        echoes k calls =
          (echoes { d with files := k.files } calls).map (Echo.rename ρ)) ∧
    (d.facility.isSetUp = true → ∀ directory level,
      ((makeLogger directory level).outcome k).2.host =
        ((setUpLog directory level).outcome k).2.host ∧
      ∀ id, ((makeLogger directory level).outcome k).1 = .ok id → ¬ d.facility.Known id) := by
  intro d k
  have failed : (setupLogger directory level).outcome d = _ := outcome_setupLogger_of_blocked blocked
  have left : k = withFacility d.facility.failed { d with files := k.files } :=
    congrArg Prod.snd failed
  have orderly : d.facility.Orderly :=
    orderly_afterSteps depth before (orderly_start loader files environment day)
  refine ⟨congrArg Prod.fst failed, ?_, ?_, fun calls waits => ?_, fun up directory level => ?_⟩
  · rw [left]
    rfl
  · rw [left]
    rfl
  · rw [left]
    exact exists_renaming (d := { d with files := k.files }) orderly waits
  · have down : k.facility.isSetUp = false := by rw [left]; rfl
    have next : k.facility.next = ⟨d.facility.made⟩ := by rw [left]; rfl
    rw [outcome_makeLogger_of_not down]
    rcases (setUpLog directory level).outcome k with ⟨stop | _, l⟩
    · exact ⟨rfl, fun id yielded => by cases yielded⟩
    · refine ⟨rfl, fun id yielded known => ?_⟩
      cases yielded
      rw [next] at known
      exact Nat.lt_irrefl _ known.1

/-- A process with a file where a directory is asked for. -/
def withPlainFile : Deployment :=
  start Yaml.load ((Files.Tree.empty.put (.ofString "blocked") []).1) .empty "20250101"

def warningsOnly : List LogStep := [.call (.setup (some "logs") "WARNING")]

/-- A plain file cannot be made a directory. -/
theorem plain_file_blocks :
    blocked? (some "blocked") (afterSteps 0 withPlainFile warningsOnly).files =
      some ⟨.alreadyThere, "blocked"⟩ := by
  decide +kernel

/-- Calls that make no object before they set up the log anew. -/
def patientCalls : List LogCall := [.get none usualLevel, .setLevel "ERROR", .setup none "DEBUG"]

/-- The log for warnings stays as it was after a set-up failed, until the next object is made. -/
theorem failed_setup_leaves_warnings :
    let d := afterSteps 0 withPlainFile warningsOnly
    let k := ((setupLogger (some "blocked") usualLevel).outcome d).2
    blocked? (some "blocked") d.files = some ⟨.alreadyThere, "blocked"⟩ ∧
    ((setupLogger (some "blocked") usualLevel).outcome d).1 =
      .error (.fault (.file ⟨.alreadyThere, "blocked"⟩)) ∧
    (k.host = d.host ∧ k.host.journal.threshold = 30 ∧ k.facility.handedOut = some ⟨0⟩) ∧
    (∃ ρ, Function.Injective ρ ∧ ρ ⟨0⟩ = ⟨0⟩ ∧ echoes k patientCalls =
      (echoes { d with files := k.files } patientCalls).map (Echo.rename ρ)) ∧
    ((makeLogger none usualLevel).outcome k).2.host.journal.threshold = 20 := by
  intro d k
  obtain ⟨fails, host, handedOut, seen, anew⟩ :=
    failed_setup_leaves_log 0 Yaml.load _ .empty "20250101" warningsOnly plain_file_blocks
  have up : (afterSteps 0 withPlainFile warningsOnly).facility.isSetUp = true := by decide +kernel
  have out : (afterSteps 0 withPlainFile warningsOnly).facility.handedOut = some ⟨0⟩ := by
    decide +kernel
  refine ⟨plain_file_blocks, fails, ⟨host, ?_, handedOut.trans out⟩, ?_, ?_⟩
  · decide +kernel
  · have waits : LogCall.Wait (some ⟨0⟩) patientCalls :=
      .inr ⟨rfl, .inr ⟨rfl, .inl rfl⟩⟩
    obtain ⟨ρ, injective, fixes, same⟩ := seen patientCalls fun _ => out.symm ▸ waits
    have known : (afterSteps 0 withPlainFile warningsOnly).facility.Known ⟨0⟩ :=
      ⟨by decide +kernel, fun down => absurd (up.symm.trans down) (by decide)⟩
    exact ⟨ρ, injective, fixes _ known, same⟩
  · refine (congrArg (fun h => h.journal.threshold) (anew up none usualLevel).1).trans ?_
    decide +kernel

/-- After a set-up that failed, an object that is made can change the threshold. -/
theorem failed_setup_is_felt :
    ¬ ∀ (depth : Nat) (files : Files.Tree) (environment : Environment) (day : String)
      (before : List LogStep) (directory : Option String) (level : String) (e : Files.FileError),
      blocked? directory
        (afterSteps depth (start Yaml.load files environment day) before).files = some e →
      let d := afterSteps depth (start Yaml.load files environment day) before
      let k := ((setupLogger directory level).outcome d).2
      ∀ calls, echoes k calls = echoes { d with files := k.files } calls := by
  intro unfelt
  have same := unfelt 0 _ .empty "20250101" warningsOnly _ usualLevel _ plain_file_blocks
    [.make none usualLevel]
  have thresholds := congrArg (List.map fun o => o.journal.threshold) same
  have unequal : ¬ (echoes ((setupLogger (some "blocked") usualLevel).outcome
        (afterSteps 0 withPlainFile warningsOnly)).2 [.make none usualLevel]).map
        (fun o => o.journal.threshold) =
      (echoes { afterSteps 0 withPlainFile warningsOnly with
        files := ((setupLogger (some "blocked") usualLevel).outcome
          (afterSteps 0 withPlainFile warningsOnly)).2.files } [.make none usualLevel]).map
        (fun o => o.journal.threshold) := by decide +kernel
  exact unequal thresholds

end Deployment

end FeatureChoice
