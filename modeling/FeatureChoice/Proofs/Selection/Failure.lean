import FeatureChoice.Proofs.Feature.Forcing
import FeatureChoice.Proofs.Number.DigitLimit
import FeatureChoice.Proofs.Selection.Asking
import FeatureChoice.Proofs.Selection.Signals
/-!
Names without a key, and probes that fail. A compound value names no feature: it can be asked for and
is not there, but nothing can be registered under it. An integer that cannot be written can neither
be asked for nor registered. A probe that fails is another matter, also if it fails for the reason
that it used such a name itself: what called it fails in the same way, and goes no further.

* `Host.register_stops_iff`: when registrations under a key fail.
* `Host.Rejects`: what comes of a name without a key, whatever is done under it.
* `failures_are_passed_on`: the failures of all operations on a cache.
* `registration_of_long_integer_fails`: a registration of a plain value that fails.
-/

namespace FeatureChoice

namespace Host

variable {h k : Host} {id : CacheId} {name : FeatureName} {stop : Stop} {o : Offer} {force : Bool}

/-- A registration under a key stops when the query does that it was asked to make, and where the
query stops. -/
theorem register_stops_iff (entered : (enter id name o force).outcome h = (.ok (), k))
    (depth : Nat) (now : Bool) (l : Host) :
    (register depth id name o now force).outcome h = (.error stop, l) ↔
      now = true ∧ (query depth id name).outcome k = (.error stop, l) := by
  rw [outcome_register entered]
  cases now with
  | false => simp
  | true =>
    rw [if_pos rfl, Run.outcome_map]
    rcases (query depth id name).outcome k with ⟨result, k'⟩
    cases result <;> simp [Except.map]

/-- Under a name without a key every reading operation comes to `answer`, every registration fails
with `fault`, whatever is offered and however, and nothing is changed. -/
structure Rejects (depth : Nat) (id : CacheId) (name : FeatureName) (h : Host)
    (answer : Except NoKey Bool) (fault : Fault) : Prop where
  query : (query depth id name).outcome h = (answer.mapError (.fault <| .ofNoKey ·), h)
  contains : (h.cache id).contains name = answer
  isPending : (h.cache id).isPending name = answer
  register : ∀ o now force,
    (register depth id name o now force).outcome h = (.error (.fault fault), h)

/-- A compound value is not there, and an integer that cannot be written cannot be looked for. -/
theorem rejects_of_error {e : NoKey} (unnamed : name.key = .error e) (depth : Nat) (id : CacheId)
    (h : Host) :
    h.Rejects depth id name (match e with
      | .compound _ => .ok false
      | .longInteger => .error .longInteger) (.ofNoKey e) := by
  have without : name.key? = none := by rw [FeatureName.key?, unnamed]; rfl
  have register := fun o now force => outcome_register_of_error unnamed depth id o now force h
  cases e with
  | compound kind =>
    have sought : name.sought = .ok none := by rw [FeatureName.sought, unnamed]
    refine ⟨?_, ?_, ?_, register⟩
    · rw [query_of_unnamed without, Host.unnamed, sought]
      rfl
    · rw [Cache.contains, sought]
      rfl
    · rw [Cache.isPending, sought]
      rfl
  | longInteger =>
    have sought : name.sought = .error .longInteger := by rw [FeatureName.sought, unnamed]
    refine ⟨?_, ?_, ?_, register⟩
    · rw [query_of_unnamed without, Host.unnamed, sought]
      rfl
    · rw [Cache.contains, sought]
      rfl
    · rw [Cache.isPending, sought]
      rfl

end Host

open Host in
/-- On every host, a compound value reads as a feature that is not there, without any probe and
without any change, and cannot be registered; that fails before anything is changed, whatever is
offered and however. Under an integer that cannot be written every operation fails, also without any
change. Under a key, a registration fails only if it is to query the feature and the query fails,
with the same fault, and leaves what the query leaves after the plain registration. A query fails
exactly if it calls a probe and the call fails, with the fault of the probe, be it of whatever kind;
and so does an evaluation of an expression if that happens at a guard on its way. Resolving and
loading fail with it and call no continuation. -/
theorem failures_are_passed_on [Hosted σ] [LawfulHosted σ] (depth : Nat) (id : CacheId)
    (name : FeatureName) (expression : String) (h : Host) (s : σ) :
    (match name.key with
    | .error (.compound kind) => h.Rejects depth id name (.ok false) (.unkeyed kind)
    | .error .longInteger => h.Rejects depth id name (.error .longInteger) .longInteger
    | .ok key =>
      (∀ k stop l, (query depth id name).outcome k = (.error stop, l) ↔
        ∃ p, (k.cache id).find? key = some (.pending p) ∧
          (call depth id p).outcome k = (.error stop, l)) ∧
        ∀ o force, ∃ k, (register depth id name o false force).outcome h = (.ok none, k) ∧
          h.Puts id ((h.cache id).offer key o force) k ∧
          ∀ now stop l, (register depth id name o now force).outcome h = (.error stop, l) ↔
            now = true ∧ (query depth id name).outcome k = (.error stop, l)) ∧
    (∀ stop l, (select depth id expression).outcome h = (.error stop, l) ↔
      ∃ guard k p, h.AsksAt depth id expression guard k ∧
        (k.cache id).find? (.text guard) = some (.pending p) ∧
        (call depth id p).outcome k = (.error stop, l)) ∧
    ∀ stop l, (select depth id expression).outcome (Hosted.host s) = (.error stop, l) →
      ∀ onResolved onUnresolved require loaded,
        (resolve depth (some id) expression onResolved onUnresolved).outcome s =
            (.error stop, Hosted.withHost l s) ∧
          (load depth id expression require loaded).outcome s =
            (.error stop, Hosted.withHost l s) := by
  refine ⟨?_, select_stops_iff depth id expression h, ?_⟩
  · match named : name.key with
    | .error (.compound kind) => exact rejects_of_error named depth id h
    | .error .longInteger => exact rejects_of_error named depth id h
    | .ok key =>
      have key? : name.key? = some key := FeatureName.key?_eq_some_iff.mpr named
      refine ⟨fun k stop l => query_stops_iff key? depth, fun o force => ?_⟩
      obtain ⟨k, entered, puts⟩ := puts_enter named h id o force
      refine ⟨k, outcome_register entered depth false, puts, ?_⟩
      intro now stop l
      exact register_stops_iff entered depth now l
  · intro stop l stopped onResolved onUnresolved require loaded
    constructor
    · exact outcome_resolve_of_stopped stopped
    · exact outcome_resolve_of_stopped stopped

/-- A probe that registers something under a list fails, and this is not taken for a query under a
list. -/
theorem failures_are_passed_on_unkeyed :
    let h := pendingHost "canvas"
      (.register (.compound .list) (.bool true) false (.finish (.bool true)))
    let k := ((Host.query 1 ⟨0⟩ (.text "canvas")).outcome h).2
    let fault : Stop := .fault (.unkeyed .list)
    (Host.query 1 ⟨0⟩ (.compound .list)).outcome h = (.ok false, h) ∧
      (Host.query 1 ⟨0⟩ (.text "canvas")).outcome h = (.error fault, k) ∧
      (Host.select 1 ⟨0⟩ "canvas?a:b").outcome h = (.error fault, k) ∧
      (resolve 1 (some ⟨0⟩) "canvas?a:b" (fun _ => pure ()) (pure ())).outcome h =
        (.error fault, k) := by
  intro h k fault
  have unnamed := (failures_are_passed_on 1 ⟨0⟩ (.compound .list) "" h h).1
  obtain ⟨named, selects, resolves⟩ :=
    failures_are_passed_on 1 ⟨0⟩ (.text "canvas") "canvas?a:b" h h
  have called : ∃ p, (h.cache ⟨0⟩).find? (.text "canvas") = some (.pending p) ∧
      (Host.call 1 ⟨0⟩ p).outcome h = (.error fault, k) := ⟨_, rfl, rfl⟩
  have parsed : Expression.parse "canvas?a:b" =
      .guarded "canvas" (.leaf (some "a")) (.leaf (some "b")) := by decide +kernel
  have selected : (Host.select 1 ⟨0⟩ "canvas?a:b").outcome h = (.error fault, k) := by
    obtain ⟨p, pending, stops⟩ := called
    refine (selects fault k).mpr ⟨"canvas", h, p, ?_, pending, stops⟩
    rw [Host.AsksAt, parsed]
    exact ⟨[], _, _, .here⟩
  refine ⟨unnamed.query, (named.1 h fault k).mpr called, selected, ?_⟩
  exact (resolves fault k selected _ _ (fun _ _ => pure ()) fun _ => pure ()).1

/-- A registration of a plain value under an integer fails, if the integer cannot be written,
although no probe is called and an integer is no compound value. -/
theorem registration_of_long_integer_fails :
    FeatureName.overlong.compound? = none ∧
      (Host.register 1 ⟨0⟩ .overlong (.value (.bool true)) false false).outcome Host.empty =
        (.error (.fault .longInteger), Host.empty) :=
  ⟨rfl, Host.register_overlong 1 ⟨0⟩ (.value (.bool true)) false false Host.empty⟩

end FeatureChoice
