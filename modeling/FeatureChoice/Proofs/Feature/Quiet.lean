import FeatureChoice.Proofs.Run.Comparison
/-!
Host code that needs no access to features. What ends without any query and any registration ends in
the same way whatever access there is.

* `Access.barred`: no access, which leaves every query and every registration unfinished.
* `Run.Completes`: what ends without access to features ends in the same way with it
  (`over_barred`).
-/

namespace FeatureChoice

variable {σ α β : Type}

/-- No access to features: every query and every registration is left unfinished. -/
def Access.barred : Access σ := ⟨fun _ _ => throw .unfinished, fun _ _ _ _ => throw .unfinished⟩

/-! ### Runs that need no access -/

/-- A run does what another run does on the host inside, unless that one is left unfinished. -/
def Run.Completes [Hosted σ] (x : Run σ α) (y : Run Host α) : Prop :=
  ∀ s, (y.outcome (Hosted.host s)).1 = .error .unfinished ∨
    x.outcome s =
      ((y.outcome (Hosted.host s)).1, Hosted.withHost (y.outcome (Hosted.host s)).2 s)

namespace Run.Completes

variable [Hosted σ] [LawfulHosted σ]

theorem pure (a : α) : Completes (Pure.pure a : Run σ α) (Pure.pure a) := by
  intro s
  right
  simp

theorem throw (stop : Stop) : Completes (throw stop : Run σ α) (throw stop) := by
  intro s
  right
  simp

theorem bind {x : Run σ α} {y : Run Host α} {next : α → Run σ β} {next' : α → Run Host β}
    (first : Completes x y) (rest : ∀ a, Completes (next a) (next' a)) :
    Completes (x >>= next) (y >>= next') := by
  intro s
  rcases ended : y.outcome (Hosted.host s) with ⟨result, h⟩
  have went := first s
  rw [ended] at went
  rcases went with unfinished | went
  · left
    cases unfinished
    rw [outcome_bind_of_error ended]
  · cases result with
    | error stop =>
      right
      rw [outcome_bind_of_error went, outcome_bind_of_error ended]
    | ok a =>
      have goesOn := rest a (Hosted.withHost h s)
      rw [LawfulHosted.host_withHost, LawfulHosted.withHost_withHost] at goesOn
      rwa [outcome_bind_of_ok went, outcome_bind_of_ok ended]

omit [LawfulHosted σ] in
theorem attempt {x : Run σ α} {y : Run Host α} (completes : Completes x y) :
    Completes x.attempt y.attempt := by
  intro s
  rw [outcome_attempt, outcome_attempt]
  rcases ended : y.outcome (Hosted.host s) with ⟨result, h⟩
  have went := completes s
  rw [ended] at went
  rcases went with unfinished | went
  · left
    cases unfinished
    rfl
  · right
    rw [went]
    cases result with
    | ok a => rfl
    | error stop =>
      cases stop with
      | fault f => rfl
      | unfinished => rfl

end Run.Completes

/-- To do what the other run does on the host inside unless that one is left unfinished, as a
comparison. -/
def completion [Hosted σ] [LawfulHosted σ] : Comparison σ Host where
  Rel := Run.Completes
  pure := .pure
  throw := .throw
  bind := .bind
  attempt := .attempt
  neutral _ _ := .inr rfl

/-- What can be done without any access is completed with whatever access. -/
theorem over_barred [Hosted σ] [LawfulHosted σ] (via : Access σ) :
    (completion : Comparison σ Host).Over via .barred :=
  ⟨fun _ _ _ => .inl rfl, fun _ _ _ _ _ => .inl rfl⟩

end FeatureChoice
