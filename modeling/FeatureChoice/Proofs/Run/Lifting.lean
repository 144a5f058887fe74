import FeatureChoice.Proofs.Run.Comparison
/-!
Runs on the host inside a larger state. What host code does through the features of a host it does
to the host inside a state, whatever that state holds besides.

* `lifting`: to be another run on the host inside, as a comparison.
* `Host.over_accessFrom`: the access from a larger state is that of the host inside, so all that is
  made of it is.
-/

namespace FeatureChoice

variable {σ α β : Type} [Hosted σ]

namespace Run

variable [LawfulHosted σ]

theorem onHost_pure (a : α) : ((pure a : Run Host α).onHost : Run σ α) = pure a := by
  apply Run.ext
  intro s
  simp

theorem onHost_throw (stop : Stop) :
    ((throw stop : Run Host α).onHost : Run σ α) = throw stop := by
  apply Run.ext
  intro s
  simp

theorem onHost_bind (x : Run Host α) (next : α → Run Host β) :
    ((x >>= next).onHost : Run σ β) = x.onHost >>= fun a => (next a).onHost := by
  apply Run.ext
  intro s
  rw [outcome_onHost, outcome_bind, outcome_bind, outcome_onHost]
  obtain ⟨result, h⟩ := x.outcome (Hosted.host s)
  cases result with
  | ok a => simp
  | error stop => rfl

omit [LawfulHosted σ] in
theorem onHost_attempt (x : Run Host α) : (x.attempt.onHost : Run σ _) = x.onHost.attempt := by
  apply Run.ext
  intro s
  rw [outcome_onHost, outcome_attempt, outcome_attempt, outcome_onHost]
  obtain ⟨result, h⟩ := x.outcome (Hosted.host s)
  cases result with
  | ok a => rfl
  | error stop => cases stop <;> rfl

end Run

/-- To be another run on the host inside, as a comparison. -/
def lifting [LawfulHosted σ] : Comparison σ Host where
  Rel x y := x = y.onHost
  pure a := (Run.onHost_pure a).symm
  throw stop := (Run.onHost_throw stop).symm
  bind := by
    rintro _ _ _ y _ next' rfl goesOn
    rw [Run.onHost_bind, funext goesOn]
  attempt := by
    rintro _ _ y rfl
    exact (Run.onHost_attempt y).symm
  neutral _ := rfl

/-- Access from a state with a host inside is the lifted access of the host. -/
theorem Host.over_accessFrom [LawfulHosted σ] (depth : Nat) :
    (lifting : Comparison σ Host).Over (Host.accessFrom depth) (Host.access depth) :=
  ⟨fun _ _ => rfl, fun _ _ _ _ => rfl⟩

end FeatureChoice
