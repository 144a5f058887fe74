import FeatureChoice.Proofs.Selection.Descent
import FeatureChoice.Selection.Resolve
/-!
Coupled runs. From related states two runs come to related answers, or stop in the same way, and
leave related states again. The runs need not do the same, nor as much as each other.

* `Run.Coupled`, with its laws for sequencing (`Coupled.bind`, `Coupled.attempt`).
* `Coupled.descend`, `Coupled.selectBy`, `Coupled.resolve`: evaluations whose guards are coupled.
* `Run.Similar`: the runs that come to equal answers.
* `Beside`: related states with the same thing kept on the side.
-/

namespace FeatureChoice

variable {σ τ γ α β α' β' : Type}

/-- How two runs end together: with related answers, or by the same stop, which has to be one of
these. -/
inductive SameEnd (stops : Stop → Prop) (Q : α → β → Prop) :
    Except Stop α → Except Stop β → Prop where
  | answers {a b} (related : Q a b) : SameEnd stops Q (.ok a) (.ok b)
  | stopped {stop} (allowed : stops stop) : SameEnd stops Q (.error stop) (.error stop)

/-- How two attempts end together. -/
inductive SameTry (Q : α → β → Prop) : Except Fault α → Except Fault β → Prop where
  | answers {a b} (related : Q a b) : SameTry Q (.ok a) (.ok b)
  | fault (f : Fault) : SameTry Q (.error f) (.error f)

/-- A stop other than that probes kept calling each other. -/
def Stop.IsFault (stop : Stop) : Prop := ∃ f, stop = .fault f

/-- From related states the runs end together and leave related states. -/
def Run.Coupled (stops : Stop → Prop) (R : σ → τ → Prop) (Q : α → β → Prop) (x : Run σ α)
    (y : Run τ β) : Prop :=
  ∀ s t, R s t →
    SameEnd stops Q (x.outcome s).1 (y.outcome t).1 ∧ R (x.outcome s).2 (y.outcome t).2

variable {stops : Stop → Prop}

theorem SameEnd.mono {P Q : α → β → Prop} {r : Except Stop α} {r' : Except Stop β}
    (same : SameEnd stops P r r') (weaker : ∀ a b, P a b → Q a b) : SameEnd stops Q r r' := by
  cases same with
  | answers related => exact .answers (weaker _ _ related)
  | stopped allowed => exact .stopped allowed

/-- Ends with equal results are equal. -/
theorem SameEnd.eq {r r' : Except Stop α} (same : SameEnd stops Eq r r') : r = r' := by
  cases same with
  | answers related => rw [related]
  | stopped allowed => rfl

theorem SameTry.eq {r r' : Except Fault α} (same : SameTry Eq r r') : r = r' := by
  cases same with
  | answers related => rw [related]
  | fault f => rfl

namespace Run.Coupled

variable {R : σ → τ → Prop} {Q : α → β → Prop} {Q' : α' → β' → Prop}

theorem pure {a : α} {b : β} (related : Q a b) : Coupled stops R Q (Pure.pure a) (Pure.pure b) :=
  fun _ _ states => ⟨.answers related, states⟩

theorem throw {stop : Stop} (allowed : stops stop) :
    Coupled stops R Q (throw stop : Run σ α) (throw stop : Run τ β) :=
  fun _ _ states => ⟨.stopped allowed, states⟩

theorem modify {f : σ → σ} {g : τ → τ} (keeps : ∀ s t, R s t → R (f s) (g t)) :
    Coupled stops R Eq (modify f : Run σ PUnit) (modify g) :=
  fun s t states => ⟨.answers rfl, keeps s t states⟩

theorem bind {x : Run σ α} {y : Run τ β} {next : α → Run σ α'} {next' : β → Run τ β'}
    (first : Coupled stops R Q x y) (rest : ∀ a b, Q a b → Coupled stops R Q' (next a) (next' b)) :
    Coupled stops R Q' (x >>= next) (y >>= next') := by
  intro s t states
  obtain ⟨same, left⟩ := first s t states
  rcases ended : x.outcome s with ⟨result, s'⟩
  rcases ended' : y.outcome t with ⟨result', t'⟩
  rw [ended, ended'] at same left
  cases same with
  | answers related =>
    rw [outcome_bind_of_ok ended, outcome_bind_of_ok ended']
    exact rest _ _ related s' t' left
  | stopped allowed =>
    rw [outcome_bind_of_error ended, outcome_bind_of_error ended']
    exact ⟨.stopped allowed, left⟩

theorem bind_eq {x : Run σ α} {y : Run τ α} {next : α → Run σ α'} {next' : α → Run τ β'}
    (first : Coupled stops R Eq x y) (rest : ∀ a, Coupled stops R Q' (next a) (next' a)) :
    Coupled stops R Q' (x >>= next) (y >>= next') := by
  refine first.bind ?_
  rintro a _ rfl
  exact rest a

theorem map {x : Run σ α} {y : Run τ α} (coupled : Coupled stops R Eq x y) (f : α → β) :
    Coupled stops R Eq (f <$> x) (f <$> y) := by
  rw [← bind_pure_comp, ← bind_pure_comp]
  exact coupled.bind_eq fun a => pure rfl

/-- Attempts are coupled if what they attempt is. -/
theorem attempt {x : Run σ α} {y : Run τ β} (coupled : Coupled stops R Q x y) :
    Coupled stops R (SameTry Q) x.attempt y.attempt := by
  intro s t states
  obtain ⟨same, left⟩ := coupled s t states
  rcases ended : x.outcome s with ⟨result, s'⟩
  rcases ended' : y.outcome t with ⟨result', t'⟩
  rw [ended, ended'] at same left
  rw [outcome_attempt, outcome_attempt, ended, ended']
  cases same with
  | answers related => exact ⟨.answers (.answers related), left⟩
  | @stopped stop allowed =>
    cases stop with
    | fault f => exact ⟨.answers (.fault f), left⟩
    | unfinished => exact ⟨.stopped allowed, left⟩

/-- A coupling can be weakened in what it says of the results. -/
theorem mono {P : α → β → Prop} {x : Run σ α} {y : Run τ β} (coupled : Coupled stops R P x y)
    (weaker : ∀ a b, P a b → Q a b) : Coupled stops R Q x y := by
  intro s t states
  obtain ⟨same, left⟩ := coupled s t states
  exact ⟨same.mono weaker, left⟩

theorem attempt_eq {x : Run σ α} {y : Run τ α} (coupled : Coupled stops R Eq x y) :
    Coupled stops R Eq x.attempt y.attempt :=
  coupled.attempt.mono fun _ _ same => same.eq

/-- Ways down a tree are coupled if what is asked on them is. -/
theorem descend {ask : String → Run σ Bool} {ask' : String → Run τ Bool}
    (asked : ∀ feature, Coupled stops R Eq (ask feature) (ask' feature)) (t : Expression.Term) :
    Coupled stops R Eq (t.descend ask) (t.descend ask') := by
  induction t with
  | leaf name => exact pure rfl
  | guarded feature t u iht ihu =>
    refine (asked feature).bind_eq fun b => ?_
    cases b with
    | false => exact ihu.bind_eq fun _ => pure rfl
    | true => exact iht.bind_eq fun _ => pure rfl

section Evaluations

variable [Hosted σ] [Hosted τ]
  (aside : ∀ f : Host → Host, (∀ h id, (f h).cache id = h.cache id) →
    Coupled stops R Eq (Host.change f).onHost (Host.change f).onHost)

include aside

/-- Evaluations are coupled if their guards are, and the caches are all that matters of a host. -/
theorem selectBy {ask : FeatureName → Run σ Bool} {ask' : FeatureName → Run τ Bool}
    (asked : ∀ name, Coupled stops R Eq (ask name) (ask' name)) (expression : String) :
    Coupled stops R Eq (selectBy ask expression) (FeatureChoice.selectBy ask' expression) := by
  have traced := fun row => aside (·.trace row) fun h id => Host.cache_trace h row id
  rw [selectBy_eq_descend, selectBy_eq_descend]
  refine (descend (fun feature => ?_) _).bind_eq fun found => ?_
  · exact (asked _).bind_eq fun b => (traced _).bind_eq fun _ => pure rfl
  · exact (traced _).bind_eq fun _ => pure rfl

/-- So are resolutions if their continuations are. -/
theorem resolve {via : Access σ} {via' : Access τ} {id : CacheId}
    (asked : ∀ name, Coupled stops R Eq (via.ask id name) (via'.ask id name)) (expression : String)
    {onResolved : String → Run σ Unit} {onResolved' : String → Run τ Unit}
    {onUnresolved : Run σ Unit} {onUnresolved' : Run τ Unit}
    (resolved : ∀ name, Coupled stops R Eq (onResolved name) (onResolved' name))
    (unresolved : Coupled stops R Eq onUnresolved onUnresolved') :
    Coupled stops R Eq (via.resolve (some id) expression onResolved onUnresolved)
      (via'.resolve (some id) expression onResolved' onUnresolved') := by
  have said := fun message => aside (·.log ⟨.debug, resolveLogger, message⟩) fun _ _ => rfl
  refine (selectBy aside asked expression).bind_eq fun s => ?_
  refine (said (resolvedMessage s)).bind_eq fun _ => ?_
  cases s.identifier with
  | none => exact unresolved.bind_eq fun _ => pure rfl
  | some name => exact (resolved name).bind_eq fun _ => pure rfl

end Evaluations

end Run.Coupled

/-! ### Similar runs -/

/-- From related states the runs come to the same result and leave related states. -/
def Run.Similar (R : σ → τ → Prop) (x : Run σ α) (y : Run τ α) : Prop :=
  ∀ s t, R s t → (x.outcome s).1 = (y.outcome t).1 ∧ R (x.outcome s).2 (y.outcome t).2

namespace Run.Similar

variable {R : σ → τ → Prop}

/-- Similar runs are coupled by the equality of results, whatever stops them. -/
theorem iff_coupled {x : Run σ α} {y : Run τ α} :
    Similar R x y ↔ Coupled (fun _ => True) R Eq x y := by
  refine ⟨fun similar s t states => ?_, fun coupled s t states => ?_⟩
  · obtain ⟨same, left⟩ := similar s t states
    refine ⟨?_, left⟩
    rw [same]
    cases (y.outcome t).1 with
    | ok a => exact .answers rfl
    | error stop => exact .stopped trivial
  · obtain ⟨same, left⟩ := coupled s t states
    exact ⟨same.eq, left⟩

theorem pure (a : α) : Similar R (Pure.pure a) (Pure.pure a) := fun _ _ states => ⟨rfl, states⟩

theorem throw (stop : Stop) : Similar R (throw stop : Run σ α) (throw stop) :=
  fun _ _ states => ⟨rfl, states⟩

theorem bind {x : Run σ α} {y : Run τ α} {next : α → Run σ β} {next' : α → Run τ β}
    (first : Similar R x y) (rest : ∀ a, Similar R (next a) (next' a)) :
    Similar R (x >>= next) (y >>= next') := by
  rw [iff_coupled] at first ⊢
  exact first.bind_eq fun a => iff_coupled.mp (rest a)

theorem attempt {x : Run σ α} {y : Run τ α} (similar : Similar R x y) :
    Similar R x.attempt y.attempt := by
  rw [iff_coupled] at similar ⊢
  exact similar.attempt_eq

end Run.Similar

/-! ### Something kept on the side -/

/-- Related states with the same thing beside them. -/
def Beside (R : σ → τ → Prop) (s : σ × γ) (t : τ × γ) : Prop := R s.1 t.1 ∧ s.2 = t.2

/-- Similar runs on hosts are similar beside anything else. -/
theorem Run.Similar.onHost {R : Host → Host → Prop} {x y : Run Host α} (similar : Similar R x y) :
    Similar (Beside R) (x.onHost : Run (Host × γ) α) (y.onHost : Run (Host × γ) α) := by
  rintro ⟨h, kept⟩ ⟨h', kept'⟩ ⟨related, same⟩
  obtain ⟨result, left⟩ := similar h h' related
  exact ⟨result, left, same⟩

end FeatureChoice
