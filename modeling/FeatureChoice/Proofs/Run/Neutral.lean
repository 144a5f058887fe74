import FeatureChoice.Feature.Bootstrap
import FeatureChoice.Proofs.Run.Coupling
/-!
Neutral runs. What host code does besides queries and registrations neither touches a cache nor
looks at the log.

* `Host.Alike`, `Run.Agree`: hosts that differ in the log, and runs that do the same to them.
* `Host.Neutral`: runs that agree with themselves and leave all caches as they are.
-/

namespace FeatureChoice

variable {α β : Type}

/-! ### Hosts that differ in the log -/

/-- Hosts that differ in nothing but the log and whether it is traced. -/
def Host.Alike (h h' : Host) : Prop :=
  ∃ journal tracing, h' = { h with journal := journal, tracing := tracing }

namespace Host.Alike

variable {h h' h'' : Host}

theorem refl (h : Host) : h.Alike h := ⟨h.journal, h.tracing, rfl⟩

theorem symm (alike : h.Alike h') : h'.Alike h := by
  obtain ⟨journal, tracing, rfl⟩ := alike
  exact ⟨h.journal, h.tracing, rfl⟩

theorem trans (alike : h.Alike h') (alike' : h'.Alike h'') : h.Alike h'' := by
  obtain ⟨journal, tracing, rfl⟩ := alike
  obtain ⟨journal', tracing', rfl⟩ := alike'
  exact ⟨journal', tracing', rfl⟩

theorem log (h : Host) (row : Log.Row) : h.Alike (h.log row) := ⟨_, h.tracing, rfl⟩

theorem trace (h : Host) (row : Log.Row) : h.Alike (h.trace row) := by
  unfold Host.trace
  split
  · exact log h row
  · exact refl h

end Host.Alike

/-- Runs that do the same to hosts that differ in the log. -/
def Run.Agree (x y : Run Host α) : Prop :=
  ∀ h h', h.Alike h' →
    (x.outcome h).1 = (y.outcome h').1 ∧ (x.outcome h).2.Alike (y.outcome h').2

namespace Run.Agree

theorem pure (a : α) : Agree (Pure.pure a) (Pure.pure a) := fun _ _ alike => ⟨rfl, alike⟩

theorem throw (stop : Stop) : Agree (throw stop : Run Host α) (throw stop) :=
  fun _ _ alike => ⟨rfl, alike⟩

theorem bind {x y : Run Host α} {next next' : α → Run Host β} (first : Agree x y)
    (rest : ∀ a, Agree (next a) (next' a)) : Agree (x >>= next) (y >>= next') :=
  Similar.bind first rest

theorem attempt {x y : Run Host α} (agree : Agree x y) : Agree x.attempt y.attempt :=
  Similar.attempt agree

/-- A change that does not look at the log agrees with itself. -/
theorem change {f : Host → Host}
    (keeps : ∀ h journal tracing,
      (f h).Alike (f { h with journal := journal, tracing := tracing })) :
    Agree (Host.change f) (Host.change f) := by
  rintro h _ ⟨journal, tracing, rfl⟩
  exact ⟨rfl, keeps h journal tracing⟩

/-- A row of the trace in front makes no difference. -/
theorem traced {x y : Run Host α} (row : Log.Row) (agree : Agree x y) :
    Agree (Host.change (·.trace row) >>= fun _ => x) y := by
  intro h h' alike
  exact agree (h.trace row) h' ((Host.Alike.trace h row).symm.trans alike)

end Run.Agree

/-! ### Neutral runs -/

namespace Host

/-- A run that leaves all caches as they are and does not depend on the log. -/
structure Neutral (x : Run Host α) : Prop where
  agree : Run.Agree x x
  cache : ∀ h id, (x.outcome h).2.cache id = h.cache id

theorem neutral_pure (a : α) : Neutral (pure a : Run Host α) := ⟨.pure a, fun _ _ => rfl⟩

theorem neutral_fail (f : Fault) : Neutral (Run.fail f : Run Host α) :=
  ⟨.throw _, fun _ _ => rfl⟩

theorem Neutral.bind {x : Run Host α} {next : α → Run Host β} (first : Neutral x)
    (rest : ∀ a, Neutral (next a)) : Neutral (x >>= next) where
  agree := first.agree.bind fun a => (rest a).agree
  cache h id := by
    have kept := first.cache h id
    rcases ended : x.outcome h with ⟨result, k⟩
    rw [ended] at kept
    cases result with
    | ok a =>
      rw [Run.outcome_bind_of_ok ended, (rest a).cache]
      exact kept
    | error stop =>
      rw [Run.outcome_bind_of_error ended]
      exact kept

theorem neutral_look {f : Host → α}
    (sees : ∀ h journal tracing, f h = f { h with journal := journal, tracing := tracing }) :
    Neutral (look f) where
  agree := by
    rintro h _ ⟨journal, tracing, rfl⟩
    exact ⟨congrArg Except.ok (sees h journal tracing), journal, tracing, rfl⟩
  cache _ _ := rfl

theorem neutral_change {f : Host → Host}
    (keeps : ∀ h journal tracing,
      (f h).Alike (f { h with journal := journal, tracing := tracing }))
    (cache : ∀ h id, (f h).cache id = h.cache id) : Neutral (change f) :=
  ⟨.change keeps, cache⟩

/-! ### What host code does -/

theorem neutral_cache (id : CacheId) : Neutral (look (·.cache id)) := neutral_look fun _ _ _ => rfl

theorem neutral_find (id : CacheId) (key : Key) :
    Neutral (look fun h => (h.cache id).find? key) := neutral_look fun _ _ _ => rfl

theorem neutral_context (id : CacheId) : Neutral (look fun h => (h.cache id).context) :=
  neutral_look fun _ _ _ => rfl

theorem neutral_defaultsOf (id : CacheId) : Neutral (look (·.defaultsOf id)) :=
  neutral_look fun _ _ _ => rfl

theorem neutral_theWorkspace : Neutral theWorkspace := by
  have sees : Neutral (look (·.workspace)) := neutral_look fun _ _ _ => rfl
  refine sees.bind fun w => ?_
  cases w with
  | none => exact neutral_fail _
  | some id => exact neutral_pure id

/-- Rows of the debug trace are neutral. -/
theorem neutral_trace (row : Log.Row) : Neutral (change (·.trace row)) := by
  refine neutral_change (fun h journal tracing => ?_) fun h id => cache_trace h row id
  have relogged : h.Alike { h with journal := journal, tracing := tracing } := ⟨_, _, rfl⟩
  exact (Alike.trace h row).symm.trans (relogged.trans (Alike.trace _ row))

theorem neutral_say (logger message : String) : Neutral (say logger message) :=
  neutral_change (fun _ _ tracing => ⟨_, tracing, rfl⟩) fun _ _ => rfl

theorem neutral_acted (label : String) (action : Action) (result : Value) :
    Neutral (acted label action result) :=
  neutral_change (fun _ journal tracing => ⟨journal, tracing, rfl⟩) fun _ _ => rfl

theorem neutral_invocation (label : String) (context : Context) :
    Neutral (change fun h => h.note (h.invocation label context)) :=
  neutral_change (fun _ journal tracing => ⟨journal, tracing, rfl⟩) fun _ _ => rfl

theorem neutral_changeElement (e : ElementId) (f : Element → Element) :
    Neutral (changeElement e f) :=
  neutral_change (fun _ journal tracing => ⟨journal, tracing, rfl⟩) fun _ _ => rfl

theorem neutral_readUnder (read : Cache → FeatureName → Except NoKey Bool) (id : CacheId)
    (name : FeatureName) : Neutral (readUnder read id name) := by
  refine (neutral_cache id).bind fun c => ?_
  cases read c name with
  | ok b => exact neutral_pure b
  | error e => exact neutral_fail _

/-- What a probe sees is no part of the log. -/
theorem neutral_see (element : Option ElementId) (view : View) : Neutral (see element view) := by
  cases view with
  | markup =>
    cases element with
    | none => exact neutral_fail _
    | some e => exact neutral_look fun _ _ _ => rfl
  | children =>
    cases element with
    | none => exact neutral_fail _
    | some e => exact neutral_look fun _ _ _ => rfl
  | contains name =>
    refine neutral_theWorkspace.bind fun id => ?_
    exact (neutral_readUnder _ id name).bind fun b => neutral_pure _
  | isPending name =>
    refine neutral_theWorkspace.bind fun id => ?_
    exact (neutral_readUnder _ id name).bind fun b => neutral_pure _
  | snapshot => exact neutral_theWorkspace.bind fun id => neutral_look fun _ _ _ => rfl
  | ambient name => exact neutral_look fun _ _ _ => rfl

theorem neutral_setVariable (name : String) (value : Value) : Neutral (setVariable name value) :=
  neutral_change (fun _ journal tracing => ⟨journal, tracing, rfl⟩) fun _ _ => rfl

theorem neutral_resetElement (id : CacheId) (element : Option ElementId) :
    Neutral (resetElement id element) := by
  refine (neutral_cache id).bind fun c => ?_
  cases element <|> c.context.element with
  | none => exact neutral_pure none
  | some e => exact (neutral_changeElement e _).bind fun _ => neutral_pure (some e)

end Host

end FeatureChoice
