import FeatureChoice.Proofs.Run.Invariant
import FeatureChoice.Proofs.Selection.Agreement
/-!
The debug trace of an evaluation. If probes evaluate no expressions themselves, the rows that an
evaluation writes are one for each guard, in the order in which the guards were asked and each after
its answer was known, and one for the selection, unless a guard stops the evaluation. Apart from the
rows, nothing depends on whether there is a trace.

* `Script.Confined`: scripts that evaluate no expressions, and register no probes that do.
* `Host.ownRows`: the rows that were written; modules write under names of their own.
* `Host.Hears`, `Host.unheard_query`: a query of a host that writes the trace writes no rows.
* `Host.Answered`: how the guards on a way through a tree are answered, with a row after each.
* `Host.select_traced`: the rows of an evaluation, and what it comes to without them.
-/

namespace FeatureChoice

open Expression (Term)

/-! ### Probes that evaluate nothing -/

/-- A script that evaluates no expressions; nor does a probe that it registers. -/
def Script.Confined : Script → Prop
  | .finish _ => True
  | .fail _ _ => True
  | .look _ next => ∀ seen, (next seen).Confined
  | .assign _ _ next => next.Confined
  | .query _ next => ∀ b, (next b).Confined
  | .register _ _ _ next => next.Confined
  | .registerProbe _ _ _ body _ next => (∀ context, (body context).Confined) ∧ next.Confined
  | .setMarkup _ next => next.Confined
  | .append _ next => next.Confined
  | .reset next => ∀ b, (next b).Confined
  | .select _ _ => False
  | .attempt first next => first.Confined ∧ ∀ result, (next result).Confined

/-- What is offered evaluates no expressions. -/
def Offer.Confined : Offer → Prop
  | .value _ => True
  | .probe p => ∀ context, (p.body context).Confined

/-- The probes that a cache has yet to run evaluate no expressions. -/
def Cache.Confined (c : Cache) : Prop :=
  ∀ key p, c.find? key = some (.pending p) → (Offer.probe p).Confined

/-- A confined script offers confined probes and evaluates nothing. -/
theorem Script.Confined.limited {script : Script} (confined : script.Confined) :
    script.Limited Offer.Confined False := by
  induction script with
  | finish answer => trivial
  | fail kind message => trivial
  | look view next ih => exact fun seen => ih seen (confined seen)
  | assign name value next ih => exact ih confined
  | query name next ih => exact fun b => ih b (confined b)
  | register name value force next ih => exact ⟨trivial, ih confined⟩
  | registerProbe name label title body force next _ ih => exact ⟨confined.1, ih confined.2⟩
  | setMarkup markup next ih => exact ih confined
  | append child next ih => exact ih confined
  | reset next ih => exact fun b => ih b (confined b)
  | select expression next ih => exact confined.elim
  | attempt first next ihFirst ihNext =>
    exact ⟨ihFirst confined.1, fun result => ihNext result (confined.2 result)⟩

namespace Cache.Confined

variable {c : Cache} {key : Key}

theorem new (context : Context) : (Cache.new context).Confined := by
  intro key p pending
  cases pending

/-- A confined entry leaves a cache confined. -/
theorem store (confined : c.Confined) {e : Entry}
    (stored : ∀ p, e = .pending p → (Offer.probe p).Confined) : (c.store key e).Confined := by
  intro other p pending
  rw [find?_store] at pending
  split at pending
  · exact stored p (Option.some.inj pending)
  · exact confined other p pending

theorem remove (confined : c.Confined) : (c.remove key).Confined := by
  intro other p pending
  rw [find?_remove] at pending
  split at pending
  · cases pending
  · exact confined other p pending

/-- A confined offer leaves a cache confined. -/
theorem offer (confined : c.Confined) {o : Offer} (offered : o.Confined) (force : Bool) :
    (c.offer key o force).Confined := by
  unfold Cache.offer
  split
  · exact confined
  · split
    · exact confined.remove
    · refine confined.store fun p eq => ?_
      cases o with
      | value v => cases eq
      | probe p' =>
        cases eq
        exact offered

end Cache.Confined

/-! ### Rows -/

namespace Host

variable {h k : Host} {row : Log.Row}

/-- The rows that were written under the library's own name. -/
def ownRows (h : Host) : List Log.Row :=
  (h.journal.notes.map Log.Note.row).filter (·.logger = Log.rootLogger)

/-- A message of another logger is none of the own rows. -/
theorem ownRows_log_of_ne (other : row.logger ≠ Log.rootLogger) :
    (h.log row).ownRows = h.ownRows := by
  cases accepted : h.journal.accepts row with
  | false => rw [log, Log.Journal.emit_of_not_accepts accepted]
  | true =>
    obtain ⟨note, same, notes⟩ := Log.Journal.notes_emit accepted
    simp [ownRows, log, notes, same, other]

/-- A message of the own logger that passes the threshold is the last of the own rows. -/
theorem ownRows_log (own : row.logger = Log.rootLogger) (accepted : h.journal.accepts row = true) :
    (h.log row).ownRows = h.ownRows ++ [row] := by
  obtain ⟨note, same, notes⟩ := Log.Journal.notes_emit accepted
  simp [ownRows, log, notes, same, own]

theorem ownRows_say (message : String) :
    (h.log ⟨.debug, cacheLogger, message⟩).ownRows = h.ownRows := by
  have module : cacheLogger ≠ Log.rootLogger := by decide +kernel
  exact ownRows_log_of_ne module

/-- A log with this threshold lets every row of the trace through. -/
theorem accepts_row {j : Log.Journal} (all : j.threshold = Log.Severity.debug.number)
    (expression : Option String) (message : String) (fields : List (String × String)) :
    j.accepts (Trace.row expression message fields) = true := by
  have own : Log.isOwn Log.rootLogger = true := by decide +kernel
  simp [Log.Journal.accepts, Trace.row, own, Log.Journal.effective, all, Log.Severity.number]

/-! ### Hosts that write the trace -/

/-- A host that writes the debug trace, when the probes that a cache has yet to run evaluate no
expressions, nor those of the workspace. -/
structure Hears (id : CacheId) (h : Host) : Prop where
  tracing : h.tracing = true
  threshold : h.journal.threshold = Log.Severity.debug.number
  confined : (h.cache id).Confined
  works : ∀ w, h.workspace = some w → (h.cache w).Confined

/-- A host that still writes the trace, and has written no rows. -/
structure Unheard (id : CacheId) (h k : Host) : Prop where
  hears : k.Hears id
  workspace : k.workspace = h.workspace
  ownRows : k.ownRows = h.ownRows

variable {id other : CacheId} {expression : String}

namespace Hears

theorem log (hears : h.Hears id) (row : Log.Row) : (h.log row).Hears id :=
  ⟨hears.tracing, (h.journal.threshold_emit row).trans hears.threshold, hears.confined, hears.works⟩

/-- On a host that hears, every row is logged. -/
theorem trace (hears : h.Hears id) (row : Log.Row) : h.trace row = h.log row := by
  rw [Host.trace, if_pos hears.tracing]

/-- On a host that hears, a row is the last of the own rows. -/
theorem ownRows_row (hears : h.Hears id) (expression : Option String) (message : String)
    (fields : List (String × String)) :
    (h.log (Trace.row expression message fields)).ownRows =
      h.ownRows ++ [Trace.row expression message fields] :=
  ownRows_log rfl (accepts_row hears.threshold expression message fields)

/-- A host goes on hearing when a cache is set to a confined one. -/
theorem setCache (hears : h.Hears id) {c : Cache} (confined : c.Confined) :
    (h.setCache other c).Hears id := by
  have every : ∀ i, (h.cache i).Confined → ((h.setCache other c).cache i).Confined := by
    intro i before
    rw [cache_setCache]
    split
    · exact confined
    · exact before
  exact ⟨hears.tracing, hears.threshold, every id hears.confined,
    fun w named => every w (hears.works w named)⟩

end Hears

namespace Unheard

theorem refl (hears : h.Hears id) : h.Unheard id h := ⟨hears, rfl, rfl⟩

/-- What is unheard keeps to the rule for host code that evaluates nothing. -/
theorem rule (id : CacheId) (h : Host) : Rule (h.Unheard id) h.workspace False where
  workspace _ unheard := unheard.workspace
  aside k l caches workspace journal tracing unheard := by
    have same : ∀ i, l.cache i = k.cache i := fun i => by rw [cache, cache, caches]
    obtain ⟨hears, named, rows⟩ := unheard
    refine ⟨⟨?_, ?_, ?_, fun w there => ?_⟩, workspace.trans named, ?_⟩
    · exact tracing.trans hears.tracing
    · rw [journal]
      exact hears.threshold
    · rw [same]
      exact hears.confined
    · rw [same]
      exact hears.works w (workspace.symm.trans there)
    · rw [Host.ownRows, journal]
      exact rows
  trace never := never.elim

theorem setCache (unheard : h.Unheard id k) {c : Cache} (confined : c.Confined) :
    h.Unheard id (k.setCache other c) :=
  ⟨unheard.hears.setCache confined, unheard.workspace, unheard.ownRows⟩

theorem say (unheard : h.Unheard id k) (message : String) :
    h.Unheard id (k.log ⟨.debug, cacheLogger, message⟩) :=
  ⟨unheard.hears.log _, unheard.workspace, (ownRows_say message).trans unheard.ownRows⟩

/-- Of the caches that are asked all probes are confined. -/
theorem of_used (unheard : h.Unheard id k) (used : other = id ∨ h.workspace = some other) :
    (k.cache other).Confined := by
  rcases used with rfl | named
  · exact unheard.hears.confined
  · exact unheard.hears.works other (unheard.workspace.trans named)

/-- Entering a confined offer is unheard. -/
theorem enter (used : other = id ∨ h.workspace = some other) (name : FeatureName) {o : Offer}
    (offered : o.Confined) (force : Bool) :
    Run.Keeps (h.Unheard id) (enter other name o force) := by
  apply keeps_enter
  · exact fun message k unheard => unheard.say message
  · exact fun key k unheard => unheard.setCache ((unheard.of_used used).offer offered force)

/-- Keeping an answer is unheard. -/
theorem keep (used : other = id ∨ h.workspace = some other) (key : Key) (b : Bool) :
    Run.Keeps (h.Unheard id) (keep other key b) := by
  apply keeps_keep
  · exact fun message k unheard => unheard.say message
  · intro k unheard
    exact unheard.setCache ((unheard.of_used used).store fun p eq => by cases eq)

end Unheard

/-- A query runs probes and writes no rows. -/
theorem unheard_query (hears : h.Hears id) (depth : Nat) (name : FeatureName) :
    h.Unheard id ((query depth id name).outcome h).2 := by
  have entered : ∀ i, (i = id ∨ h.workspace = some i) → ∀ name o force, Offer.Confined o →
      Run.Keeps (h.Unheard id) (enter i name o force) :=
    fun i used name o force offered => Unheard.enter used name offered force
  have kept : ∀ i, (i = id ∨ h.workspace = some i) → ∀ key b,
      Run.Keeps (h.Unheard id) (keep i key b) := fun i used key b => Unheard.keep used key b
  refine (Unheard.rule id h).query (fun w named => .inr named) entered kept ?_ depth (.inl rfl) name
    h (.refl hears)
  intro k unheard i used key p pending context
  exact (unheard.of_used used key p pending context).limited

/-! ### Guards -/

/-- How the guards on a way through a tree are answered: each is asked by a query, which writes no
rows, and its own row is written after that. -/
inductive Answered (depth : Nat) (id : CacheId) (expression : String) :
    Term → Host → List Decision → Term → Host → Prop where
  | here {t h} : Answered depth id expression t h [] t h
  | guard {feature t u h b k ds rest l}
    (asked : (query depth id (.text feature)).outcome h = (.ok b, k))
    (unheard : k.ownRows = h.ownRows)
    (goesOn : Answered depth id expression (if b then t else u)
      (k.log (Trace.guardRow expression ⟨feature, b⟩)) ds rest l) :
    Answered depth id expression (.guarded feature t u) h (⟨feature, b⟩ :: ds) rest l

variable {depth : Nat} {t rest : Term} {ds : List Decision}

/-- After the guards there is one row for each. -/
theorem Answered.rows (answered : Answered depth id expression t h ds rest k)
    (hears : h.Hears id) :
    k.Hears id ∧ k.ownRows = h.ownRows ++ ds.map (Trace.guardRow expression) := by
  induction answered with
  | here => exact ⟨hears, (List.append_nil _).symm⟩
  | @guard feature t u h b k ds rest l asked unheard goesOn ih =>
    have kept := unheard_query hears depth (.text feature)
    rw [asked] at kept
    obtain ⟨last, rows⟩ := ih (kept.hears.log _)
    refine ⟨last, rows.trans ?_⟩
    rw [Trace.guardRow, kept.hears.ownRows_row, unheard, List.append_assoc]
    rfl

/-- How a descent ends at this part of the tree, when it has made these decisions: at a leaf, or at
a guard that stops. -/
inductive EndsAt (depth : Nat) (id : CacheId) :
    Term → List Decision → Host → Except Stop (Option String × List Decision) × Host → Prop where
  | leaf {name ds k} : EndsAt depth id (.leaf name) ds k (.ok (name, ds), k)
  | stopped {feature t u ds k stop l}
    (stops : (query depth id (.text feature)).outcome k = (.error stop, l)) :
    EndsAt depth id (.guarded feature t u) ds k (.error stop, l)

/-- A way that ends below a guard ends with one decision more. -/
theorem EndsAt.cons {came : Except Stop (Option String × List Decision) × Host}
    (ends : EndsAt depth id rest ds k came) (d : Decision) :
    EndsAt depth id rest (d :: ds) k
      (came.1.map fun found => (found.1, d :: found.2), came.2) := by
  cases ends with
  | leaf => exact .leaf
  | stopped stops => exact .stopped stops

/-- A descent asks one guard after the other and writes a row for each. -/
theorem exists_answered (hears : h.Hears id) (depth : Nat) (expression : String) (t : Term) :
    ∃ ds rest k, Answered depth id expression t h ds rest k ∧
      EndsAt depth id rest ds k
        ((t.descend (tracedAsk (query depth id) expression)).outcome h) := by
  induction t generalizing h with
  | leaf name => exact ⟨[], .leaf name, h, .here, .leaf⟩
  | guarded feature t u iht ihu =>
    have kept := unheard_query hears depth (.text feature)
    rw [outcome_descend_guarded]
    rcases asked : (query depth id (.text feature)).outcome h with ⟨stop | b, k⟩
    · rw [tracedAsk, Run.outcome_bind_of_error asked]
      exact ⟨[], _, h, .here, .stopped asked⟩
    · rw [asked] at kept
      have goesOn : ∃ ds rest l, Answered depth id expression (if b then t else u)
            (k.log (Trace.guardRow expression ⟨feature, b⟩)) ds rest l ∧
          EndsAt depth id rest ds l
            (((if b then t else u).descend (tracedAsk (query depth id) expression)).outcome
              (k.log (Trace.guardRow expression ⟨feature, b⟩))) := by
        cases b with
        | false => exact ihu (kept.hears.log _)
        | true => exact iht (kept.hears.log _)
      obtain ⟨ds, rest, l, answered, ends⟩ := goesOn
      refine ⟨⟨feature, b⟩ :: ds, rest, l, .guard asked kept.ownRows answered, ?_⟩
      rw [← kept.hears.trace] at ends
      rw [tracedAsk, Run.outcome_bind_of_ok asked]
      exact ends.cons _

/-! ### Evaluations -/

/-- The rows of an evaluation: one for each guard that was answered, and one for the selection if it
comes to one. -/
def evaluationRows (expression : String) (ds : List Decision) (selected : Option Selection) :
    List Log.Row :=
  ds.map (Trace.guardRow expression) ++ (selected.map Trace.selectedRow).toList

/-- An evaluation is the descent through its tree, and the last row. -/
theorem outcome_select_of_descent (depth : Nat) (id : CacheId) (expression : String) (h : Host) :
    (select depth id expression).outcome h =
      match ((Expression.parse expression).descend
        (tracedAsk (query depth id) expression)).outcome h with
      | (.ok found, l) => (.ok ⟨expression, found.1, found.2⟩,
          l.trace (Trace.selectedRow ⟨expression, found.1, found.2⟩))
      | (.error stop, l) => (.error stop, l) := by
  show (selectBy (query depth id) expression).outcome h = _
  rw [selectBy_eq_descend, Run.outcome_bind]
  rcases ((Expression.parse expression).descend
    (tracedAsk (query depth id) expression)).outcome h with ⟨stop | found, l⟩
  · rfl
  · rfl

/-- All rows of an evaluation show its expression in front. -/
theorem exists_shown (expression : String) (ds : List Decision) {selected : Option Selection}
    (same : ∀ s, selected = some s → s.expression = expression) :
    ∀ row ∈ evaluationRows expression ds selected, ∃ shown,
      row.message = Trace.opening (some expression) ++ " " ++ shown := by
  intro row written
  rcases List.mem_append.mp written with guards | last
  · obtain ⟨d, -, rfl⟩ := List.mem_map.mp guards
    exact ⟨_, rfl⟩
  · cases selected with
    | none => cases last
    | some s =>
      obtain rfl := List.mem_singleton.mp last
      rw [← same s rfl]
      exact ⟨_, rfl⟩

/-- On a host that writes the debug trace, and with probes that evaluate no expressions, an
evaluation writes one row for each guard that it asks, after the answer is known and in the order of
the decisions, and a last row for its selection; all show the expression in front. If a guard stops
it, the rows are those of the guards before. Without the trace it comes to the same, and leaves a
host that differs in the log alone. -/
theorem select_traced (hears : h.Hears id) (depth : Nat) (expression : String) :
    let traced := (select depth id expression).outcome h
    let silent := (select depth id expression).outcome { h with tracing := false }
    (silent.1 = traced.1 ∧ traced.2.Alike silent.2) ∧
    ∃ ds rest k, Answered depth id expression (Expression.parse expression) h ds rest k ∧
      traced.2.ownRows = h.ownRows ++ evaluationRows expression ds traced.1.toOption ∧
      (∀ row ∈ evaluationRows expression ds traced.1.toOption, ∃ shown,
        row.message = Trace.opening (some expression) ++ " " ++ shown) ∧
      match traced.1 with
      | .ok s => s = ⟨expression, s.value, ds⟩ ∧ rest = .leaf s.value ∧
          traced.2 = k.log (Trace.selectedRow s)
      | .error stop => ∃ feature t u, rest = .guarded feature t u ∧
          (query depth id (.text feature)).outcome k = (.error stop, traced.2) := by
  intro traced silent
  have alike : h.Alike { h with tracing := false } := ⟨h.journal, false, rfl⟩
  have agrees : Run.Agree (select depth id expression) (select depth id expression) :=
    (over_access depth).select id expression
  obtain ⟨same, left⟩ := agrees h _ alike
  refine ⟨⟨same.symm, left⟩, ?_⟩
  obtain ⟨ds, rest, k, answered, ends⟩ :=
    exists_answered hears depth expression (Expression.parse expression)
  obtain ⟨last, rows⟩ := answered.rows hears
  have came := outcome_select_of_descent depth id expression h
  generalize ((Expression.parse expression).descend
    (tracedAsk (query depth id) expression)).outcome h = went at came ends
  refine ⟨ds, rest, k, answered, ?_⟩
  cases ends with
  | @leaf name ds k =>
    have eq : traced = (.ok ⟨expression, name, ds⟩,
        k.log (Trace.selectedRow ⟨expression, name, ds⟩)) := by rw [← last.trace]; exact came
    rw [eq]
    refine ⟨?_, exists_shown expression ds fun s eq => ?_, rfl, rfl, rfl⟩
    · rw [Trace.selectedRow, last.ownRows_row, rows, List.append_assoc]
      rfl
    · cases eq
      rfl
  | @stopped feature t u ds k stop l stops =>
    have eq : traced = (.error stop, l) := came
    have kept := unheard_query last depth (.text feature)
    rw [stops] at kept
    rw [eq]
    refine ⟨?_, exists_shown expression ds fun s eq => ?_, feature, t, u, rfl, stops⟩
    · rw [kept.ownRows, rows, evaluationRows]
      simp [Except.toOption]
    · cases eq

/-- A host that writes the trace, with a feature that is not there and one that has to be probed. -/
def tracingHost : Host :=
  let probe : Probe := ⟨"y", "y", fun _ => .finish (.bool true)⟩
  let known := (Cache.new .plain).store (.text "x") (.resolved false)
  { empty.setCache ⟨0⟩ (known.store (.text "y") (.pending probe)) with
    workspace := some ⟨0⟩, tracing := true, journal := { Log.Journal.empty with threshold := 10 } }

/-- The probe of the second guard is called once, before the row of its guard. -/
theorem select_traced_to_probe :
    tracingHost.Hears ⟨0⟩ ∧
    let traced := (select 1 ⟨0⟩ "x?a:y?b:c").outcome tracingHost
    let silent := (select 1 ⟨0⟩ "x?a:y?b:c").outcome { tracingHost with tracing := false }
    (silent.1 = traced.1 ∧ traced.2.Alike silent.2) ∧
    traced.1.toOption = some ⟨"x?a:y?b:c", some "b", [⟨"x", false⟩, ⟨"y", true⟩]⟩ ∧
    traced.2.ownRows.map Log.Row.message =
      ["[expr:x?a:y?b:c] guard: feature='x', value=False",
        "[expr:x?a:y?b:c] guard: feature='y', value=True",
        "[expr:x?a:y?b:c] selected: value='b', guards=[x=F, y=T]"] := by
  have confined : (tracingHost.cache ⟨0⟩).Confined := by
    refine ((Cache.Confined.new .plain).store fun p eq => by cases eq).store fun p eq => ?_
    cases eq
    exact fun _ => trivial
  have hears : tracingHost.Hears ⟨0⟩ :=
    ⟨rfl, rfl, confined, fun w named => Option.some.inj named ▸ confined⟩
  have selected : ((select 1 ⟨0⟩ "x?a:y?b:c").outcome tracingHost).1.toOption =
      some ⟨"x?a:y?b:c", some "b", [⟨"x", false⟩, ⟨"y", true⟩]⟩ := by decide +kernel
  obtain ⟨same, ds, rest, k, -, rows, -, ends⟩ := select_traced hears 1 "x?a:y?b:c"
  refine ⟨hears, same, selected, ?_⟩
  rw [selected] at rows
  rcases came : ((select 1 ⟨0⟩ "x?a:y?b:c").outcome tracingHost).1 with stop | s
  · rw [came] at selected
    cases selected
  · rw [came] at selected ends
    cases selected
    obtain rfl : ds = [⟨"x", false⟩, ⟨"y", true⟩] := congrArg Selection.decisions ends.1.symm
    rw [rows]
    decide +kernel

end Host

end FeatureChoice
