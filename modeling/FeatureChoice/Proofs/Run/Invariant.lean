import FeatureChoice.Proofs.Run.Neutral
/-!
Invariants of host code. What host code does besides queries and registrations on the workspace
touches no cache, and it writes to the log only where an expression is evaluated. So a script keeps
a property of hosts as soon as these do; a script that registers nothing, or only what is harmless,
or evaluates nothing, keeps it more easily.

* `Script.Inquires`, `Script.Limited`: scripts that register nothing, and scripts that register only
  certain offers and may not evaluate expressions.
* `Run.Keeps`, with its laws for sequencing.
* `Host.keeps_enter`, `Host.keeps_keep`: what registrations and the storing of answers keep.
* `Host.Rule.script`, `Host.Rule.invoke`, `Host.Rule.query`: what a script, the call of a probe and
  a query keep.
* `Host.Invariant.script`, `Host.Invariant.invoke`: the same for properties that the log does not
  matter to.
-/

namespace FeatureChoice

variable {α β : Type}

/-- A script that registers nothing. It may query and select, look at what it likes, and do what it
likes to the element and the variables. -/
def Script.Inquires : Script → Prop
  | .finish _ => True
  | .fail _ _ => True
  | .look _ next => ∀ seen, (next seen).Inquires
  | .assign _ _ next => next.Inquires
  | .query _ next => ∀ b, (next b).Inquires
  | .register .. => False
  | .registerProbe .. => False
  | .setMarkup _ next => next.Inquires
  | .append _ next => next.Inquires
  | .reset next => ∀ b, (next b).Inquires
  | .select _ next => ∀ name, (next name).Inquires
  | .attempt first next => first.Inquires ∧ ∀ result, (next result).Inquires

/-- A script that registers only such offers, and evaluates expressions only if it may. -/
def Script.Limited (offers : Offer → Prop) (evaluates : Prop) : Script → Prop
  | .finish _ => True
  | .fail _ _ => True
  | .look _ next => ∀ seen, (next seen).Limited offers evaluates
  | .assign _ _ next => next.Limited offers evaluates
  | .query _ next => ∀ b, (next b).Limited offers evaluates
  | .register _ value _ next => offers (.value value) ∧ next.Limited offers evaluates
  | .registerProbe _ label title body _ next =>
    offers (.probe ⟨label, title, body⟩) ∧ next.Limited offers evaluates
  | .setMarkup _ next => next.Limited offers evaluates
  | .append _ next => next.Limited offers evaluates
  | .reset next => ∀ b, (next b).Limited offers evaluates
  | .select _ next => evaluates ∧ ∀ name, (next name).Limited offers evaluates
  | .attempt first next =>
    first.Limited offers evaluates ∧ ∀ result, (next result).Limited offers evaluates

namespace Script

variable {offers : Offer → Prop}

/-- Where everything may be offered, every script is limited. -/
theorem limited_of_all (all : ∀ o, offers o) (script : Script) : script.Limited offers True := by
  induction script with
  | finish answer => trivial
  | fail kind message => trivial
  | look view next ih => exact ih
  | assign name value next ih => exact ih
  | query name next ih => exact ih
  | register name value force next ih => exact ⟨all _, ih⟩
  | registerProbe name label title body force next _ ih => exact ⟨all _, ih⟩
  | setMarkup markup next ih => exact ih
  | append child next ih => exact ih
  | reset next ih => exact ih
  | select expression next ih => exact ⟨trivial, ih⟩
  | attempt first next ihFirst ihNext => exact ⟨ihFirst, ihNext⟩

/-- A script that only inquires is limited, whatever may be offered. -/
theorem Inquires.limited {script : Script} (inquires : script.Inquires) :
    script.Limited offers True := by
  induction script with
  | finish answer => trivial
  | fail kind message => trivial
  | look view next ih => exact fun seen => ih seen (inquires seen)
  | assign name value next ih => exact ih inquires
  | query name next ih => exact fun b => ih b (inquires b)
  | register name value force next ih => exact inquires.elim
  | registerProbe name label title body force next _ ih => exact inquires.elim
  | setMarkup markup next ih => exact ih inquires
  | append child next ih => exact ih inquires
  | reset next ih => exact fun b => ih b (inquires b)
  | select expression next ih => exact ⟨trivial, fun name => ih name (inquires name)⟩
  | attempt first next ihFirst ihNext =>
    exact ⟨ihFirst inquires.1, fun result => ihNext result (inquires.2 result)⟩

end Script

/-! ### Keeping a property -/

/-- However it ends, a run leaves a host with the property if it started from one. -/
def Run.Keeps (I : Host → Prop) (x : Run Host α) : Prop := ∀ h, I h → I (x.outcome h).2

namespace Run.Keeps

variable {I : Host → Prop}

theorem pure (a : α) : Keeps I (Pure.pure a) := fun _ held => held

theorem throw (stop : Stop) : Keeps I (throw stop : Run Host α) := fun _ held => held

theorem bind {x : Run Host α} {next : α → Run Host β} (first : Keeps I x)
    (rest : ∀ a, Keeps I (next a)) : Keeps I (x >>= next) := by
  intro h held
  have kept := first h held
  rcases ended : x.outcome h with ⟨result, k⟩
  rw [ended] at kept
  cases result with
  | ok a =>
    rw [outcome_bind_of_ok ended]
    exact rest a k kept
  | error stop =>
    rw [outcome_bind_of_error ended]
    exact kept

theorem attempt {x : Run Host α} (keeps : Keeps I x) : Keeps I x.attempt := by
  intro h held
  have kept := keeps h held
  rw [outcome_attempt]
  rcases ended : x.outcome h with ⟨result, k⟩
  rw [ended] at kept
  cases result with
  | ok a => exact kept
  | error stop =>
    cases stop with
    | fault f => exact kept
    | unfinished => exact kept

theorem look (f : Host → α) : Keeps I (Host.look f) := fun _ held => held

/-- What changes nothing keeps everything. -/
theorem of_unchanged {x : Run Host α} (same : ∀ h, (x.outcome h).2 = h) : Keeps I x := by
  intro h held
  rw [same]
  exact held

/-- A way down a tree keeps what asking a guard keeps. -/
theorem descend {ask : String → Run Host Bool} (asked : ∀ feature, Keeps I (ask feature))
    (t : Expression.Term) : Keeps I (t.descend ask) := by
  induction t with
  | leaf name => exact pure _
  | guarded feature t u iht ihu =>
    refine (asked feature).bind fun b => ?_
    cases b with
    | false => exact ihu.bind fun _ => pure _
    | true => exact iht.bind fun _ => pure _

/-- Looking a feature up keeps what settling it keeps wherever it is pending. -/
theorem lookUp {settling : Key → Probe → Run Host Bool} {id : CacheId}
    (settles : ∀ h, I h → ∀ key p, (h.cache id).find? key = some (.pending p) →
      I ((settling key p).outcome h).2) (name : FeatureName) :
    Keeps I (Host.lookUp settling id name) := by
  intro h held
  rw [Host.outcome_lookUp]
  rcases name.sought with e | _ | key
  · exact held
  · exact held
  · dsimp only
    split
    · exact held
    · exact held
    · next p found => exact settles h held key p found

end Run.Keeps

namespace Host

open Run (Keeps)

section Caches

variable {I : Host → Prop} {id : CacheId} (logs : ∀ message, Keeps I (say cacheLogger message))

include logs

/-- A registration keeps what the messages of caches and the offer keep. -/
theorem keeps_enter {o : Offer} {force : Bool}
    (puts : ∀ key h, I h → I (h.setCache id ((h.cache id).offer key o force)))
    (name : FeatureName) : Keeps I (enter id name o force) := by
  intro h held
  unfold enter
  cases name.key with
  | error kind => exact held
  | ok key =>
    dsimp only
    rw [Run.outcome_bind_of_ok (outcome_look _ h)]
    cases (h.cache id).entries.contains key && !force with
    | false => exact puts key h held
    | true => exact puts key _ (logs _ h held)

/-- Storing an answer keeps what the messages of caches and the change of the entry keep. -/
theorem keeps_keep {key : Key} {b : Bool}
    (stores : ∀ h, I h → I (h.setCache id ((h.cache id).store key (.resolved b)))) :
    Keeps I (keep id key b) :=
  Keeps.bind (fun h held => stores h held) fun _ => logs _

end Caches

/-! ### Rules -/

/-- A property of hosts with the same workspace that only the caches and the log matter to. Rows of
the debug trace keep it if expressions may be evaluated. -/
structure Rule (I : Host → Prop) (workspace : Option CacheId) (evaluates : Prop) : Prop where
  workspace : ∀ h, I h → h.workspace = workspace
  aside : ∀ h k : Host, k.caches = h.caches → k.workspace = h.workspace → k.journal = h.journal →
    k.tracing = h.tracing → I h → I k
  trace : evaluates → ∀ row, Keeps I (Host.change (·.trace row))

namespace Rule

variable {I : Host → Prop} {workspace : Option CacheId} {evaluates : Prop}
  (rule : Rule I workspace evaluates)

include rule

/-- What changes neither caches nor workspace nor log keeps such a property. -/
theorem change {f : Host → Host}
    (spares : ∀ h, (f h).caches = h.caches ∧ (f h).workspace = h.workspace ∧
      (f h).journal = h.journal ∧ (f h).tracing = h.tracing) : Keeps I (Host.change f) := by
  intro h held
  obtain ⟨caches, workspace, journal, tracing⟩ := spares h
  exact rule.aside h (f h) caches workspace journal tracing held

theorem acted (label : String) (action : Action) (result : Value) :
    Keeps I (Host.acted label action result) := rule.change fun _ => ⟨rfl, rfl, rfl, rfl⟩

theorem changeElement (e : ElementId) (f : Element → Element) :
    Keeps I (Host.changeElement e f) := rule.change fun _ => ⟨rfl, rfl, rfl, rfl⟩

theorem resetElement (id : CacheId) (element : Option ElementId) :
    Keeps I (Host.resetElement id element) := by
  refine (Keeps.look _).bind fun c => ?_
  cases element <|> c.context.element with
  | none => exact .pure none
  | some e => exact (rule.changeElement e _).bind fun _ => .pure (some e)

theorem selectBy {ask : FeatureName → Run Host Bool} (asked : ∀ name, Keeps I (ask name))
    (may : evaluates) (expression : String) : Keeps I (selectBy ask expression) := by
  rw [selectBy_eq_descend]
  refine Keeps.bind (.descend (fun feature => ?_) _) fun found => ?_
  · exact (asked _).bind fun b => Keeps.bind (rule.trace may _) fun _ => .pure b
  · exact Keeps.bind (rule.trace may _) fun _ => .pure _

/-- What is done with the workspace is done with the one that all these hosts have. -/
theorem theWorkspace {next : CacheId → Run Host α}
    (rest : ∀ id, workspace = some id → Keeps I (next id)) :
    Keeps I (Host.theWorkspace >>= next) := by
  intro h held
  have same := rule.workspace h held
  cases named : h.workspace with
  | none =>
    have stops : Host.theWorkspace.outcome h =
        (.error (.fault (.unknownCache workspaceName)), h) := by
      rw [outcome_theWorkspace, named]
    rw [Run.outcome_bind_of_error stops]
    exact held
  | some id =>
    have finds : Host.theWorkspace.outcome h = (.ok id, h) := by
      rw [outcome_theWorkspace, named]
    rw [Run.outcome_bind_of_ok finds]
    exact rest id (same.symm.trans named) h held

section Scripts

variable {via : Access Host} {offers : Offer → Prop}
  (asked : ∀ id, workspace = some id → ∀ name, Keeps I (via.ask id name))
  (entered : ∀ id, workspace = some id →
    ∀ name o force, offers o → Keeps I (via.enter id name o force))

include asked entered

/-- A limited script keeps what queries of the workspace and such registrations keep. -/
theorem script (script : Script) (label : String) (element : Option ElementId)
    (limited : ∀ id, workspace = some id → script.Limited offers evaluates) :
    Keeps I (script.run via label element) := by
  have acted := fun action result => rule.acted label action result
  induction script with
  | finish answer => exact .pure answer
  | fail kind message => exact .throw _
  | look view next ih =>
    have sees : Keeps I (Host.see element view) := .of_unchanged (unchanged_see element view)
    exact sees.bind fun seen => ih seen fun id named => limited id named seen
  | assign name value next ih =>
    have sets : Keeps I (Host.setVariable name value) := rule.change fun _ => ⟨rfl, rfl, rfl, rfl⟩
    exact sets.bind fun _ => ih limited
  | query name next ih =>
    refine rule.theWorkspace fun id named => (asked id named name).bind fun b => ?_
    exact (acted _ _).bind fun _ => ih b fun id named => limited id named b
  | register name value force next ih =>
    refine rule.theWorkspace fun id named => ?_
    refine (entered id named name _ force (limited id named).1).bind fun _ => ?_
    exact (acted _ _).bind fun _ => ih fun id named => (limited id named).2
  | registerProbe name inner title body force next _ ih =>
    refine rule.theWorkspace fun id named => ?_
    refine (entered id named name _ force (limited id named).1).bind fun _ => ?_
    exact (acted _ _).bind fun _ => ih fun id named => (limited id named).2
  | setMarkup markup next ih =>
    cases element with
    | none => exact .throw _
    | some e =>
      have acts := (acted .markup (.text markup)).bind fun _ => ih limited
      exact (rule.changeElement e (·.setMarkup markup)).bind fun _ => acts
  | append child next ih =>
    cases element with
    | none => exact .throw _
    | some e =>
      have acts := (acted .append child).bind fun _ => ih limited
      exact (rule.changeElement e (·.append child)).bind fun _ => acts
  | reset next ih =>
    refine rule.theWorkspace fun id _ => (rule.resetElement id element).bind fun _ => ?_
    exact (acted _ _).bind fun _ => ih _ fun id named => limited id named _
  | select expression next ih =>
    refine rule.theWorkspace fun id named => Keeps.bind ?_ fun s => ?_
    · exact rule.selectBy (asked id named) (limited id named).1 expression
    · exact (acted _ _).bind fun _ => ih _ fun id named => (limited id named).2 _
  | attempt first next ihFirst ihNext =>
    refine Keeps.bind (Keeps.attempt (ihFirst fun id named => ?_)) fun result => ?_
    · exact (limited id named).1
    · exact ihNext result fun id named => (limited id named).2 result

/-- The call of a probe keeps what its script keeps, if the script is limited. -/
theorem invoke (id : CacheId) (p : Probe)
    (limited : ∀ id, workspace = some id →
      ∀ context, (p.body context).Limited offers evaluates) :
    Keeps I (Host.invoke via id p) := by
  refine (Keeps.look fun h => (h.cache id).context).bind fun context => ?_
  have called : Keeps I (Host.change fun h => h.note (h.invocation p.label context)) :=
    rule.change fun _ => ⟨rfl, rfl, rfl, rfl⟩
  refine called.bind fun _ => Keeps.bind ?_ fun answer => .pure answer.truth
  exact rule.script asked entered (p.body context) p.label context.element fun id named =>
    limited id named context

end Scripts

/-- Queries of such caches keep what registrations on them and the storing of answers keep, as long
as all probes in them are limited; the workspace has to be such a cache. -/
theorem query {used : CacheId → Prop} {offers : Offer → Prop}
    (works : ∀ id, workspace = some id → used id)
    (entered : ∀ id, used id → ∀ name o force, offers o → Keeps I (enter id name o force))
    (kept : ∀ id, used id → ∀ key b, Keeps I (keep id key b))
    (limited : ∀ h, I h → ∀ id, used id → ∀ key p, (h.cache id).find? key = some (.pending p) →
      ∀ context, (p.body context).Limited offers evaluates)
    (depth : Nat) {id : CacheId} (uses : used id) (name : FeatureName) :
    Keeps I (Host.query depth id name) := by
  induction depth generalizing id name with
  | zero => exact .lookUp (fun _ held _ _ _ => held) name
  | succ depth ih =>
    refine .lookUp (fun h held key p found => ?_) name
    have called : Keeps I (Host.invoke ⟨Host.query depth, enter⟩ id p) :=
      rule.invoke (fun w named name => ih (works w named) name)
        (fun w named => entered w (works w named)) id p
        fun _ _ => limited h held id uses key p found
    exact (called.bind fun b => (kept id uses key b).bind fun _ => .pure b) h held

end Rule

end Host

/-! ### Invariants -/

namespace Host

open Run (Keeps)

/-- A property of hosts with the same workspace that nothing besides the caches matters to. -/
structure Invariant (I : Host → Prop) (workspace : Option CacheId) : Prop where
  workspace : ∀ h, I h → h.workspace = workspace
  aside : ∀ h k : Host, k.caches = h.caches → k.workspace = h.workspace → I h → I k

namespace Invariant

variable {I : Host → Prop} {workspace : Option CacheId} (invariant : Invariant I workspace)

include invariant

theorem rule : Rule I workspace True where
  workspace := invariant.workspace
  aside h k caches workspace _ _ held := invariant.aside h k caches workspace held
  trace _ row h held := by
    refine invariant.aside h (h.trace row) ?_ ?_ held <;>
    · unfold Host.trace
      split <;> rfl

theorem selectBy {ask : FeatureName → Run Host Bool} (asked : ∀ name, Keeps I (ask name))
    (expression : String) : Keeps I (selectBy ask expression) :=
  invariant.rule.selectBy asked trivial expression

variable {via : Access Host}
  (asked : ∀ id, workspace = some id → ∀ name, Keeps I (via.ask id name))

include asked

/-- A script keeps an invariant that queries of the workspace keep, if it registers nothing or
registrations keep it too. -/
theorem script (script : Script) (label : String) (element : Option ElementId)
    (entered : ∀ id, workspace = some id →
      script.Inquires ∨ ∀ name o force, Keeps I (via.enter id name o force)) :
    Keeps I (script.run via label element) := by
  -- either nothing may be offered to a workspace, or everything
  let offers : Offer → Prop := fun _ =>
    ∀ id, workspace = some id → ∀ name o force, Keeps I (via.enter id name o force)
  have enters : ∀ id, workspace = some id →
      ∀ name o force, offers o → Keeps I (via.enter id name o force) :=
    fun id named name o force all => all id named name o force
  refine invariant.rule.script asked enters script label element fun id named => ?_
  rcases entered id named with inquires | all
  · exact inquires.limited
  · refine Script.limited_of_all (fun o other named' => ?_) script
    obtain rfl := Option.some.inj (named.symm.trans named')
    exact all

/-- The call of a probe keeps an invariant, if the probe registers nothing or registering keeps it. -/
theorem invoke (id : CacheId) (p : Probe)
    (entered : ∀ id, workspace = some id → (∀ context, (p.body context).Inquires) ∨
      ∀ name o force, Keeps I (via.enter id name o force)) :
    Keeps I (Host.invoke via id p) := by
  refine (Keeps.look fun h => (h.cache id).context).bind fun context => ?_
  have called : Keeps I (Host.change fun h => h.note (h.invocation p.label context)) :=
    invariant.rule.change fun _ => ⟨rfl, rfl, rfl, rfl⟩
  refine called.bind fun _ => Keeps.bind ?_ fun answer => .pure answer.truth
  refine invariant.script asked (p.body context) p.label context.element fun id named => ?_
  exact (entered id named).imp_left fun inquires => inquires context

end Invariant

end Host

end FeatureChoice
