import FeatureChoice.Proofs.Feature.Aloof
import FeatureChoice.Proofs.Number.DigitLimit
/-!
Features are independent. A step that names one feature of a cache reads and writes the entry of
this feature and no other, so each feature lives in a cell of its own, and what becomes of a cell
depends on the steps that name it and on what its probes find out. Probes may stop at faults, but
they leave their cache alone.

* `Step`, `takeSteps`: what a host does with single features, step by step.
* `Host.Reaches`, `Host.Secluded`, `Host.Constant`: where steps lead, that all probes on the way
  leave the cache alone, and that those of a feature always find out the same.
* `Cell`, `Step.onCell`: the life of one cell.
* `Step.outcome_run`: a step does to the cell that it names what it does to this cell alone, and
  leaves all others.
* `fate_eq`: so the answers about a feature and its last entry come from the steps that name it.
* `features_are_independent`: other steps can be deleted or moved, and features go by their
  normalised names.
* `features_share_the_host`: without constant probes other steps cannot be deleted.
-/

namespace FeatureChoice

/-! ### Steps -/

/-- What a host does with one feature of a cache. -/
inductive Step where
  /-- Query it, by the query operation or by calling the cache. -/
  | query (name : FeatureName)
  | contains (name : FeatureName)
  | isPending (name : FeatureName)
  | register (name : FeatureName) (o : Offer) (now force : Bool)

namespace Step

/-- The name by which a step knows its feature. -/
def name : Step → FeatureName
  | query name => name
  | contains name => name
  | isPending name => name
  | register name .. => name

/-- The step with the name normalised. -/
def normalize : Step → Step
  | query name => query name.normalize
  | contains name => contains name.normalize
  | isPending name => isPending name.normalize
  | register name o now force => register name.normalize o now force

/-- Whether a step names a feature. -/
def names (feature : FeatureName) (step : Step) : Bool := step.name.normalize = feature.normalize

/-- What a step offers. -/
def offer? : Step → Option Offer
  | register _ o .. => some o
  | _ => none

/-- Take a step on a cache. -/
def run (depth : Nat) (id : CacheId) : Step → Run Host (Option Bool)
  | query name => some <$> Host.query depth id name
  | contains name => some <$> Host.readUnder Cache.contains id name
  | isPending name => some <$> Host.readUnder Cache.isPending id name
  | register name o now force => Host.register depth id name o now force

end Step

/-- A step with the answer to it, or why there is none. -/
structure Taken where
  step : Step
  answer : Except Stop (Option Bool)

/-- Take steps on a cache, one after the other, whatever comes of them. -/
def takeSteps (depth : Nat) (id : CacheId) : List Step → Host → List Taken × Host
  | [], h => ([], h)
  | step :: steps, h =>
    let (answer, k) := (step.run depth id).outcome h
    let (rest, l) := takeSteps depth id steps k
    (⟨step, answer⟩ :: rest, l)

/-- The answers to the steps that name a feature. -/
def answersAbout (feature : FeatureName) (taken : List Taken) : List (Except Stop (Option Bool)) :=
  (taken.filter fun t => t.step.names feature).map Taken.answer

/-! ### Names -/

/-- A name is looked for under its normalised form. -/
theorem FeatureName.sought_normalize (name : FeatureName) : name.normalize.sought = name.sought := by
  rw [sought, sought, key_normalize]

/-- Names that are looked for under the same key are queried alike. -/
theorem Host.query_congr (depth : Nat) (id : CacheId) {name name' : FeatureName}
    (same : name.sought = name'.sought) : Host.query depth id name = Host.query depth id name' := by
  cases depth <;> simp only [Host.query, Host.lookUp, same]

/-- Names with the same key are entered alike. -/
theorem Host.enter_congr (id : CacheId) {name name' : FeatureName} (same : name.key = name'.key)
    (o : Offer) (force : Bool) : Host.enter id name o force = Host.enter id name' o force := by
  simp only [Host.enter, same]

/-- A step does the same under the normalised name. -/
theorem Step.run_normalize (depth : Nat) (id : CacheId) (step : Step) :
    step.normalize.run depth id = step.run depth id := by
  cases step with
  | query name => simp only [normalize, run, Host.query_congr depth id name.sought_normalize]
  | contains name =>
    simp only [normalize, run, Host.readUnder, Cache.contains, name.sought_normalize]
  | isPending name =>
    simp only [normalize, run, Host.readUnder, Cache.isPending, name.sought_normalize]
  | register name o now force =>
    simp only [normalize, run, Host.register, Access.register, Host.access,
      Host.enter_congr id name.key_normalize, Host.query_congr depth id name.sought_normalize]

/-! ### Where steps lead -/

/-- The host in which a step queries its feature: a registration comes first. -/
def Step.before (id : CacheId) : Step → Host → Host
  | register name o _ force, h => ((Host.enter id name o force).outcome h).2
  | _, h => h

/-- Such steps on a cache lead from one host to another, which may be one in which a step is about
to query. -/
inductive Host.Reaches (depth : Nat) (id : CacheId) (allowed : Step → Prop) : Host → Host → Prop where
  | refl (h : Host) : Reaches depth id allowed h h
  | before {h k step} (allows : allowed step)
    (rest : Reaches depth id allowed (step.before id h) k) : Reaches depth id allowed h k
  | step {h k step} (allows : allowed step)
    (rest : Reaches depth id allowed ((step.run depth id).outcome h).2 k) :
    Reaches depth id allowed h k

/-- Wherever such steps lead, the probes that a cache has yet to run leave the cache alone. -/
def Host.Secluded (depth : Nat) (id : CacheId) (allowed : Step → Prop) (h : Host) : Prop :=
  ∀ k, h.Reaches depth id allowed k →
    ∀ key p, (k.cache id).find? key = some (.pending p) → p.Aloof depth id k

/-- Wherever such steps lead, a probe that a feature has pending there comes to this result. -/
def Host.Constant (depth : Nat) (id : CacheId) (allowed : Step → Prop) (h : Host)
    (feature : FeatureName) (verdict : Probe → Except Stop Bool) : Prop :=
  ∀ k, h.Reaches depth id allowed k →
    ∀ key p, feature.key? = some key → (k.cache id).find? key = some (.pending p) →
      ((Host.call depth id p).outcome k).1 = verdict p

/-! ### Cells -/

/-- The place of one feature in a cache: its entry, if it has one. -/
abbrev Cell := Option Entry

/-- The cell of a feature. That of a name that is no key stays empty. -/
def Cache.cell (c : Cache) (feature : FeatureName) : Cell := feature.key?.bind c.find?

namespace Cell

/-- Query a cell; `verdict` is what probes come to. -/
def query (verdict : Probe → Except Stop Bool) : Cell → Except Stop Bool × Cell
  | none => (.ok false, none)
  | some (.resolved b) => (.ok b, some (.resolved b))
  | some (.pending p) =>
    match verdict p with
    | .ok b => (.ok b, some (.resolved b))
    | .error stop => (.error stop, some (.pending p))

/-- Offer something for a cell. -/
def offer (o : Offer) (force : Bool) (c : Cell) : Cell :=
  if c.isSome && !force then c else if o.isNothing then none else some (.ofOffer o)

end Cell

/-- What comes of a step whose name is no key. Nothing can be registered under it; otherwise it is
not there, or it cannot be looked for. -/
def Step.withoutKey (e : NoKey) : Step → Except Stop (Option Bool)
  | register .. => .error (.fault (.ofNoKey e))
  | step => (Host.unnamed step.name).map some

/-- Take a step with a key on the cell that it names. -/
def Step.onKeyedCell (verdict : Probe → Except Stop Bool) (c : Cell) :
    Step → Except Stop (Option Bool) × Cell
  | query _ => ((c.query verdict).1.map some, (c.query verdict).2)
  | contains _ => (.ok (some c.isSome), c)
  | isPending _ => (.ok (some (c.any Entry.isPending)), c)
  | register _ o now force =>
    let c' := c.offer o force
    if now then ((c'.query verdict).1.map some, (c'.query verdict).2) else (.ok none, c')

/-- Take a step on the cell that it names. -/
def Step.onCell (verdict : Probe → Except Stop Bool) (step : Step) (c : Cell) :
    Except Stop (Option Bool) × Cell :=
  match step.name.key with
  | .error e => (step.withoutKey e, c)
  | .ok _ => step.onKeyedCell verdict c

/-- Take steps on the cell that they name, one after the other. -/
def stepsOnCell (verdict : Probe → Except Stop Bool) :
    List Step → Cell → List (Except Stop (Option Bool)) × Cell
  | [], c => ([], c)
  | step :: steps, c =>
    let (answer, c') := step.onCell verdict c
    let (rest, c'') := stepsOnCell verdict steps c'
    (answer :: rest, c'')

/-! ### What a step leaves of the cells -/

/-- Names with the same key have the same normalised form. -/
theorem FeatureName.normalize_eq_of_key? {a b : FeatureName} {key : Key}
    (named : a.key? = some key) (other : b.key? = some key) : a.normalize = b.normalize :=
  (key_eq_iff (key?_eq_some_iff.mp named)).mp (key?_eq_some_iff.mp other)

namespace Cache

theorem cell_of_key? {feature : FeatureName} {key : Key} (named : feature.key? = some key)
    (c : Cache) : c.cell feature = c.find? key := by
  rw [cell, named, Option.bind_some]

theorem cell_of_unnamed {feature : FeatureName} (unnamed : feature.key? = none) (c : Cache) :
    c.cell feature = none := by
  rw [cell, unnamed, Option.bind_none]

/-- A cache contains the names whose cells are not empty. -/
theorem contains_eq {feature : FeatureName} {key : Key} (named : feature.key? = some key)
    (c : Cache) : c.contains feature = .ok (c.cell feature).isSome := by
  rw [contains, feature.sought_of_key? named, c.cell_of_key? named]
  rfl

/-- The pending names are those in whose cells a probe has yet to run. -/
theorem isPending_eq {feature : FeatureName} {key : Key} (named : feature.key? = some key)
    (c : Cache) : c.isPending feature = .ok ((c.cell feature).any Entry.isPending) := by
  rw [isPending, feature.sought_of_key? named, c.cell_of_key? named]
  rfl

/-- Names with the same normalised form have the same cell. -/
theorem cell_congr (c : Cache) {a b : FeatureName} (same : a.normalize = b.normalize) :
    c.cell a = c.cell b := by
  rw [cell, cell, ← a.key?_normalize, same, b.key?_normalize]

theorem cell_store (c : Cache) (key : Key) (e : Entry) (feature : FeatureName) :
    (c.store key e).cell feature = if feature.key? = some key then some e else c.cell feature := by
  unfold cell
  cases feature.key? with
  | none => rfl
  | some other => simp [find?_store]

/-- An offer changes the cell of its feature as if there were no others. -/
theorem cell_offer (c : Cache) {key : Key} {feature : FeatureName}
    (named : feature.key? = some key) (o : Offer) (force : Bool) :
    (c.offer key o force).cell feature = (c.cell feature).offer o force := by
  have there : c.entries.contains key = (c.find? key).isSome := rfl
  simp only [cell, named, Option.bind_some, offer, Cell.offer, there]
  split
  · rfl
  · split <;> simp [find?_remove, find?_store]

/-- An offer leaves the cells of other features alone. -/
theorem cell_offer_of_ne (c : Cache) {key : Key} {feature : FeatureName}
    (other : feature.key? ≠ some key) (o : Offer) (force : Bool) :
    (c.offer key o force).cell feature = c.cell feature := by
  unfold cell
  cases named : feature.key? with
  | none => rfl
  | some k =>
    rw [named, ne_eq, Option.some.injEq] at other
    exact get?_offer_of_ne c other o force

end Cache

/-- What is left of a cache when one of its cells was given new contents. -/
structure Host.Touches (id : CacheId) (feature : FeatureName) (c : Cell) (h k : Host) : Prop where
  cell : (k.cache id).cell feature = c
  others : ∀ other : FeatureName, other.normalize ≠ feature.normalize →
    (k.cache id).cell other = (h.cache id).cell other

variable {h k l : Host} {id : CacheId} {depth : Nat} {allowed : Step → Prop}
  {verdict : Probe → Except Stop Bool}

namespace Host

variable {name : FeatureName} {key : Key} {c c' : Cell}

/-- What touches one feature and then the same one touches it alone. -/
theorem Touches.trans (first : Touches id name c h k) (second : Touches id name c' k l) :
    Touches id name c' h l :=
  ⟨second.cell, fun other ne => (second.others other ne).trans (first.others other ne)⟩

theorem touches_of_same (same : k.cache id = h.cache id) (name : FeatureName) :
    Touches id name ((h.cache id).cell name) h k :=
  ⟨by rw [same], fun _ _ => by rw [same]⟩

/-- Keeping an answer touches the feature alone that it is the answer of. -/
theorem touches_keep (named : name.key? = some key) (b : Bool) :
    Touches id name (some (.resolved b)) h ((keep id key b).outcome h).2 := by
  have stored : ((keep id key b).outcome h).2.cache id =
      (h.cache id).store key (.resolved b) := by
    rw [cache_keep, Caches.set, if_pos rfl]
  refine ⟨?_, fun other ne => ?_⟩
  · rw [stored, Cache.cell_store, if_pos named]
  · rw [stored, Cache.cell_store, if_neg]
    exact fun same => ne (FeatureName.normalize_eq_of_key? same named)

/-- A registration does to the cell of its feature what it does to this cell alone. -/
theorem touches_enter (h : Host) (id : CacheId) (named : name.key = .ok key) (o : Offer)
    (force : Bool) :
    ∃ k, (enter id name o force).outcome h = (.ok (), k) ∧
      Touches id name (((h.cache id).cell name).offer o force) h k := by
  have key? : name.key? = some key := FeatureName.key?_eq_some_iff.mpr named
  obtain ⟨k, entered, puts⟩ := puts_enter named h id o force
  refine ⟨k, entered, ?_, fun other ne => ?_⟩
  · rw [puts.cache_self, Cache.cell_offer _ key?]
  · rw [puts.cache_self]
    exact Cache.cell_offer_of_ne _
      (fun same => ne (FeatureName.normalize_eq_of_key? same key?)) o force

/-- A query comes to what it comes to on the cell of its feature alone, and leaves all other cells,
if the probe that may be pending there leaves its cache alone and comes to its verdict. -/
theorem outcome_query_cell (verdict : Probe → Except Stop Bool) (named : name.key? = some key)
    (aloof : ∀ p, (h.cache id).find? key = some (.pending p) → p.Aloof depth id h)
    (comes : ∀ p, (h.cache id).find? key = some (.pending p) →
      ((Host.call depth id p).outcome h).1 = verdict p) :
    ((Host.query depth id name).outcome h).1 = (((h.cache id).cell name).query verdict).1 ∧
      Touches id name (((h.cache id).cell name).query verdict).2 h
        ((Host.query depth id name).outcome h).2 := by
  have found := (h.cache id).cell_of_key? named
  have same : Touches id name ((h.cache id).cell name) h h := touches_of_same rfl name
  match entry : (h.cache id).find? key with
  | none =>
    rw [query_of_missing named entry]
    rw [found, entry] at same ⊢
    exact ⟨rfl, same⟩
  | some (.resolved b) =>
    rw [query_of_resolved named entry]
    rw [found, entry] at same ⊢
    exact ⟨rfl, same⟩
  | some (.pending p) =>
    have called := touches_of_same (aloof p entry).cache name
    rw [query_of_call named entry]
    rw [found, entry] at called ⊢
    rw [Cell.query, ← comes p entry]
    generalize (Host.call depth id p).outcome h = ended at called ⊢
    rcases ended with ⟨stop | b, k⟩
    · exact ⟨rfl, called⟩
    · exact ⟨rfl, called.trans (touches_keep named b)⟩

end Host

/-- Under a name without a key no step changes anything. -/
theorem Step.outcome_run_of_error {step : Step} {e : NoKey} (unnamed : step.name.key = .error e)
    (depth : Nat) (id : CacheId) (h : Host) :
    (step.run depth id).outcome h = (step.withoutKey e, h) := by
  have without : step.name.key? = none := by rw [FeatureName.key?, unnamed]; rfl
  cases step with
  | query name =>
    rw [Step.name] at without
    rw [run, Run.outcome_map, Host.query_of_unnamed without]
    rfl
  | contains name =>
    rw [run, Run.outcome_map, Host.outcome_readUnder, Cache.contains]
    rcases FeatureName.sought_of_unnamed without with sought | sought <;>
    · rw [Step.name] at sought
      simp [withoutKey, Host.unnamed, Step.name, sought, Except.map, Except.mapError]
  | isPending name =>
    rw [run, Run.outcome_map, Host.outcome_readUnder, Cache.isPending]
    rcases FeatureName.sought_of_unnamed without with sought | sought <;>
    · rw [Step.name] at sought
      simp [withoutKey, Host.unnamed, Step.name, sought, Except.map, Except.mapError]
  | register name o now force =>
    exact Host.outcome_register_of_error unnamed depth id o now force h

/-- A step does to the cell that it names what it does to this cell alone, and leaves all others. -/
theorem Step.outcome_run (step : Step) (verdict : Probe → Except Stop Bool)
    (aloof : ∀ key p, ((step.before id h).cache id).find? key = some (.pending p) →
      p.Aloof depth id (step.before id h))
    (comes : ∀ key p, step.name.key? = some key →
      ((step.before id h).cache id).find? key = some (.pending p) →
      ((Host.call depth id p).outcome (step.before id h)).1 = verdict p) :
    ((step.run depth id).outcome h).1 = (step.onCell verdict ((h.cache id).cell step.name)).1 ∧
      h.Touches id step.name (step.onCell verdict ((h.cache id).cell step.name)).2
        ((step.run depth id).outcome h).2 := by
  have untouched : h.Touches id step.name ((h.cache id).cell step.name) h :=
    Host.touches_of_same rfl step.name
  cases named : step.name.key with
  | error e =>
    rw [outcome_run_of_error named, onCell, named]
    exact ⟨rfl, untouched⟩
  | ok key =>
    have key? : step.name.key? = some key := FeatureName.key?_eq_some_iff.mpr named
    rw [onCell, named]
    cases step with
    | query name =>
      obtain ⟨answer, touches⟩ := Host.outcome_query_cell verdict key? (aloof key)
        fun p => comes key p key?
      rw [run, Run.outcome_map]
      exact ⟨congrArg (Except.map some) answer, touches⟩
    | contains name =>
      rw [Step.name] at key?
      rw [run, Run.outcome_map, Host.outcome_readUnder, Cache.contains_eq key?]
      exact ⟨rfl, untouched⟩
    | isPending name =>
      rw [Step.name] at key?
      rw [run, Run.outcome_map, Host.outcome_readUnder, Cache.isPending_eq key?]
      exact ⟨rfl, untouched⟩
    | register name o now force =>
      rw [Step.name] at named
      obtain ⟨k, entered, touches⟩ := Host.touches_enter h id named o force
      rw [run, Host.outcome_register entered]
      rw [before, entered] at aloof comes
      cases now with
      | false => exact ⟨rfl, touches⟩
      | true =>
        rw [Step.name] at key?
        obtain ⟨answer, further⟩ := Host.outcome_query_cell verdict key? (aloof key)
          fun p => comes key p key?
        rw [touches.cell] at answer further
        rw [if_pos rfl, Run.outcome_map]
        exact ⟨congrArg (Except.map some) answer, touches.trans further⟩

/-! ### Runs -/

section Reaching

variable {feature : FeatureName}

/-- Steps lead from secluded hosts to secluded hosts. -/
theorem Host.Secluded.step (secluded : h.Secluded depth id allowed) {step : Step}
    (allows : allowed step) : ((step.run depth id).outcome h).2.Secluded depth id allowed :=
  fun l leads => secluded l (.step allows leads)

theorem Host.Constant.step (constant : h.Constant depth id allowed feature verdict) {step : Step}
    (allows : allowed step) :
    ((step.run depth id).outcome h).2.Constant depth id allowed feature verdict :=
  fun l leads => constant l (.step allows leads)

/-- A step leaves the cells of all features that it does not name. -/
theorem Host.Secluded.others (secluded : h.Secluded depth id allowed) {step : Step}
    (allows : allowed step) (other : feature.normalize ≠ step.name.normalize) :
    (((step.run depth id).outcome h).2.cache id).cell feature = (h.cache id).cell feature := by
  have touches := (step.outcome_run
    (fun p => ((Host.call depth id p).outcome (step.before id h)).1)
    (secluded _ (.before allows (.refl _))) fun _ _ _ _ => rfl).2
  exact touches.others feature other

/-- A step that names a feature does to its cell what it does to this cell alone. -/
theorem Host.Constant.onCell (constant : h.Constant depth id allowed feature verdict)
    (secluded : h.Secluded depth id allowed) {step : Step} (allows : allowed step)
    (same : step.name.normalize = feature.normalize) :
    step.onCell verdict ((h.cache id).cell feature) =
      (((step.run depth id).outcome h).1,
        (((step.run depth id).outcome h).2.cache id).cell feature) := by
  have key? : step.name.key? = feature.key? := by
    rw [← FeatureName.key?_normalize, same, FeatureName.key?_normalize]
  obtain ⟨answer, touches⟩ := step.outcome_run verdict
    (secluded _ (.before allows (.refl _))) fun key p named =>
      constant _ (.before allows (.refl _)) key p (key? ▸ named)
  have cell := touches.cell
  rw [Cache.cell_congr _ same, Cache.cell_congr _ same] at cell
  rw [Cache.cell_congr _ same] at answer
  rw [answer, cell]

end Reaching

/-- What becomes of a feature: the answers to the steps that name it, and its cell in the end. -/
def fate (depth : Nat) (id : CacheId) (feature : FeatureName) (steps : List Step) (h : Host) :
    List (Except Stop (Option Bool)) × Cell :=
  let (taken, k) := takeSteps depth id steps h
  (answersAbout feature taken, (k.cache id).cell feature)

/-- What becomes of a feature is what the steps that name it do to its cell alone. -/
theorem fate_eq {feature : FeatureName} (secluded : h.Secluded depth id allowed)
    (constant : h.Constant depth id allowed feature verdict) {steps : List Step}
    (allows : ∀ step ∈ steps, allowed step) :
    fate depth id feature steps h =
      stepsOnCell verdict (steps.filter (·.names feature)) ((h.cache id).cell feature) := by
  induction steps generalizing h with
  | nil => rfl
  | cons step steps ih =>
    obtain ⟨first, rest⟩ := List.forall_mem_cons.mp allows
    have goesOn := ih (secluded.step first) (constant.step first) rest
    cases named : step.names feature with
    | false =>
      have other : feature.normalize ≠ step.name.normalize := by
        intro same
        simp [Step.names, same] at named
      rw [secluded.others first other] at goesOn
      simpa [fate, takeSteps, answersAbout, named] using goesOn
    | true =>
      have went := constant.onCell secluded first (of_decide_eq_true named)
      simp only [List.filter_cons_of_pos named, stepsOnCell, went, ← goesOn]
      simp [fate, takeSteps, answersAbout, named]

/-- Steps do the same under the normalised names. -/
theorem takeSteps_normalize (depth : Nat) (id : CacheId) (steps : List Step) (h : Host) :
    (takeSteps depth id (steps.map Step.normalize) h).1.map Taken.answer =
        (takeSteps depth id steps h).1.map Taken.answer ∧
      (takeSteps depth id (steps.map Step.normalize) h).2 = (takeSteps depth id steps h).2 := by
  induction steps generalizing h with
  | nil => exact ⟨rfl, rfl⟩
  | cons step steps ih =>
    obtain ⟨answers, left⟩ := ih ((step.run depth id).outcome h).2
    simp only [List.map_cons, takeSteps, Step.run_normalize]
    exact ⟨congrArg _ answers, left⟩

/-! ### Seclusion -/

/-- A probe that is pending in a cell is of a kind. -/
def Cell.Holds (P : Probe → Prop) (c : Cell) : Prop := ∀ p, c = some (.pending p) → P p

section Seclusion

variable {P : Probe → Prop} {c : Cell}

/-- A cell keeps to probes of a kind if offers do. -/
theorem Cell.Holds.offer (holds : c.Holds P) {o : Offer} (offered : ∀ p, o = .probe p → P p)
    (force : Bool) : (c.offer o force).Holds P := by
  intro p pending
  unfold Cell.offer at pending
  split at pending
  · exact holds p pending
  · cases o with
    | value v => split at pending <;> simp [Entry.ofOffer] at pending
    | probe q =>
      cases pending
      exact offered p rfl

theorem Cell.Holds.query (holds : c.Holds P) (verdict : Probe → Except Stop Bool) :
    (c.query verdict).2.Holds P := by
  intro p pending
  match c with
  | none => cases pending
  | some (.resolved b) => cases pending
  | some (.pending q) =>
    simp only [Cell.query] at pending
    split at pending
    · cases pending
    · exact holds p pending

/-- A step keeps the cell of its feature to probes of a kind. -/
theorem Cell.Holds.onCell (holds : c.Holds P) {step : Step}
    (offered : ∀ p, step.offer? = some (.probe p) → P p) (verdict : Probe → Except Stop Bool) :
    (step.onCell verdict c).2.Holds P := by
  unfold Step.onCell
  cases step.name.key with
  | error e => exact holds
  | ok key =>
    cases step with
    | query name => exact holds.query verdict
    | contains name => exact holds
    | isPending name => exact holds
    | register name o now force =>
      have entered := holds.offer (fun p same => offered p (congrArg some same)) force
      cases now with
      | false => exact entered
      | true => exact entered.query verdict

/-- What touches one feature keeps all cells to probes of a kind, if this one is. -/
theorem Host.Touches.holds {name : FeatureName} (touches : h.Touches id name c k)
    (new : c.Holds P) (old : ∀ feature, ((h.cache id).cell feature).Holds P)
    (feature : FeatureName) : ((k.cache id).cell feature).Holds P := by
  by_cases same : feature.normalize = name.normalize
  · rw [Cache.cell_congr _ same, touches.cell]
    exact new
  · rw [touches.others feature same]
    exact old feature

theorem Step.holds_before (holds : ∀ feature, ((h.cache id).cell feature).Holds P) {step : Step}
    (offered : ∀ p, step.offer? = some (.probe p) → P p) (feature : FeatureName) :
    (((step.before id h).cache id).cell feature).Holds P := by
  cases step with
  | query name => exact holds feature
  | contains name => exact holds feature
  | isPending name => exact holds feature
  | register name o now force =>
    cases named : name.key with
    | error e =>
      rw [before, Host.outcome_enter_of_error named]
      exact holds feature
    | ok key =>
      obtain ⟨k, entered, touches⟩ := Host.touches_enter h id named o force
      rw [before, entered]
      exact touches.holds
        ((holds name).offer (fun p same => offered p (congrArg some same)) force) holds feature

/-- A host is secluded if all probes of a cache and all that steps offer to it are of a kind that
leaves the cache alone. -/
theorem Host.secluded_of_aloof (depth : Nat) (aloof : ∀ p, P p → ∀ k, p.Aloof depth id k)
    (seeded : ∀ feature, ((h.cache id).cell feature).Holds P)
    (offered : ∀ step, allowed step → ∀ p, step.offer? = some (.probe p) → P p) :
    h.Secluded depth id allowed ∧
      ∀ k, h.Reaches depth id allowed k → ∀ feature, ((k.cache id).cell feature).Holds P := by
  have kind : ∀ {l : Host}, (∀ feature, ((l.cache id).cell feature).Holds P) →
      ∀ key p, (l.cache id).find? key = some (.pending p) → P p := by
    intro l holds key p pending
    exact holds key.toName p
      (((l.cache id).cell_of_key? (FeatureName.key?_eq_some_iff.mpr key.key_toName)).trans pending)
  -- wherever steps lead, all probes are of the kind
  have kept : ∀ k, h.Reaches depth id allowed k →
      ∀ feature, ((k.cache id).cell feature).Holds P := by
    intro k leads
    induction leads with
    | refl l => exact seeded
    | before allows _ ih => exact ih (Step.holds_before seeded (offered _ allows))
    | @step l m step allows _ ih =>
      have before := Step.holds_before seeded (offered _ allows)
      have touches := (step.outcome_run
        (fun p => ((Host.call depth id p).outcome (step.before id l)).1)
        (fun key p pending => aloof p (kind before key p pending) _) fun _ _ _ _ => rfl).2
      exact ih (touches.holds ((seeded step.name).onCell (offered _ allows) _) seeded)
  exact ⟨fun k leads key p pending => aloof p (kind (kept k leads) key p pending) k, kept⟩

end Seclusion

/-! ### Independence -/

/-- Names are the same feature exactly when they have the same cell in every cache. -/
theorem FeatureName.normalize_eq_iff_cell {feature : FeatureName} (named : feature.key?.isSome)
    (other : FeatureName) :
    other.normalize = feature.normalize ↔ ∀ c : Cache, c.cell other = c.cell feature := by
  refine ⟨fun same c => c.cell_congr same, fun same => ?_⟩
  obtain ⟨key, found⟩ := Option.isSome_iff_exists.mp named
  have stored := same ((Cache.new .plain).store key (.resolved true))
  rw [Cache.cell_store, Cache.cell_store, if_pos found] at stored
  have empty : (Cache.new .plain).cell other = none := by
    cases key? : other.key? <;> simp [Cache.cell, key?, Cache.new, Cache.find?]
  split at stored
  · next key? => exact normalize_eq_of_key? key? found
  · simp [empty] at stored

/-- In every run of steps on a cache whose probes leave the cache alone, what becomes of a feature
whose probes come to the same wherever such steps lead stays the same when the steps that name other
features are deleted or put in other places; and two names are the same feature when they become
equal once integers are replaced by their decimal texts, and only then. -/
theorem features_are_independent {depth : Nat} {id : CacheId} {steps : List Step} {made : Host}
    {feature : FeatureName} {verdict : Probe → Except Stop Bool}
    (secluded : made.Secluded depth id (· ∈ steps))
    (constant : made.Constant depth id (· ∈ steps) feature verdict) :
    fate depth id feature (steps.filter (·.names feature)) made = fate depth id feature steps made ∧
      (∀ steps' : List Step, steps'.Perm steps →
        steps'.filter (·.names feature) = steps.filter (·.names feature) →
        fate depth id feature steps' made = fate depth id feature steps made) ∧
      (∀ steps' : List Step, steps'.map Step.normalize = steps.map Step.normalize →
        (takeSteps depth id steps' made).1.map Taken.answer =
            (takeSteps depth id steps made).1.map Taken.answer ∧
          (takeSteps depth id steps' made).2 = (takeSteps depth id steps made).2) ∧
      (feature.key?.isSome → ∀ other : FeatureName,
        other.normalize = feature.normalize ↔ ∀ c : Cache, c.cell other = c.cell feature) ∧
      [.truth true, .absent, .text "01", .text "1"].Pairwise
        fun a b : FeatureName => a.normalize ≠ b.normalize := by
  have depends : ∀ steps' : List Step, steps' ⊆ steps →
      steps'.filter (·.names feature) = steps.filter (·.names feature) →
      fate depth id feature steps' made = fate depth id feature steps made := by
    intro steps' subset same
    rw [fate_eq secluded constant fun step mem => subset mem, same,
      fate_eq secluded constant fun step mem => mem]
  refine ⟨?_, fun steps' perm => depends steps' perm.subset, fun steps' same => ?_,
    FeatureName.normalize_eq_iff_cell, by decide⟩
  · exact depends _ List.filter_sublist.subset (by simp)
  · obtain ⟨answers', left'⟩ := takeSteps_normalize depth id steps' made
    obtain ⟨answers, left⟩ := takeSteps_normalize depth id steps made
    rw [same] at answers' left'
    exact ⟨answers'.symm.trans answers, left'.symm.trans left⟩

/-- A probe that fails. -/
def brokenProbe : Probe := ⟨"canvas", "canvas", fun _ => .fail "RuntimeError" "no canvas"⟩

/-- Steps around a feature with a broken probe, under the number and the text. -/
def brokenSteps : List Step :=
  [.query (.text "42"), .register (.text "dom") (.value (.bool true)) true false,
    .query (.number 42), .register (.number 42) (.probe brokenProbe) false true,
    .contains (.text "dom"), .isPending (.text "42")]

theorem aloof_brokenProbe (id : CacheId) (h : Host) : brokenProbe.Aloof 1 id h :=
  Probe.aloof_of_subjects [] rfl List.not_mem_nil

/-- Around a broken probe the feature behaves as it does alone. -/
theorem features_are_independent_broken :
    let made := (Host.empty.addCache ((Cache.new .plain).sow [(.text "42", .probe brokenProbe)])).2
    let fails : Except Stop Bool := .error (.fault (.raised "RuntimeError" "no canvas"))
    made.Secluded 1 ⟨0⟩ (· ∈ brokenSteps) ∧
      made.Constant 1 ⟨0⟩ (· ∈ brokenSteps) (.number 42) (fun _ => fails) ∧
      fate 1 ⟨0⟩ (.number 42) (brokenSteps.filter (·.names (.number 42))) made =
        fate 1 ⟨0⟩ (.number 42) brokenSteps made := by
  intro made fails
  have seeded : ∀ feature, ((made.cache ⟨0⟩).cell feature).Holds (· = brokenProbe) := by
    intro feature p pending
    have seeded : (made.cache ⟨0⟩).cell feature =
        ((Cache.new .plain).store (.text "42") (.pending brokenProbe)).cell feature := rfl
    rw [seeded, Cache.cell_store] at pending
    split at pending
    · cases pending
      rfl
    · cases named : feature.key? <;> simp [Cache.cell, named, Cache.new, Cache.find?] at pending
  have offered : ∀ step ∈ brokenSteps, ∀ p, step.offer? = some (.probe p) → p = brokenProbe := by
    simp [brokenSteps, Step.offer?, eq_comm]
  obtain ⟨secluded, broken⟩ := Host.secluded_of_aloof 1
    (fun p same k => same ▸ aloof_brokenProbe ⟨0⟩ k) seeded offered
  have constant : made.Constant 1 ⟨0⟩ (· ∈ brokenSteps) (.number 42) fun _ => fails := by
    intro k leads key p named pending
    have same := broken k leads (.number 42) p (((k.cache ⟨0⟩).cell_of_key? named).trans pending)
    rw [same]
    rfl
  exact ⟨secluded, constant, (features_are_independent secluded constant).1⟩

/-- A probe that registers another feature on the workspace, and one that asks for it. -/
def writingProbe : Probe :=
  ⟨"a", "a", fun _ => .register (.text "k") (.bool true) false (.finish (.bool true))⟩

def readingProbe : Probe := ⟨"b", "b", fun _ => .query (.text "k") fun b => .finish (.bool b)⟩

/-- A host with an empty workspace and a second cache with the two probes. -/
def sharingHost : Host :=
  let (_, h) := Host.empty.addCache (.new .plain)
  let seed := [(.text "a", .probe writingProbe), (.text "b", .probe readingProbe)]
  let (_, h) := h.addCache ((Cache.new .plain).sow seed)
  { h with workspace := some ⟨0⟩ }

/-- Probes that leave their cache alone can still share the rest of the host: what the first one
registers elsewhere, the second one finds there, and not if the first one is not queried. And an
integer that cannot be written is not the feature that its digits are. -/
theorem features_share_the_host :
    let asked := ((Host.query 1 ⟨1⟩ (.text "a")).outcome sharingHost).2
    (writingProbe.Aloof 1 ⟨1⟩ sharingHost ∧ readingProbe.Aloof 1 ⟨1⟩ sharingHost ∧
        readingProbe.Aloof 1 ⟨1⟩ asked) ∧
      fate 1 ⟨1⟩ (.text "b") [.query (.text "a"), .query (.text "b")] sharingHost =
        ([.ok (some true)], some (.resolved true)) ∧
      fate 1 ⟨1⟩ (.text "b") [.query (.text "b")] sharingHost =
        ([.ok (some false)], some (.resolved false)) ∧
      ((Step.query .overlong).run 1 ⟨0⟩).outcome sharingHost =
        (.error (.fault .longInteger), sharingHost) ∧
      ((Step.query .overlongText).run 1 ⟨0⟩).outcome sharingHost =
        (.ok (some false), sharingHost) := by
  refine ⟨⟨?_, ?_, ?_⟩, rfl, rfl, ?_, ?_⟩
  · exact Probe.aloof_of_subjects [⟨0⟩] rfl (by decide)
  · exact Probe.aloof_of_subjects [⟨0⟩] rfl (by decide)
  · exact Probe.aloof_of_subjects [⟨0⟩] rfl (by decide)
  · rw [Step.run, Run.outcome_map, Host.query_overlong]
    rfl
  · rw [Step.run, Run.outcome_map, Host.query_overlongText rfl]
    rfl

end FeatureChoice
