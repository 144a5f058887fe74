import FeatureChoice.Settings.EnvFile
/-!
Environment files over environments. What a load makes of an environment depends on the environment
through the references that the file does not answer itself. So a file that looks back, one whose
references are to names above them or to names it gives no values, makes of its own result that
result again; a reference to a name that gets its value below, or to the name that is just given
one, sees in a second load what the first one left.

* `EnvFile.LooksBack`: bindings that refer to nothing they give a value later on.
* `assign_congr`: what bindings give depends on the environment through other names only.
* `load_again`: a file that looks back can be loaded again without effect.
-/

namespace FeatureChoice

/-! ### Setting variables -/

namespace Environment

/-- Whether a variable can be set does not depend on the environment. -/
theorem set_of_set {env env' : Environment} {name value : String}
    (set : env.set name value = .ok env') (other : Environment) :
    other.set name value = .ok (other.insert name value) := by
  unfold Environment.set at set ⊢
  split at set
  · cases set
  · next plain =>
    rw [if_neg plain]
    split at set
    · cases set
    · next named => rw [if_neg named]

end Environment

namespace EnvFile

variable {env env' : Environment} {assigned : OrderedMap String (Option String)}

/-- A variable that is given no value stays as it is, also if setting the variables stops. -/
theorem get?_setAll_of_notMem {name : String} {l : List (String × Option String)}
    (free : ∀ value, (name, some value) ∉ l) : (setAll env l).1.get? name = env.get? name := by
  induction l generalizing env with
  | nil => rfl
  | cons entry l ih =>
    have rest : ∀ value, (name, some value) ∉ l := fun value mem =>
      free value (List.mem_cons_of_mem _ mem)
    rcases entry with ⟨key, _ | value⟩
    · exact ih rest
    · have other : name ≠ key := fun same => free value (same ▸ List.mem_cons_self)
      rw [setAll]
      cases set : env.set key value with
      | error e => rfl
      | ok after =>
        refine (ih rest).trans ?_
        rw [Environment.get?_set set, if_neg other]

/-- After all variables were set, each has its value. -/
theorem get?_setAll_of_mem {name value : String} {l : List (String × Option String)}
    (distinct : (l.map Prod.fst).Nodup) (ended : setAll env l = (env', none))
    (mem : (name, some value) ∈ l) : env'.get? name = some value := by
  induction l generalizing env with
  | nil => cases mem
  | cons entry l ih =>
    obtain ⟨fresh, rest⟩ := List.nodup_cons.mp distinct
    rcases entry with ⟨key, _ | given⟩
    · refine ih rest ended ?_
      simpa using mem
    · rw [setAll] at ended
      cases set : env.set key given with
      | error e => simp [set] at ended
      | ok after =>
        simp only [set] at ended
        rcases List.mem_cons.mp mem with same | mem
        · cases same
          have free : ∀ other, (name, some other) ∉ l := fun other mem =>
            fresh (List.mem_map.mpr ⟨_, mem, rfl⟩)
          have kept : (setAll after l).1.get? name = after.get? name := get?_setAll_of_notMem free
          rwa [ended, Environment.get?_set set, if_pos rfl] at kept
        · exact ih rest ended mem

/-- To set variables to the values that they have changes nothing. -/
theorem setAll_of_set {l : List (String × Option String)} (settable : (setAll env l).2 = none)
    (set : ∀ name value, (name, some value) ∈ l → env'.get? name = some value) :
    setAll env' l = (env', none) := by
  induction l generalizing env with
  | nil => rfl
  | cons entry l ih =>
    have rest := fun name value mem => set name value (List.mem_cons_of_mem _ mem)
    rcases entry with ⟨key, _ | value⟩
    · exact ih settable rest
    · rw [setAll] at settable
      cases first : env.set key value with
      | error e => simp [first] at settable
      | ok after =>
        rw [first] at settable
        have same : env'.insert key value = env' :=
          OrderedMap.insert_of_get? (set key value List.mem_cons_self)
        rw [setAll, Environment.set_of_set first env', same]
        exact ih settable rest

/-! ### References -/

/-- The names that bindings give values. -/
def given (bs : List Binding) : List String := (bs.filter (·.value.isSome)).map Binding.name

/-- Each value refers to names above it, or to names outside of a list. -/
def LooksBackFrom (above later : List String) : List Binding → Prop
  | [] => True
  | b :: rest =>
    (∀ value ∈ b.value, ∀ name ∈ references value, name ∈ above ∨ name ∉ later) ∧
      LooksBackFrom (b.name :: above) later rest

instance LooksBackFrom.decidable (above later : List String) :
    (bs : List Binding) → Decidable (LooksBackFrom above later bs)
  | [] => .isTrue trivial
  | b :: rest =>
    have := LooksBackFrom.decidable (b.name :: above) later rest
    inferInstanceAs (Decidable (_ ∧ _))

/-- No value refers to a name that is given a value only there or further below. -/
def LooksBack (bs : List Binding) : Prop := LooksBackFrom [] (given bs) bs

instance (bs : List Binding) : Decidable (LooksBack bs) :=
  inferInstanceAs (Decidable (LooksBackFrom ..))

/-- A value depends on the names that it refers to. -/
theorem expand_congr {find find' : String → Option (Option String)} {value : String}
    (same : ∀ name ∈ references value, find' name = find name) :
    expand find' value = expand find value := by
  have pieces_same : ∀ piece ∈ pieces value.toList, piece.resolve find' = piece.resolve find := by
    intro piece mem
    cases piece with
    | plain c => rfl
    | reference name fallback =>
      have referred : name ∈ references value := List.mem_filterMap.mpr ⟨_, mem, rfl⟩
      simp only [Piece.resolve, same name referred]
  rw [expand, expand, List.flatMap_def, List.flatMap_def, List.map_congr_left pieces_same]

/-! ### Assignments -/

/-- Assigning does not repeat a name. -/
theorem nodup_keys_assign (distinct : assigned.keys.Nodup) (env : Environment) (bs : List Binding) :
    (assign env assigned bs).keys.Nodup := by
  induction bs generalizing assigned with
  | nil => exact distinct
  | cons b bs ih => exact ih (OrderedMap.nodup_keys_insert distinct ..)

/-- A value stems from a binding that gives one. -/
theorem mem_given_of_get?_assign {name value : String} {bs : List Binding}
    (found : (assign env assigned bs).get? name = some (some value)) :
    assigned.get? name = some (some value) ∨ name ∈ given bs := by
  induction bs generalizing assigned with
  | nil => exact .inl found
  | cons b bs ih =>
    have later : name ∈ given bs → name ∈ given (b :: bs) := by
      rw [given, given, List.filter_cons]
      split
      · exact List.mem_cons_of_mem _
      · exact id
    rcases ih found with here | below
    · rw [OrderedMap.get?_insert] at here
      by_cases same : name = b.name
      · rw [if_pos same, Option.some.injEq] at here
        refine .inr ?_
        cases has : b.value with
        | none => simp [has] at here
        | some written => simp [given, has, same]
      · rw [if_neg same] at here
        exact .inl here
    · exact .inr (later below)

/-- What bindings give depends on the environment through names that they give no values. -/
theorem assign_congr {above later : List String} {bs : List Binding}
    (back : LooksBackFrom above later bs) (bound : ∀ name ∈ above, (assigned.get? name).isSome)
    (same : ∀ name, name ∉ later → env'.get? name = env.get? name) :
    assign env' assigned bs = assign env assigned bs := by
  induction bs generalizing above assigned with
  | nil => rfl
  | cons b bs ih =>
    obtain ⟨back, rest⟩ := back
    have values : b.value.map (expand fun name => assigned.get? name <|> (env'.get? name).map some) =
        b.value.map (expand fun name => assigned.get? name <|> (env.get? name).map some) := by
      refine Option.map_congr fun value has => expand_congr fun name referred => ?_
      rcases back value has name referred with known | other
      · obtain ⟨noted, known⟩ := Option.isSome_iff_exists.mp (bound name known)
        simp [known]
      · rw [same name other]
    rw [assign, assign, values]
    refine ih rest fun name mem => ?_
    rw [OrderedMap.get?_insert]
    rcases List.mem_cons.mp mem with rfl | mem
    · simp
    · split
      · rfl
      · exact bound name mem

/-! ### Loading again -/

/-- A file that looks back makes of the environment that it left this environment again. -/
theorem load_again {text : List Char} (back : LooksBack (bindings text))
    (loaded : load text env = (env', none)) : load text env' = (env', none) := by
  have distinct : (assign env .empty (bindings text)).keys.Nodup :=
    nodup_keys_assign (by simp) env _
  have same : ∀ name, name ∉ given (bindings text) → env'.get? name = env.get? name := by
    intro name other
    have free : ∀ value, (name, some value) ∉ (assign env .empty (bindings text)).entries := by
      intro value mem
      have found := (OrderedMap.get?_eq_some_iff distinct).mpr mem
      rcases mem_given_of_get?_assign found with absent | mem
      · cases absent
      · exact other mem
    have kept := (get?_setAll_of_notMem free : _ = env.get? name)
    rw [load] at loaded
    rwa [loaded] at kept
  have again : assign env' .empty (bindings text) = assign env .empty (bindings text) :=
    assign_congr back (fun _ mem => absurd mem List.not_mem_nil) same
  rw [load] at loaded ⊢
  rw [again]
  refine setAll_of_set (congrArg Prod.snd loaded) fun name value mem => ?_
  exact get?_setAll_of_mem distinct loaded mem

end EnvFile

end FeatureChoice
