import FeatureChoice.Log.Conversion
/-!
Messages with places for values. A place is a percent sign, perhaps a key in parentheses, flags, a
width and a precision, and a letter; two percent signs are one. The values are taken in order, or,
where they are in one mapping, by key; a star takes the next value for a width or precision. A
message without values is taken as it is.

Main statements: a text without percent signs stays as it is (`fillFrom_of_plain`), and then takes
no values (`fill_of_plain`).
-/

namespace FeatureChoice.Log

/-- The values that are still to be filled in. -/
inductive Source where
  /-- Values in order. -/
  | row (values : List Value)
  /-- A mapping, with the value that is next. -/
  | mapping (entries : List (Value × Value)) (next : Option Value)
  deriving Repr

namespace Source

/-- The source of some values: a mapping alone gives them by key, unless it is empty. -/
def ofValues : List Value → Source
  | [.map (entry :: entries)] => .mapping (entry :: entries) (some (.map (entry :: entries)))
  | values => .row values

def take : Source → Except TemplateError (Value × Source)
  | .row (v :: values) => .ok (v, .row values)
  | .mapping entries (some v) => .ok (v, .mapping entries none)
  | _ => .error .tooFew

/-- Let the value of a key be the next one. -/
def select (key : String) : Source → Except TemplateError Source
  | .row _ => .error .noMapping
  | .mapping entries _ =>
    match entries.find? fun entry => entry.1.sameKey (.text key) with
    | some (_, v) => .ok (.mapping entries (some v))
    | none => .error (.missingKey key)

/-- Whether nothing is left that a message would have to take. -/
def isDone : Source → Bool
  | .row values => values.isEmpty
  | .mapping _ _ => true

end Source

/-! ### Places -/

/-- A key up to its closing parenthesis, and the text after it; `depth` counts the parentheses that
are open within the key. -/
def readKey : Nat → List Char → Option (List Char × List Char)
  | _, [] => none
  | depth, c :: cs =>
    if c = ')' && depth = 0 then some ([], cs)
    else
      let depth := if c = '(' then depth + 1 else if c = ')' then depth - 1 else depth
      (readKey depth cs).map fun (key, rest) => (c :: key, rest)

/-- Select the value of a key, if a place starts with one. -/
def takeKey (source : Source) : List Char → Except TemplateError (Source × List Char)
  | '(' :: cs =>
    match source, readKey 0 cs with
    | .row _, _ => .error .noMapping
    | _, none => .error .incompleteKey
    | source, some (key, rest) => do return (← source.select (String.ofList key), rest)
  | cs => .ok (source, cs)

def flags : List Char := ['-', '+', ' ', '#', '0']

/-- The integer that a star takes. -/
def takeStar (source : Source) : Except TemplateError (Int × Source) := do
  match ← source.take with
  | (.int n, source) => return (n, source)
  | (.bool b, source) => return (if b then 1 else 0, source)
  | _ => throw .noStarInteger

/-- The number that digits stand for, if it is no greater than a limit. -/
def takeNumber (limit : Nat) (e : TemplateError) (cs : List Char) :
    Except TemplateError (Nat × List Char) :=
  let n := (cs.takeWhile Char.isDigit).foldl (fun n c => n * 10 + (c.toNat - 48)) 0
  if limit < n then .error e else .ok (n, cs.dropWhile Char.isDigit)

def maxWidth : Nat := Nat.pow 2 63 - 1

def maxPrecision : Nat := Nat.pow 2 31 - 1

/-- The width of a place; one that is below zero puts the value to the left. -/
def takeWidth (source : Source) (style : Style) :
    List Char → Except TemplateError (Style × Source × List Char)
  | '*' :: cs => do
    let (n, source) ← takeStar source
    if maxWidth < n || n < -Int.ofNat maxWidth - 1 then throw .hugeWidth
    return ({ style with width := n.natAbs, left := style.left || n < 0 }, source, cs)
  | cs => do
    let (n, cs) ← takeNumber maxWidth .wideField cs
    return ({ style with width := n }, source, cs)

/-- The precision of a place; one that is below zero is zero. -/
def takePrecision (source : Source) (style : Style) :
    List Char → Except TemplateError (Style × Source × List Char)
  | '.' :: '*' :: cs => do
    let (n, source) ← takeStar source
    if maxPrecision < n || n < -Int.ofNat maxPrecision - 1 then throw .hugePrecision
    return ({ style with precision := some n.toNat }, source, cs)
  | '.' :: cs => do
    let (n, cs) ← takeNumber maxPrecision .longPrecision cs
    return ({ style with precision := some n }, source, cs)
  | cs => .ok (style, source, cs)

/-- A text without one letter for a size, which says nothing here. -/
def dropSize : List Char → List Char
  | c :: cs => if c = 'h' || c = 'l' || c = 'L' then cs else c :: cs
  | [] => []

/-- Fill a place after its percent sign in a message of a size. -/
def fillPlace (size : Nat) (source : Source) (cs : List Char) :
    Except TemplateError (List Char × Source × List Char) := do
  let (source, cs) ← takeKey source cs
  let given := cs.takeWhile flags.contains
  let style : Style := ⟨given.contains '-', given.contains '+', given.contains ' ',
    given.contains '#', given.contains '0', 0, none⟩
  let (style, source, cs) ← takeWidth source style (cs.dropWhile flags.contains)
  let (style, source, cs) ← takePrecision source style cs
  match dropSize cs with
  | [] => throw .incomplete
  | letter :: rest =>
    let (v, source) ← source.take
    let shown ← showValue style letter (size - (rest.length + 1)) v
    return (shown.fillUp style, source, rest)

/-! ### Messages -/

/-- Fill the places of what is left of a message of a size. Each step takes a character at least. -/
def fillFrom (size : Nat) : Nat → Source → List Char → Except TemplateError (List Char)
  | _, source, [] => if source.isDone then .ok [] else .error .leftOver
  | 0, _, _ => .ok []
  | fuel + 1, source, '%' :: '%' :: cs => do return '%' :: (← fillFrom size fuel source cs)
  | fuel + 1, source, '%' :: cs => do
    let (text, source, rest) ← fillPlace size source cs
    return text ++ (← fillFrom size fuel source rest)
  | fuel + 1, source, c :: cs => do return c :: (← fillFrom size fuel source cs)

def fill (template : String) (values : List Value) : Except TemplateError String :=
  if values.isEmpty then .ok template
  else
    let cs := template.toList
    (fillFrom cs.length cs.length (.ofValues values) cs).map String.ofList

/-! ### Laws -/

/-- A message without places stays as it is, and is an error if values are left. -/
theorem fillFrom_of_plain {cs : List Char} (plain : '%' ∉ cs) {size fuel : Nat}
    (enough : cs.length ≤ fuel) (source : Source) :
    fillFrom size fuel source cs = if source.isDone then .ok cs else .error .leftOver := by
  induction cs generalizing fuel with
  | nil => cases fuel <;> simp [fillFrom]
  | cons c cs ih =>
    have ne : c ≠ '%' := by rintro rfl; simp at plain
    have rest : '%' ∉ cs := fun mem => plain (by simp [mem])
    cases fuel with
    | zero => simp at enough
    | succ fuel =>
      rw [fillFrom]
      · rw [ih rest (by simp at enough; omega)]
        cases source.isDone <;> rfl
      all_goals simp_all

/-- A value without a place for it is left over. -/
theorem fill_of_plain {template : String} (plain : '%' ∉ template.toList) (v : Value)
    (isPlain : ∀ entry entries, v ≠ .map (entry :: entries)) :
    fill template [v] = .error .leftOver := by
  have row : Source.ofValues [v] = .row [v] := by
    unfold Source.ofValues
    split
    · next entry entries eq => exact absurd (List.cons.inj eq).1 (isPlain _ _)
    · rfl
  simp [fill, row, fillFrom_of_plain plain (Nat.le_refl _), Source.isDone, Except.map]

end FeatureChoice.Log
