import FeatureChoice.Settings.Environment
import FeatureChoice.Text.Blank
import FeatureChoice.Text.Case
/-!
Environment files: lines that set variables, such as `NAME=value`. The word `export` may stand in
front, a value may stand in single or double quotes with escapes, and a comment starts at a number
sign after a blank. A name alone is noted without a value. A statement that cannot be read is
skipped to the end of its line, and warned of. A variable of the environment can forbid that files
are loaded.

Values refer to variables as `${NAME}` or, with a value to fall back on, as `${NAME:-value}`. A name
is looked up among the names assigned earlier in the file and then in the environment.
-/

namespace FeatureChoice.EnvFile

open Text (isBlank trimEnd)

/-- A name with its value, or a name alone. -/
structure Binding where
  name : String
  value : Option String
  deriving DecidableEq, Repr

def isInnerBlank (c : Char) : Bool := isBlank c && c ≠ '\n'

def skipInner (cs : List Char) : List Char := cs.dropWhile isInnerBlank

/-! ### Values -/

/-- The text up to the closing quote and the text after it. A backslash takes the next character
along, whatever it is, so a value whose last quote follows a backslash is not closed. -/
def upToQuote (quote : Char) : List Char → Option (List Char × List Char)
  | [] => none
  | '\\' :: c :: cs => (upToQuote quote cs).map fun (v, rest) => ('\\' :: c :: v, rest)
  | c :: cs =>
    if c = quote then some ([], cs)
    else (upToQuote quote cs).map fun (v, rest) => (c :: v, rest)

/-- What an escaped character stands for in single quotes. -/
def singleEscape (c : Char) : Option Char := if c = '\\' || c = '\'' then some c else none

/-- What an escaped character stands for in double quotes. -/
def doubleEscape (c : Char) : Option Char :=
  if c = '\\' || c = '\'' || c = '"' then some c
  else [('a', '\x07'), ('b', '\x08'), ('f', '\x0c'), ('n', '\n'), ('r', '\r'), ('t', '\t'),
    ('v', '\x0b')].lookup c

/-- A text with its escapes resolved; a backslash before any other character stays. -/
def resolveEscapes (escape : Char → Option Char) : List Char → List Char
  | '\\' :: c :: cs =>
    match escape c with
    | some d => d :: resolveEscapes escape cs
    | none => '\\' :: resolveEscapes escape (c :: cs)
  | c :: cs => c :: resolveEscapes escape cs
  | [] => []

def beforeComment (afterBlank : Bool) : List Char → List Char
  | [] => []
  | c :: cs =>
    if c = '#' && afterBlank then [] else c :: beforeComment (isBlank c) cs

/-- An unquoted value: the rest of the line without comment and trailing blanks. -/
def plainValue (afterBlank : Bool) (cs : List Char) : List Char × List Char :=
  (trimEnd (beforeComment afterBlank (cs.takeWhile (· ≠ '\n'))), cs.dropWhile (· ≠ '\n'))

/-- A value, or where it could not be read. -/
def readValue (afterBlank : Bool) : List Char → Except (List Char) (List Char × List Char)
  | cs@('\'' :: body) =>
    match upToQuote '\'' body with
    | some (v, rest) => .ok (resolveEscapes singleEscape v, rest)
    | none => .error cs
  | cs@('"' :: body) =>
    match upToQuote '"' body with
    | some (v, rest) => .ok (resolveEscapes doubleEscape v, rest)
    | none => .error cs
  | cs => .ok (plainValue afterBlank cs)

/-! ### Statements -/

/-- A text without the word `export` and the blanks after it. -/
def skipExport (cs : List Char) : List Char :=
  let word := "export".toList
  if word.isPrefixOf cs && ((cs.drop word.length).head?.any isInnerBlank) then
    skipInner (cs.drop word.length)
  else cs

def isNameChar (c : Char) : Bool := c ≠ '=' && c ≠ '#' && !isBlank c

/-- A name, or nothing before a comment, or where no name could be read. -/
def readName : List Char → Except (List Char) (Option (List Char) × List Char)
  | cs@('#' :: _) => .ok (none, cs)
  | cs@('\'' :: body) =>
    match body.takeWhile (· ≠ '\''), body.dropWhile (· ≠ '\'') with
    | name@(_ :: _), _ :: rest => .ok (some name, rest)
    | _, _ => .error cs
  | cs =>
    match cs.takeWhile isNameChar with
    | [] => .error cs
    | name => .ok (some name, cs.dropWhile isNameChar)

/-- The end of a statement: blanks, perhaps a comment, and the end of the line. -/
def readEnd (cs : List Char) : Except (List Char) (List Char) :=
  let cs := match skipInner cs with
    | '#' :: comment => comment.dropWhile (· ≠ '\n')
    | _ => cs
  match skipInner cs with
  | [] => .ok []
  | '\n' :: rest => .ok rest
  | _ => .error cs

/-- What stands in a file: a binding, a comment, or, from a line on, what cannot be read. -/
inductive Statement where
  | binding (b : Binding)
  | comment
  | bad (line : Nat)
  deriving DecidableEq, Repr

def readStatement (cs : List Char) : Except (List Char) (Statement × List Char) := do
  let (name, cs) ← readName (skipExport cs)
  let (value, cs) ← match skipInner cs with
    | '=' :: rest =>
      (readValue (rest.head?.any isInnerBlank) (skipInner rest)).map fun (v, rest) => (some v, rest)
    | rest => .ok (none, rest)
  let rest ← readEnd cs
  match name with
  | some n => return (.binding ⟨String.ofList n, value.map String.ofList⟩, rest)
  | none => return (.comment, rest)

def countFeeds (cs : List Char) : Nat := cs.countP (· = '\n')

/-- The statements from a line on, in order. One that cannot be read is skipped from where reading
it failed to the end of that line; the blank lines before a statement belong to it. -/
def statements (line : Nat) (cs : List Char) : List Statement :=
  match cs.dropWhile isBlank with
  | [] => []
  | start =>
    let (statement, rest) := match readStatement start with
      | .ok result => result
      | .error failed => (.bad line, (failed.dropWhile (· ≠ '\n')).drop 1)
    statement ::
      (if rest.length < cs.length then statements (line + (countFeeds cs - countFeeds rest)) rest
       else [])
  termination_by cs.length

/-- The statements of a file. One mark of the byte order at its start does not count. -/
def statementsOf (text : List Char) : List Statement :=
  statements 1 (if text.head?.any (·.toNat = 0xfeff) then text.tail else text)

def bindings (text : List Char) : List Binding :=
  (statementsOf text).filterMap fun statement =>
    match statement with
    | .binding b => some b
    | _ => none

/-- The lines at which statements start that cannot be read. -/
def badLines (text : List Char) : List Nat :=
  (statementsOf text).filterMap fun statement =>
    match statement with
    | .bad line => some line
    | _ => none

/-! ### References -/

/-- A piece of a value. -/
inductive Piece where
  | plain (c : Char)
  | reference (name : String) (fallback : Option String)
  deriving DecidableEq, Repr

/-- A reference after its opening brace, with the text after the closing one. -/
def readReference (cs : List Char) : Option (Piece × List Char) :=
  let name := String.ofList (cs.takeWhile fun c => c ≠ '}' && c ≠ ':')
  match cs.dropWhile fun c => c ≠ '}' && c ≠ ':' with
  | '}' :: rest => some (.reference name none, rest)
  | ':' :: '-' :: body =>
    match body.dropWhile (· ≠ '}') with
    | _ :: rest => some (.reference name (some (String.ofList (body.takeWhile (· ≠ '}')))), rest)
    | [] => none
  | _ => none

def pieces : List Char → List Piece
  | [] => []
  | '$' :: '{' :: body =>
    match readReference body with
    | some (piece, rest) => piece :: (if rest.length ≤ body.length then pieces rest else [])
    | none => .plain '$' :: pieces ('{' :: body)
  | c :: cs => .plain c :: pieces cs
  termination_by cs => cs.length

def references (value : String) : List String :=
  (pieces value.toList).filterMap fun piece =>
    match piece with
    | .plain _ => none
    | .reference name _ => some name

/-- A piece with its reference resolved. A name that is noted without a value stands for nothing. -/
def Piece.resolve (find : String → Option (Option String)) : Piece → List Char
  | .plain c => [c]
  | .reference name fallback =>
    (((find name).getD (some (fallback.getD ""))).getD "").toList

def expand (find : String → Option (Option String)) (value : String) : String :=
  String.ofList ((pieces value.toList).flatMap (Piece.resolve find))

/-- The values that bindings give, one after the other. -/
def assign (env : Environment) (assigned : OrderedMap String (Option String)) :
    List Binding → OrderedMap String (Option String)
  | [] => assigned
  | b :: rest =>
    let find (name : String) := assigned.get? name <|> (env.get? name).map some
    assign env (assigned.insert b.name (b.value.map (expand find))) rest

/-- Set the variables that have values; the first one that cannot be set stops. -/
def setAll (env : Environment) : List (String × Option String) → Environment × Option VariableError
  | [] => (env, none)
  | (_, none) :: rest => setAll env rest
  | (name, some value) :: rest =>
    match env.set name value with
    | .ok env' => setAll env' rest
    | .error e => (env, some e)

def disablingVariable : String := "PYTHON_DOTENV_DISABLED"

def disablingWords : List String := ["1", "true", "t", "yes", "y"]

/-- Whether an environment forbids that files are loaded. -/
def isDisabled (env : Environment) : Bool :=
  (env.get? disablingVariable).any fun word => disablingWords.contains (Text.withoutCase word)

def logger : String := "dotenv.main"

def badLineWarning (line : Nat) : String :=
  s!"python-dotenv could not parse statement starting at line {line}"

/-- The environment after a file, which overrides what was there. -/
def load (text : List Char) (env : Environment) : Environment × Option VariableError :=
  setAll env (assign env .empty (bindings text)).entries

end FeatureChoice.EnvFile
