import FeatureChoice.Yaml.Written
/-!
Cutting a document into tokens. Outside of brackets the structure is implied by columns: a token
further to the right than the current block opens a new one, and a token further to the left closes
blocks. A scalar or collection becomes a key only when a colon follows it on its line, within a
limited distance; until then it is remembered as a possible key, one for each depth of brackets.
-/

namespace FeatureChoice.Yaml

/-- Something that may turn out to be a key: the token it starts with, where that stands, and
whether nothing else can stand there. -/
structure PossibleKey where
  level : Nat
  token : Nat
  required : Bool
  index : Nat
  line : Nat
  column : Nat
  deriving DecidableEq, Repr

def maxKeyLength : Nat := 1024

/-- The state of cutting: the cursor, the tokens so far, the depth of brackets, the column of the
current block and those of the blocks around it, and the possible keys. -/
structure Lexer where
  cursor : Cursor
  tokens : Array Token
  flow : Nat
  indent : Int
  indents : List Int
  keyAllowed : Bool
  keys : List PossibleKey
  deriving Repr

namespace Lexer

def start (cs : List Char) : Lexer := ⟨.start cs, #[], 0, -1, [], true, []⟩

def push (l : Lexer) (t : Token) : Lexer := { l with tokens := l.tokens.push t }

/-- A token put in front of a token that is there already. -/
def insert (l : Lexer) (place : Nat) (t : Token) : Lexer :=
  { l with tokens := (l.tokens.extract 0 place).push t ++ l.tokens.extract place l.tokens.size }

/-- Whether a key can still end at the cursor. -/
def inReach (l : Lexer) (k : PossibleKey) : Bool :=
  k.line = l.cursor.line && l.cursor.index - k.index ≤ maxKeyLength

/-- Forget the possible keys that are out of reach. One that was required is an error. -/
def dropStale (l : Lexer) : Except Error Lexer :=
  if l.keys.any fun k => k.required && !l.inReach k then .error .invalid
  else .ok { l with keys := l.keys.filter l.inReach }

/-- Forget the possible key at this depth. One that was required is an error. -/
def dropKey (l : Lexer) : Except Error Lexer :=
  if l.keys.any fun k => k.level = l.flow && k.required then .error .invalid
  else .ok { l with keys := l.keys.filter fun k => k.level ≠ l.flow }

/-- Remember that the next token may start a key. -/
def saveKey (l : Lexer) : Except Error Lexer := do
  if l.keyAllowed then
    let required := l.flow = 0 && l.indent = l.cursor.column
    let l ← l.dropKey
    let k : PossibleKey :=
      ⟨l.flow, l.tokens.size, required, l.cursor.index, l.cursor.line, l.cursor.column⟩
    return { l with keys := l.keys ++ [k] }
  else return l

/-- Close the blocks that stand further to the right than a column. -/
def closeBlocks (l : Lexer) (column : Int) : Lexer :=
  let closed := (l.indent :: l.indents).takeWhile (column < ·)
  if l.flow = 0 then
    { l with
      tokens := l.tokens ++ (closed.map fun _ => Token.blockEnd).toArray
      indent := ((l.indent :: l.indents).drop closed.length).headD (-1)
      indents := (l.indent :: l.indents).drop (closed.length + 1) }
  else l

/-- Open a block at a column, if it stands further to the right than the current one; the mark of
the block goes in front of the token at a place. -/
def openBlock (l : Lexer) (column : Nat) (place : Nat) (mark : Token) : Lexer :=
  if l.indent < column then
    { l with indent := column, indents := l.indent :: l.indents }.insert place mark
  else l

/-- A token of so many characters. -/
def mark (l : Lexer) (length : Nat) (t : Token) : Lexer :=
  { l with cursor := l.cursor.advanceBy length }.push t

/-- A token that was read from the cursor on. -/
def read (l : Lexer) (t : Except Error (Token × Cursor)) : Except Error Lexer := do
  let (t, cursor) ← t
  return { l with cursor := cursor }.push t

/-- The cursor at the next token. A line break allows a key, unless brackets are open. -/
def skipToToken : Nat → Lexer → Lexer
  | 0, l => l
  | fuel + 1, l =>
    let cursor := l.cursor.skipSpaces.skipComment
    match cursor.takeBreak with
    | none => { l with cursor := cursor }
    | some (_, after) =>
      skipToToken fuel { l with cursor := after, keyAllowed := l.keyAllowed || l.flow = 0 }

def skipOrderMark (l : Lexer) : Lexer :=
  if l.cursor.index = 0 && l.cursor.peek.toNat = 0xfeff then
    { l with cursor := l.cursor.advance }
  else l

/-! ### Kinds of tokens -/

def documentMark (l : Lexer) (t : Token) : Except Error Lexer := do
  let l ← (l.closeBlocks (-1)).dropKey
  return { l with keyAllowed := false }.mark 3 t

def openFlow (l : Lexer) (t : Token) : Except Error Lexer := do
  let l ← l.saveKey
  return { l with flow := l.flow + 1, keyAllowed := true }.mark 1 t

def closeFlow (l : Lexer) (t : Token) : Except Error Lexer := do
  let l ← l.dropKey
  return { l with flow := l.flow - 1, keyAllowed := false }.mark 1 t

def flowEntry (l : Lexer) : Except Error Lexer := do
  let l ← l.dropKey
  return { l with keyAllowed := true }.mark 1 .flowEntry

def blockEntry (l : Lexer) : Except Error Lexer := do
  if l.flow = 0 && !l.keyAllowed then throw .invalid
  let l := if l.flow = 0 then l.openBlock l.cursor.column l.tokens.size .blockSequenceStart else l
  let l ← l.dropKey
  return { l with keyAllowed := true }.mark 1 .blockEntry

def explicitKey (l : Lexer) : Except Error Lexer := do
  if l.flow = 0 && !l.keyAllowed then throw .invalid
  let l := if l.flow = 0 then l.openBlock l.cursor.column l.tokens.size .blockMappingStart else l
  let l ← l.dropKey
  return { l with keyAllowed := l.flow = 0 }.mark 1 .key

/-- The colon before a value. The possible key at this depth becomes a key. -/
def valueMark (l : Lexer) : Except Error Lexer := do
  match l.keys.find? fun k => k.level = l.flow with
  | some k =>
    let l := { l with keys := l.keys.filter fun k => k.level ≠ l.flow, keyAllowed := false }
    let l := l.insert k.token .key
    let l := if l.flow = 0 then l.openBlock k.column k.token .blockMappingStart else l
    return l.mark 1 .value
  | none =>
    if l.flow = 0 && !l.keyAllowed then throw .invalid
    let l := if l.flow = 0 then l.openBlock l.cursor.column l.tokens.size .blockMappingStart else l
    let l ← l.dropKey
    return { l with keyAllowed := l.flow = 0 }.mark 1 .value

/-- A token that can start a key and cannot be followed by one. -/
def content (l : Lexer) (t : Except Error (Token × Cursor)) : Except Error Lexer := do
  let l ← l.saveKey
  { l with keyAllowed := false }.read t

/-- A plain scalar; a line break in it or after it allows a key. -/
def plain (l : Lexer) : Except Error Lexer := do
  let l ← l.saveKey
  let (scalar, cursor) := readPlain (l.flow ≠ 0) (l.indent + 1).toNat l.cursor
  let l := { l with cursor := cursor, keyAllowed := scalar.broken }
  return l.push (.scalar (String.ofList scalar.text) true)

def block (l : Lexer) (folded : Bool) : Except Error Lexer := do
  let l ← l.dropKey
  { l with keyAllowed := true }.read
    ((readBlock folded l.indent l.cursor).map fun (s, c) => (.scalar s false, c))

def startsPlain (l : Lexer) (c next : Char) : Bool :=
  (!isGap c && !"-?:,[]\x7b\x7d#&*!|>'\"%@`".toList.contains c) ||
    (!isGap next && (c = '-' || (l.flow = 0 && (c = '?' || c = ':'))))

def token (l : Lexer) : Except Error Lexer :=
  let c := l.cursor.peek
  let next := l.cursor.peekAt 1
  let inFlow := l.flow ≠ 0
  if c = '%' && l.cursor.column = 0 then do
    let l ← (l.closeBlocks (-1)).dropKey
    { l with keyAllowed := false }.read
      ((readDirective l.cursor).map fun (d, c) => (.directive d, c))
  else if l.cursor.column = 0 && l.cursor.atDocumentStart then l.documentMark .documentStart
  else if l.cursor.column = 0 && l.cursor.atDocumentEnd then l.documentMark .documentEnd
  else if c = '[' then l.openFlow .flowSequenceStart
  else if c = '\x7b' then l.openFlow .flowMappingStart
  else if c = ']' then l.closeFlow .flowSequenceEnd
  else if c = '\x7d' then l.closeFlow .flowMappingEnd
  else if c = ',' then l.flowEntry
  else if c = '-' && isGap next then l.blockEntry
  else if c = '?' && (inFlow || isGap next) then l.explicitKey
  else if c = ':' && (inFlow || isGap next) then l.valueMark
  else if c = '*' then
    l.content ((readAnchor l.cursor).map fun (s, c) => (.alias s, c))
  else if c = '&' then
    l.content ((readAnchor l.cursor).map fun (s, c) => (.anchor s, c))
  else if c = '!' then
    l.content ((readTag l.cursor).map fun (t, c) => (.tag t, c))
  else if c = '|' && !inFlow then l.block false
  else if c = '>' && !inFlow then l.block true
  else if c = '\'' then
    l.content ((readQuoted false l.cursor).map fun (s, c) => (.scalar s false, c))
  else if c = '"' then
    l.content ((readQuoted true l.cursor).map fun (s, c) => (.scalar s false, c))
  else if l.startsPlain c next then l.plain
  else .error .invalid

/-- Go on to the next token and read it; the second part tells whether it was the last. -/
def next (l : Lexer) : Except Error (Lexer × Bool) := do
  let l := skipToToken (l.cursor.rest.length + 1) l.skipOrderMark
  let l := (← l.dropStale).closeBlocks l.cursor.column
  if l.cursor.peek = endMark then
    let l ← (l.closeBlocks (-1)).dropKey
    return (l.push .streamEnd, true)
  else return (← l.token, false)

/-- The tokens that are settled: none from the first possible key on. -/
def settled (l : Lexer) : List Token :=
  let first := (l.keys.filter l.inReach).foldl (fun n k => min n k.token) l.tokens.size
  (l.tokens.extract 0 first).toList

/-- Read tokens to the end, or to the first error; each step passes at least one character. -/
def run : Nat → Lexer → List Token × Option Error
  | 0, l => (l.settled, some .invalid)
  | fuel + 1, l =>
    match l.next with
    | .error e => (l.settled, some e)
    | .ok (l, true) => (l.tokens.toList, none)
    | .ok (l, false) => run fuel l

end Lexer

def tokenize (cs : List Char) : List Token × Option Error :=
  (Lexer.start cs).run (cs.length + 2)

end FeatureChoice.Yaml
