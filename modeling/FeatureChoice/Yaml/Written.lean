import FeatureChoice.Text.Utf8
import FeatureChoice.Yaml.Cursor
import FeatureChoice.Yaml.Token
/-!
How names, tags, directives and scalars are written. Each reader takes the cursor at its first
character and yields what it read with the cursor behind it.

Scalars come in five styles: plain ones, single and double quotes, and the two block styles, one
that keeps its line breaks and one that folds them.
-/

namespace FeatureChoice.Yaml

/-- Whether a character can stand in the name of an anchor, handle or directive. -/
def isWordChar (c : Char) : Bool := c.isAlphanum || c = '-' || c = '_'

def isHexDigit (c : Char) : Bool :=
  c.isDigit || ('a' ≤ c && c ≤ 'f') || ('A' ≤ c && c ≤ 'F')

def hexValue (c : Char) : Nat :=
  if c.isDigit then c.toNat - 48 else if c.isLower then c.toNat - 87 else c.toNat - 55

def ofHex (cs : List Char) : Nat := cs.foldl (fun n c => n * 16 + hexValue c) 0

def ofDigits (cs : List Char) : Nat := cs.foldl (fun n c => n * 10 + (c.toNat - 48)) 0

def readWord (c : Cursor) : Except Error (String × Cursor) :=
  match c.span isWordChar with
  | ([], _) => .error .invalid
  | (word, after) => .ok (String.ofList word, after)

def readAnchor (c : Cursor) : Except Error (String × Cursor) := do
  let (name, after) ← readWord c.advance
  if isGap after.peek || "?:,]\x7d%@`".toList.contains after.peek then return (name, after)
  else throw .invalid

/-! ### Tags -/

/-- Bytes that are escaped by percent signs, as the text that they encode. -/
def readEscapedBytes : Nat → List UInt8 → Cursor → Except Error (List Char × Cursor)
  | fuel + 1, bytes, c =>
    if c.peek = '%' then
      if isHexDigit (c.peekAt 1) && isHexDigit (c.peekAt 2) then
        readEscapedBytes fuel (UInt8.ofNat (ofHex [c.peekAt 1, c.peekAt 2]) :: bytes) (c.advanceBy 3)
      else .error .invalid
    else match Text.decodeUtf8 bytes.reverse with
      | .ok cs => .ok (cs, c)
      | .error _ => .error .invalid
  | 0, _, _ => .error .invalid

def isTagChar (c : Char) : Bool :=
  c.isAlphanum || "-;/?:@&=+$,_.!~*'()[]%".toList.contains c

def readTagChars : Nat → List Char → Cursor → Except Error (List Char × Cursor)
  | fuel + 1, seen, c =>
    if c.peek = '%' then do
      let (cs, after) ← readEscapedBytes (c.rest.length + 1) [] c
      readTagChars fuel (cs.reverse ++ seen) after
    else if isTagChar c.peek then readTagChars fuel (c.peek :: seen) c.advance
    else .ok (seen.reverse, c)
  | 0, _, _ => .error .invalid

def readTagText (c : Cursor) : Except Error (String × Cursor) := do
  let (cs, after) ← readTagChars (c.rest.length + 1) [] c
  if isTagChar c.peek then return (String.ofList cs, after) else throw .invalid

/-- A handle: an exclamation mark alone, or a word between two of them. -/
def readHandle (c : Cursor) : Except Error (String × Cursor) :=
  if c.peek ≠ '!' then .error .invalid
  else
    let (word, after) := c.advance.span isWordChar
    if c.peekAt 1 = ' ' then .ok ("!", c.advance)
    else if after.peek = '!' then .ok ("!" ++ String.ofList word ++ "!", after.advance)
    else .error .invalid

/-- Whether the text before the next gap holds a second exclamation mark. -/
def hasHandle (cs : List Char) : Bool := (cs.takeWhile (!endsWord ·)).contains '!'

def readTag (c : Cursor) : Except Error (WrittenTag × Cursor) := do
  let next := c.peekAt 1
  let (tag, after) : WrittenTag × Cursor ←
    if next = '<' then do
      let (suffix, after) ← readTagText (c.advanceBy 2)
      if after.peek = '>' then pure (⟨none, suffix⟩, after.advance) else throw .invalid
    else if isGap next then pure (⟨none, "!"⟩, c.advance)
    else if hasHandle (c.rest.drop 1) then do
      let (handle, after) ← readHandle c
      let (suffix, after) ← readTagText after
      pure (⟨some handle, suffix⟩, after)
    else do
      let (suffix, after) ← readTagText c.advance
      pure (⟨some "!", suffix⟩, after)
  if endsWord after.peek then return (tag, after) else throw .invalid

/-! ### Directives -/

def readVersionNumber (c : Cursor) : Except Error (Nat × Cursor) :=
  match c.span Char.isDigit with
  | ([], _) => .error .invalid
  | (digits, after) =>
    if Numeral.maxDigits < digits.length then .error (.tooManyDigits digits.length)
    else .ok (ofDigits digits, after)

/-- The version that a directive states; what counts is the number before the point. -/
def readVersion (c : Cursor) : Except Error (Directive × Cursor) := do
  let (major, after) ← readVersionNumber c.skipSpaces
  if after.peek ≠ '.' then throw .invalid
  let (_, after) ← readVersionNumber after.advance
  if endsWord after.peek then return (.version major, after) else throw .invalid

def readHandleMeaning (c : Cursor) : Except Error (Directive × Cursor) := do
  let (handle, after) ← readHandle c.skipSpaces
  if after.peek ≠ ' ' then throw .invalid
  let (meaning, after) ← readTagText after.skipSpaces
  if endsWord after.peek then return (.handle handle meaning, after) else throw .invalid

def readDirective (c : Cursor) : Except Error (Directive × Cursor) := do
  let (name, after) ← readWord c.advance
  if !endsWord after.peek then throw .invalid
  let (directive, after) ←
    if name = "YAML" then readVersion after
    else if name = "TAG" then readHandleMeaning after
    else pure (.other, after.skip (!isBreak ·))
  return (directive, ← after.finishLine)

/-! ### Plain scalars -/

/-- The start of a text that belongs to a plain scalar. -/
def plainRun (flow : Bool) : List Char → List Char
  | [] => []
  | c :: cs =>
    let next := cs.headD endMark
    if isGap c || (flow && ",?[]\x7b\x7d".toList.contains c) ||
        (c = ':' && (isGap next || (flow && ",[]\x7b\x7d".toList.contains next))) then []
    else c :: plainRun flow cs

/-- What line breaks within a flowing scalar come to: one break is a space, and of more the first is
dropped; a separator stays. -/
def foldBreaks (first : Char) (more : List Char) : List Char :=
  if first ≠ '\n' then first :: more else if more.isEmpty then [' '] else more

/-- Blank lines after a line break of a plain scalar, unless a document mark ends them. -/
def plainBreaks : Nat → List Char → Cursor → Option (List Char) × Cursor
  | fuel + 1, seen, c =>
    if c.atDocumentStart || c.atDocumentEnd then (none, c)
    else
      let c := c.skipSpaces
      match c.takeBreak with
      | some (b, after) => plainBreaks fuel (b :: seen) after
      | none => (some seen.reverse, c)
  | 0, seen, c => (some seen.reverse, c)

/-- A plain scalar with the cursor behind it, and whether it went over a line break. -/
structure Plain where
  text : List Char
  broken : Bool
  deriving Repr

/-- What stands between two runs of a plain scalar; nothing if the scalar ends here. -/
def plainGap (c : Cursor) : List Char × Bool × Cursor :=
  let (spaces, after) := c.span (· = ' ')
  match after.takeBreak with
  | none => (spaces, false, after)
  | some (b, after) =>
    match plainBreaks (after.rest.length + 1) [] after with
    | (none, after) => ([], true, after)
    | (some more, after) => (foldBreaks b more, true, after)

/-- The runs of a plain scalar after the text read so far, which a gap separates from them. -/
def plainFrom (flow : Bool) (indent : Nat) : Nat → Plain → List Char → Cursor → Plain × Cursor
  | fuel + 1, seen, gap, c =>
    if c.peek = '#' then (seen, c)
    else
      match plainRun flow c.rest with
      | [] => (seen, c)
      | run =>
        let text := seen.text ++ gap ++ run
        let (next, broken, after) := plainGap (c.advanceBy run.length)
        if next.isEmpty || after.peek = '#' || (!flow && after.column < indent) then
          (⟨text, broken⟩, after)
        else plainFrom flow indent fuel ⟨text, broken⟩ next after
  | 0, seen, _, c => (seen, c)

/-- A plain scalar whose lines stand at a column or beyond. -/
def readPlain (flow : Bool) (indent : Nat) (c : Cursor) : Plain × Cursor :=
  plainFrom flow indent (c.rest.length + 1) ⟨[], false⟩ [] c

/-! ### Quoted scalars -/

def escapes : List (Char × Char) :=
  [('0', '\x00'), ('a', '\x07'), ('b', '\x08'), ('t', '\t'), ('\t', '\t'), ('n', '\n'),
   ('v', '\x0b'), ('f', '\x0c'), ('r', '\r'), ('e', '\x1b'), (' ', ' '), ('"', '"'),
   ('\\', '\\'), ('/', '/'), ('N', Char.ofNat 0x85), ('_', Char.ofNat 0xa0),
   ('L', Char.ofNat 0x2028), ('P', Char.ofNat 0x2029)]

/-- The greatest number that is taken for a code point at all. -/
def maxCode : Nat := 0x7fffffff

/-- The number of digits of a code point after a backslash and a letter. -/
def codeDigits : List (Char × Nat) := [('x', 2), ('u', 4), ('U', 8)]

/-- Line breaks within a quoted scalar, with the spaces at the start of each line. -/
def quotedBreaks : Nat → List Char → Cursor → Except Error (List Char × Cursor)
  | fuel + 1, seen, c =>
    if c.atDocumentStart || c.atDocumentEnd then .error .invalid
    else
      let c := c.skip isSpace
      match c.takeBreak with
      | some (b, after) => quotedBreaks fuel (b :: seen) after
      | none => .ok (seen.reverse, c)
  | 0, _, _ => .error .invalid

/-- What an escape stands for; the cursor is behind the backslash. -/
def readEscape (c : Cursor) : Except Error (List Char × Cursor) :=
  match escapes.lookup c.peek, codeDigits.lookup c.peek with
  | some d, _ => .ok ([d], c.advance)
  | none, some count =>
    let digits := (c.rest.drop 1).take count
    if digits.length = count && digits.all isHexDigit then
      let code := ofHex digits
      if code ≤ 0x10ffff then .ok ([Char.ofNat code], c.advanceBy (count + 1))
      else if code ≤ maxCode then .error .codePoint
      else .error .hugeCode
    else .error .invalid
  | none, none =>
    match c.takeBreak with
    | some (_, after) => quotedBreaks (after.rest.length + 1) [] after
    | none => .error .invalid

/-- Spaces and line breaks within a quoted scalar. -/
def quotedGap (c : Cursor) : Except Error (List Char × Cursor) :=
  let (spaces, after) := c.span isSpace
  if after.peek = endMark then .error .invalid
  else match after.takeBreak with
    | none => .ok (spaces, after)
    | some (b, after) => do
      let (more, after) ← quotedBreaks (after.rest.length + 1) [] after
      return (foldBreaks b more, after)

def quotedFrom (double : Bool) : Nat → List Char → Cursor → Except Error (List Char × Cursor)
  | fuel + 1, seen, c =>
    let x := c.peek
    if !double && x = '\'' && c.peekAt 1 = '\'' then
      quotedFrom double fuel ('\'' :: seen) (c.advanceBy 2)
    else if x = (if double then '"' else '\'') then .ok (seen.reverse, c.advance)
    else if double && x = '\\' then do
      let (cs, after) ← readEscape c.advance
      quotedFrom double fuel (cs.reverse ++ seen) after
    else if isGap x then do
      let (cs, after) ← quotedGap c
      quotedFrom double fuel (cs.reverse ++ seen) after
    else quotedFrom double fuel (x :: seen) c.advance
  | 0, _, _ => .error .invalid

def readQuoted (double : Bool) (c : Cursor) : Except Error (String × Cursor) := do
  let (cs, after) ← quotedFrom double (c.rest.length + 1) [] c.advance
  return (String.ofList cs, after)

/-! ### Block scalars -/

/-- What happens to the line breaks at the end of a block scalar. -/
inductive Chomping where
  /-- One of them stays. -/
  | clip
  /-- None stays. -/
  | strip
  /-- All stay. -/
  | keep
  deriving DecidableEq, Repr

/-- The header of a block scalar. -/
structure BlockHeader where
  chomping : Chomping
  increment : Option Nat
  deriving DecidableEq, Repr

def readChomping (c : Cursor) : Option (Chomping × Cursor) :=
  if c.peek = '+' then some (.keep, c.advance)
  else if c.peek = '-' then some (.strip, c.advance)
  else none

def readIncrement (c : Cursor) : Except Error (Option Nat × Cursor) :=
  if c.peek.isDigit then
    if c.peek = '0' then .error .invalid else .ok (some (c.peek.toNat - 48), c.advance)
  else .ok (none, c)

/-- The header of a block scalar, its marks in either order, with the rest of its line. -/
def readBlockHeader (c : Cursor) : Except Error (BlockHeader × Cursor) := do
  let (header, c) ← match readChomping c with
    | some (chomping, c) => do
      let (increment, c) ← readIncrement c
      pure (BlockHeader.mk chomping increment, c)
    | none => do
      let (increment, c) ← readIncrement c
      match increment, readChomping c with
      | some _, some (chomping, c) => pure (BlockHeader.mk chomping increment, c)
      | _, _ => pure (BlockHeader.mk .clip increment, c)
  if endsWord c.peek then return (header, ← c.finishLine) else throw .invalid

/-- The blank lines before a block scalar, and the greatest column that their spaces reach. -/
def blockIndentation : Nat → List Char → Nat → Cursor → List Char × Nat × Cursor
  | fuel + 1, seen, widest, c =>
    let c := c.skipSpaces
    let widest := max widest c.column
    match c.takeBreak with
    | some (b, after) => blockIndentation fuel (b :: seen) widest after
    | none => (seen.reverse, widest, c)
  | 0, seen, widest, c => (seen.reverse, widest, c)

def skipIndent (indent : Nat) (c : Cursor) : Cursor :=
  c.advanceBy (min (c.rest.takeWhile (· = ' ')).length (indent - c.column))

/-- The blank lines between lines of a block scalar. -/
def blockBreaks (indent : Nat) : Nat → List Char → Cursor → List Char × Cursor
  | fuel + 1, seen, c =>
    let c := skipIndent indent c
    match c.takeBreak with
    | some (b, after) => blockBreaks indent fuel (b :: seen) after
    | none => (seen.reverse, c)
  | 0, seen, c => (seen.reverse, c)

/-- The lines of a block scalar after the text and the blank lines read so far. -/
def blockLines (folded : Bool) (indent : Nat) (chomping : Chomping) :
    Nat → List Char → List Char → Cursor → List Char × Cursor
  | fuel + 1, seen, breaks, c =>
    let (line, after) := c.span (!isBreak ·)
    let text := seen ++ breaks ++ line
    let (lineBreak, after) : List Char × Cursor := match after.takeBreak with
      | some (b, next) => ([b], next)
      | none => ([], after)
    let (more, after) := blockBreaks indent (after.rest.length + 1) [] after
    if after.column = indent && after.peek ≠ endMark then
      let joint :=
        if folded && lineBreak = ['\n'] && !isSpace c.peek && !isSpace after.peek then
          if more.isEmpty then [' '] else []
        else lineBreak
      blockLines folded indent chomping fuel (text ++ joint) more after
    else
      match chomping with
      | .clip => (text ++ lineBreak, after)
      | .strip => (text, after)
      | .keep => (text ++ lineBreak ++ more, after)
  | 0, seen, _, c => (seen, c)

/-- A block scalar within a block of an indentation; `folded` tells its style. -/
def readBlock (folded : Bool) (blockIndent : Int) (c : Cursor) : Except Error (String × Cursor) := do
  let (header, c) ← readBlockHeader c.advance
  let least := max (blockIndent + 1) 1 |>.toNat
  let (breaks, indent, c) : List Char × Nat × Cursor := match header.increment with
    | none =>
      let (breaks, widest, c) := blockIndentation (c.rest.length + 1) [] 0 c
      (breaks, max least widest, c)
    | some increment =>
      let indent := least + increment - 1
      let (breaks, c) := blockBreaks indent (c.rest.length + 1) [] c
      (breaks, indent, c)
  if c.column = indent && c.peek ≠ endMark then
    let (cs, after) := blockLines folded indent header.chomping (c.rest.length + 1) [] breaks c
    return (String.ofList cs, after)
  else if header.chomping = .keep then return (String.ofList breaks, c)
  else return ("", c)

end FeatureChoice.Yaml
