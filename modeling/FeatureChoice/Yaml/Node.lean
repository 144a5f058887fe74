import FeatureChoice.Yaml.Implicit
import FeatureChoice.Yaml.Lexer
/-!
The nodes of a document: scalars, sequences and mappings, each with a tag. Nodes refer to each other
by their places in a list, so that an alias leads to the very node that its anchor marks, and a
node may hold itself.

Reading nodes from tokens follows the grammar of YAML: nodes with properties, block and flow
collections, sequences that need no indentation of their own, and pairs within flow sequences.
-/

namespace FeatureChoice.Yaml

abbrev NodeId := Nat

/-- What a node holds. -/
inductive Content where
  | scalar (text : String)
  | sequence (items : List NodeId)
  | mapping (entries : List (NodeId × NodeId))
  deriving DecidableEq, Repr, Inhabited

/-- A node. -/
structure Node where
  tag : String
  content : Content
  deriving DecidableEq, Repr, Inhabited

abbrev Nodes := Array Node

/-- The state of reading nodes: the tokens ahead, the nodes so far, the anchors and the handles. -/
structure Composition where
  tokens : List Token
  failure : Error
  nodes : Nodes
  anchors : List (String × NodeId)
  handles : List (String × String)

abbrev Composer := StateT Composition (Except Error)

namespace Composer

/-- The next token. -/
def peek : Composer Token := do
  let s ← get
  match s.tokens with
  | t :: _ => return t
  | [] => throw s.failure

/-- Pass the next token. -/
def pass : Composer Unit := modify fun s => { s with tokens := s.tokens.tail }

def passIf (t : Token) : Composer Bool := do
  if (← peek) = t then
    pass
    return true
  else return false

def expect (t : Token) : Composer Unit := do
  if !(← passIf t) then throw .invalid

def add (n : Node) : Composer NodeId := do
  let s ← get
  set { s with nodes := s.nodes.push n }
  return s.nodes.size

def fill (id : NodeId) (c : Content) : Composer Unit :=
  modify fun s => { s with nodes := s.nodes.modify id fun n => { n with content := c } }

/-- Mark a node with an anchor, if it has one. -/
def mark (anchor : Option String) (id : NodeId) : Composer Unit := do
  if let some name := anchor then
    modify fun s => { s with anchors := (name, id) :: s.anchors }

/-- The node of an empty place. -/
def empty : Composer NodeId := add ⟨Tag.null, .scalar ""⟩

def fullTag (t : WrittenTag) : Composer String := do
  match t.handle with
  | none => return t.suffix
  | some handle =>
    match (← get).handles.lookup handle with
    | some meaning => return meaning ++ t.suffix
    | none => throw .invalid

/-- The properties of a node: an anchor and a tag, in either order. -/
def properties : Composer (Option String × Option String) := do
  match ← peek with
  | .anchor name =>
    pass
    match ← peek with
    | .tag t =>
      pass
      return (some name, some (← fullTag t))
    | _ => return (some name, none)
  | .tag t =>
    pass
    match ← peek with
    | .anchor name =>
      pass
      return (some name, some (← fullTag t))
    | _ => return (none, some (← fullTag t))
  | _ => return (none, none)

def collectionTag (tag : Option String) (usual : String) : String :=
  match tag with
  | none => usual
  | some t => if t = "!" then usual else t

/-- The tag of a scalar: a plain scalar, or one with the tag that leaves it open, has the tag of its
form; any other scalar without a tag is a text. -/
def scalarTag (tag : Option String) (text : String) (plain : Bool) : String :=
  match tag with
  | none => if plain then Tag.ofText text else Tag.str
  | some t => if t = "!" then Tag.ofText text else t

/-- What can stand at the place of a node. -/
inductive Position where
  /-- A node within brackets. -/
  | flow
  /-- A node of a block. -/
  | block
  /-- A node of a block mapping, whose sequence may stand at the mapping's own column. -/
  | value
  deriving DecidableEq, Repr

mutual

def node : Nat → Position → Composer NodeId
  | 0, _ => throw .invalid
  | fuel + 1, position => do
    if let .alias name ← peek then
      pass
      match (← get).anchors.lookup name with
      | some id => return id
      | none => throw .invalid
    let (anchor, tag) ← properties
    if let some name := anchor then
      if ((← get).anchors.lookup name).isSome then throw .invalid
    let sequence (items : Composer (List NodeId)) : Composer NodeId := do
      let id ← add ⟨collectionTag tag Tag.seq, .sequence []⟩
      mark anchor id
      fill id (.sequence (← items))
      return id
    let mapping (entries : Composer (List (NodeId × NodeId))) : Composer NodeId := do
      let id ← add ⟨collectionTag tag Tag.map, .mapping []⟩
      mark anchor id
      fill id (.mapping (← entries))
      return id
    match ← peek with
    | .blockEntry =>
      if position = .value then sequence (bareItems fuel)
      else if anchor.isSome || tag.isSome then emptyWith anchor tag
      else throw .invalid
    | .scalar text plain =>
      pass
      let id ← add ⟨scalarTag tag text plain, .scalar text⟩
      mark anchor id
      return id
    | .flowSequenceStart =>
      pass
      sequence (flowItems fuel true)
    | .flowMappingStart =>
      pass
      mapping (flowEntries fuel true)
    | .blockSequenceStart =>
      if position = .flow then
        if anchor.isSome || tag.isSome then emptyWith anchor tag else throw .invalid
      else
        pass
        sequence (blockItems fuel)
    | .blockMappingStart =>
      if position = .flow then
        if anchor.isSome || tag.isSome then emptyWith anchor tag else throw .invalid
      else
        pass
        mapping (blockEntries fuel)
    | _ =>
      if anchor.isSome || tag.isSome then emptyWith anchor tag else throw .invalid

/-- A node without content of its own but with properties. -/
def emptyWith (anchor tag : Option String) : Composer NodeId := do
  let id ← add ⟨scalarTag tag "" tag.isNone, .scalar ""⟩
  mark anchor id
  return id

/-- A node, or an empty place before one of some tokens. -/
def nodeUnless : Nat → Position → List Token → Composer NodeId
  | 0, _, _ => throw .invalid
  | fuel + 1, position, ends => do
    if ends.contains (← peek) then empty else node fuel position

def blockItems : Nat → Composer (List NodeId)
  | 0 => throw .invalid
  | fuel + 1 => do
    if ← passIf .blockEntry then
      let item ← nodeUnless fuel .block [.blockEntry, .blockEnd]
      return item :: (← blockItems fuel)
    else
      expect .blockEnd
      return []

/-- The items of a sequence without indentation of its own. -/
def bareItems : Nat → Composer (List NodeId)
  | 0 => throw .invalid
  | fuel + 1 => do
    if ← passIf .blockEntry then
      let item ← nodeUnless fuel .block [.blockEntry, .key, .value, .blockEnd]
      return item :: (← bareItems fuel)
    else return []

def blockEntries : Nat → Composer (List (NodeId × NodeId))
  | 0 => throw .invalid
  | fuel + 1 => do
    if ← passIf .key then
      let ends := [.key, .value, .blockEnd]
      let key ← nodeUnless fuel .value ends
      let value ← if ← passIf .value then nodeUnless fuel .value ends else empty
      return (key, value) :: (← blockEntries fuel)
    else
      expect .blockEnd
      return []

/-- The value of an entry within brackets that some token closes. -/
def flowValue : Nat → Token → Composer NodeId
  | 0, _ => throw .invalid
  | fuel + 1, closing => do
    if ← passIf .value then nodeUnless fuel .flow [.flowEntry, closing] else empty

/-- The items of a flow sequence, up to its end; a pair among them is a mapping of one entry. -/
def flowItems : Nat → Bool → Composer (List NodeId)
  | 0, _ => throw .invalid
  | fuel + 1, first => do
    if ← passIf .flowSequenceEnd then return []
    if !first then expect .flowEntry
    if ← passIf .key then
      let id ← add ⟨Tag.map, .mapping []⟩
      let key ← nodeUnless fuel .flow [.value, .flowEntry, .flowSequenceEnd]
      let value ← flowValue fuel .flowSequenceEnd
      fill id (.mapping [(key, value)])
      return id :: (← flowItems fuel false)
    else if ← passIf .flowSequenceEnd then return []
    else
      let item ← node fuel .flow
      return item :: (← flowItems fuel false)

/-- The entries of a flow mapping, up to its end; a node alone is a key without a value. -/
def flowEntries : Nat → Bool → Composer (List (NodeId × NodeId))
  | 0, _ => throw .invalid
  | fuel + 1, first => do
    if ← passIf .flowMappingEnd then return []
    if !first then expect .flowEntry
    if ← passIf .key then
      let key ← nodeUnless fuel .flow [.value, .flowEntry, .flowMappingEnd]
      let value ← flowValue fuel .flowMappingEnd
      return (key, value) :: (← flowEntries fuel false)
    else if ← passIf .flowMappingEnd then return []
    else
      let key ← node fuel .flow
      let value ← empty
      return (key, value) :: (← flowEntries fuel false)

end

/-! ### Documents -/

def usualHandles : List (String × String) := [("!", "!"), ("!!", Tag.root)]

/-- The directives before a document. At most one states a version, which has to be of the first
generation, and no handle is given two meanings. -/
def directives : Nat → Bool → List (String × String) → Composer (List (String × String))
  | 0, _, _ => throw .invalid
  | fuel + 1, versioned, handles => do
    match ← peek with
    | .directive (.version major) =>
      if versioned || major ≠ 1 then throw .invalid
      pass
      directives fuel true handles
    | .directive (.handle name meaning) =>
      if (handles.lookup name).isSome then throw .invalid
      pass
      directives fuel versioned ((name, meaning) :: handles)
    | .directive .other =>
      pass
      directives fuel versioned handles
    | _ => return handles

def passDocumentEnds : Nat → Composer Unit
  | 0 => return
  | fuel + 1 => do
    if ← passIf .documentEnd then passDocumentEnds fuel

/-- Whether a token belongs to the marks around documents. -/
def isBoundary : Token → Bool
  | .directive _ | .documentStart | .documentEnd | .streamEnd => true
  | _ => false

def document (fuel : Nat) : Composer (Option NodeId) := do
  let first ← peek
  let implicit := match first with
    | .directive _ | .documentStart | .streamEnd => false
    | _ => true
  if implicit then
    let id ← node fuel .block
    passDocumentEnds fuel
    expect .streamEnd
    return some id
  else
    passDocumentEnds fuel
    if ← passIf .streamEnd then return none
    let handles ← directives fuel false []
    modify fun s => { s with handles := handles ++ usualHandles }
    expect .documentStart
    let id ← if isBoundary (← peek) then empty else node fuel .block
    passDocumentEnds fuel
    expect .streamEnd
    return some id

end Composer

/-- The nodes of a text and the place of the outermost one, if the text holds a document. -/
def compose (cs : List Char) : Except Error (Nodes × Option NodeId) := do
  let (tokens, failure) := tokenize cs
  let start : Composition := ⟨tokens, failure.getD .invalid, #[], [], Composer.usualHandles⟩
  let (root, s) ← (Composer.document (4 * tokens.length + 8)).run start
  return (s.nodes, root)

end FeatureChoice.Yaml
