import FeatureChoice.Yaml.Node
import FeatureChoice.Yaml.Scalar
/-!
The data of a document. Mappings take over the entries of the mappings that they merge; then every
node becomes data, the outermost first and those inside a collection after the collections before
it. A key has to be a scalar. Of equal keys the first gives the place and the last the value.
-/

namespace FeatureChoice.Yaml

/-- What a node has become. -/
inductive Datum where
  | scalar (v : Value)
  | list (items : List NodeId)
  | pairs (items : List (NodeId × NodeId))
  | map (entries : List (Value × NodeId))
  | set (items : List Value)
  deriving Repr, Inhabited

/-! ### Merging -/

def nodeAt (nodes : Nodes) (id : NodeId) : Node := nodes.getD id default

def entriesAt (nodes : Nodes) (id : NodeId) : List (NodeId × NodeId) :=
  match (nodeAt nodes id).content with
  | .mapping entries => entries
  | _ => []

def setEntries (nodes : Nodes) (id : NodeId) (entries : List (NodeId × NodeId)) : Nodes :=
  nodes.modify id fun n => { n with content := .mapping entries }

def isMapping (nodes : Nodes) (id : NodeId) : Bool :=
  match (nodeAt nodes id).content with
  | .mapping _ => true
  | _ => false

/-- Replace the merge keys of a mapping by the entries of what they name, put in front; the entries
before `index` are settled, and `merged` holds those to be put in front. Mappings that are named are
treated first. -/
def mergeFrom : Nat → NodeId → Nat → List (NodeId × NodeId) → Nodes → Except Error Nodes
  | 0, _, _, _, _ => .error .invalid
  | fuel + 1, id, index, merged, nodes =>
    let entries := entriesAt nodes id
    match entries[index]? with
    | none => .ok (if merged.isEmpty then nodes else setEntries nodes id (merged ++ entries))
    | some (key, value) =>
      let tag := (nodeAt nodes key).tag
      if tag = Tag.merge then do
        let nodes := setEntries nodes id (entries.eraseIdx index)
        let named ← match (nodeAt nodes value).content with
          | .mapping _ => pure [value]
          | .sequence items => if items.all (isMapping nodes) then pure items else throw .invalid
          | .scalar _ => throw .invalid
        let (nodes, taken) ← named.foldlM (fun (nodes, taken) other => do
          let nodes ← mergeFrom fuel other 0 [] nodes
          pure (nodes, entriesAt nodes other ++ taken)) (nodes, [])
        mergeFrom fuel id index (merged ++ taken) nodes
      else if tag = Tag.value then
        mergeFrom fuel id (index + 1) merged (nodes.modify key fun n => { n with tag := Tag.str })
      else mergeFrom fuel id (index + 1) merged nodes

def countEntries (nodes : Nodes) : Nat :=
  nodes.foldl (fun n node => n + match node.content with
    | .mapping entries => entries.length
    | _ => 0) 0

def countMerges (nodes : Nodes) : Nat :=
  nodes.foldl (fun n node => if node.tag = Tag.merge then n + 1 else n) 0

/-- Replace the merge keys of a mapping. Each merge key at most doubles what there is to pass. -/
def merge (nodes : Nodes) (id : NodeId) : Except Error Nodes :=
  mergeFrom ((countEntries nodes + 2) * Nat.pow 4 (countMerges nodes + 1)) id 0 [] nodes

/-! ### From nodes to data -/

/-- A key with the node that it was written as and the text of that node. -/
structure MadeKey where
  id : NodeId
  text : String
  value : Value
  deriving Repr

/-- Whether two keys are one. A double that is no number is the same as another one only if both are
one node, or if both are written by its name. -/
def MadeKey.isSame (k other : MadeKey) : Bool :=
  k.id = other.id || k.value.sameKey other.value ||
    (k.value == .float .nan && other.value == .float .nan && namesNan k.text &&
      namesNan other.text)

/-- The state of making data: the nodes, what they have become, and the collections that are not
filled yet. -/
structure Making where
  nodes : Nodes
  data : Array (Option Datum)
  waiting : List NodeId

abbrev Maker := StateT Making (Except Error)

namespace Maker

/-- The text of a scalar. A mapping stands for the value of its special key. -/
def textOf (nodes : Nodes) : Nat → NodeId → Except Error String
  | 0, _ => .error .invalid
  | fuel + 1, id =>
    match (nodeAt nodes id).content with
    | .scalar text => .ok text
    | .sequence _ => .error .invalid
    | .mapping entries =>
      match entries.find? fun entry => (nodeAt nodes entry.1).tag = Tag.value with
      | some (_, value) => textOf nodes fuel value
      | none => .error .invalid

def emptyOf (tag : String) : Option Datum :=
  if tag = Tag.seq then some (.list [])
  else if tag = Tag.map then some (.map [])
  else if tag = Tag.set then some (.set [])
  else if tag = Tag.omap || tag = Tag.pairs then some (.pairs [])
  else none

/-- Let a node become what it is to be. -/
def put (id : NodeId) (d : Datum) : Maker Unit :=
  modify fun s => { s with data := s.data.setIfInBounds id (some d) }

/-- Begin a node: a scalar becomes its value, a collection is empty and has to wait. -/
def begin (id : NodeId) : Maker Datum := do
  let s ← get
  match s.data.getD id none with
  | some d => return d
  | none =>
    let tag := (nodeAt s.nodes id).tag
    match emptyOf tag with
    | some d =>
      set { s with data := s.data.setIfInBounds id (some d), waiting := s.waiting ++ [id] }
      return d
    | none =>
      let text ← textOf s.nodes (s.nodes.size + 1) id
      -- a moment is not read off the text for which its mapping stands, but off the node
      if tag = Tag.timestamp && isMapping s.nodes id then
        throw (.other "TypeError" "expected string or bytes-like object, got 'list'")
      let d := Datum.scalar (← readScalar tag text)
      put id d
      return d

/-- Begin a key, which has to be a scalar. -/
def beginKey (id : NodeId) : Maker MadeKey := do
  match ← begin id with
  | .scalar v =>
    let nodes := (← get).nodes
    return ⟨id, (textOf nodes (nodes.size + 1) id).toOption.getD "", v⟩
  | _ => throw .invalid

/-- Set the node of a key among entries; a key that is there keeps its place and its form. -/
def putNode (key : MadeKey) (id : NodeId) : List (MadeKey × NodeId) → List (MadeKey × NodeId)
  | [] => [(key, id)]
  | (k, old) :: rest => if k.isSame key then (k, id) :: rest else (k, old) :: putNode key id rest

def entries (id : NodeId) : Maker (List (MadeKey × NodeId)) := do
  let s ← get
  if !isMapping s.nodes id then throw .invalid
  let nodes ← merge s.nodes id
  set { s with nodes := nodes }
  (entriesAt nodes id).foldlM (fun done (key, value) => do
    let k ← beginKey key
    let _ ← begin value
    return putNode k value done) []

def items (id : NodeId) : Maker (List NodeId) := do
  match (nodeAt (← get).nodes id).content with
  | .sequence items => return items
  | _ => throw .invalid

def onlyEntry (id : NodeId) : Maker (NodeId × NodeId) := do
  match (nodeAt (← get).nodes id).content with
  | .mapping [entry] =>
    let _ ← begin entry.1
    let _ ← begin entry.2
    return entry
  | _ => throw .invalid

def fill (id : NodeId) : Maker Unit := do
  match (← get).data.getD id none with
  | some (.list _) =>
    let items ← items id
    for item in items do
      let _ ← begin item
    put id (.list items)
  | some (.map _) => put id (.map ((← entries id).map fun (k, value) => (k.value, value)))
  | some (.set _) => put id (.set ((← entries id).map fun (k, _) => k.value))
  | some (.pairs _) => put id (.pairs (← (← items id).mapM onlyEntry))
  | _ => return

/-- Fill the collections that wait, in the order in which they were begun. Each node waits once. -/
def fillAll : Nat → Maker Unit
  | 0 => return
  | fuel + 1 => do
    let s ← get
    match s.waiting with
    | [] => return
    | id :: waiting =>
      set { s with waiting := waiting }
      fill id
      fillAll fuel

end Maker

/-! ### Values -/

/-- The value of a node; `inside` are the collections that it stands in, which cannot be written
out again. -/
def valueOf (data : Array (Option Datum)) : Nat → List NodeId → NodeId → Value
  | 0, _, _ => .none
  | fuel + 1, inside, id =>
    let part := valueOf data fuel (id :: inside)
    match data.getD id none with
    | none => .none
    | some (.scalar v) => v
    | some (.set items) => .set items
    | some (.list items) =>
      if inside.contains id then .again "[" "]" else .list (items.map part)
    | some (.pairs items) =>
      if inside.contains id then .again "[" "]"
      else .list (items.map fun (a, b) => .pair (part a) (part b))
    | some (.map entries) =>
      if inside.contains id then .again "\x7b" "\x7d"
      else .map (entries.map fun (k, v) => (k, part v))

/-- The value of a whole document; each value of an outermost mapping is written out on its own. -/
def rootValue (data : Array (Option Datum)) (id : NodeId) : Value :=
  let size := data.size + 1
  match data.getD id none with
  | some (.map entries) => .map (entries.map fun (k, v) => (k, valueOf data size [] v))
  | _ => valueOf data size [] id

def isAllowed (c : Char) : Bool :=
  let n := c.toNat
  n = 0x09 || n = 0x0a || n = 0x0d || (0x20 ≤ n && n ≤ 0x7e) || n = 0x85 ||
    (0xa0 ≤ n && n ≤ 0xfffd) || 0x10000 ≤ n

/-- The data of a text in which every line ends with a line feed. A text without a document holds
nothing. -/
def load : Loader := fun cs => do
  if !cs.all isAllowed then throw .invalid
  let (nodes, root) ← compose cs
  match root with
  | none => return .none
  | some id =>
    let start : Making := ⟨nodes, Array.replicate nodes.size none, []⟩
    let (_, made) ← (do
      let _ ← Maker.begin id
      Maker.fillAll (nodes.size + 1)).run start
    return rootValue made.data id

end FeatureChoice.Yaml
