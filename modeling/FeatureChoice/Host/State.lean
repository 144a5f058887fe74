import FeatureChoice.Feature.Cache
import FeatureChoice.Selection.Trace
/-!
The state of a host: its caches, documents and elements, what its probes were seen to do, and the
log. Probes act on one of the caches, the workspace.
-/

namespace FeatureChoice

/-- The place of a cache among those of a host. -/
structure CacheId where
  index : Nat
  deriving DecidableEq, Repr

/-- What a probe can do to the host. -/
inductive Action where
  | query
  | register
  | markup
  | append
  | reset
  | select
  deriving DecidableEq, Repr

def Action.name : Action → String
  | .query => "query"
  | .register => "register"
  | .markup => "html"
  | .append => "append"
  | .reset => "reset"
  | .select => "select"

/-- What a probe was seen to do. -/
inductive Call where
  /-- A probe was called with these globals, with a document or without, and with an element of
  this markup or none. -/
  | invoked (label : String) (globals : Globals) (hasDocument : Bool) (markup : Option String)
  /-- A probe acted, with this result. -/
  | acted (label : String) (action : Action) (result : Value)
  deriving Repr

/-- The state of a host. -/
structure Host where
  caches : OrderedMap CacheId Cache
  workspace : Option CacheId
  elements : OrderedMap ElementId Element
  documents : OrderedMap DocumentId Document
  calls : List Call
  journal : Log.Journal
  tracing : Bool
  /-- The variables around the library that probes share. -/
  ambient : OrderedMap String Value

namespace Host

def workspaceName : String := "main"

def empty : Host := ⟨.empty, none, .empty, .empty, [], .empty, false, .empty⟩

def cache (h : Host) (id : CacheId) : Cache := (h.caches.get? id).getD default

def setCache (h : Host) (id : CacheId) (c : Cache) : Host :=
  { h with caches := h.caches.insert id c }

def addCache (h : Host) (c : Cache) : CacheId × Host :=
  let id : CacheId := ⟨h.caches.size⟩
  (id, h.setCache id c)

def element (h : Host) (id : ElementId) : Element :=
  (h.elements.get? id).getD (.new Element.scratchTag)

def setElement (h : Host) (id : ElementId) (e : Element) : Host :=
  { h with elements := h.elements.insert id e }

def addElement (h : Host) (e : Element) : ElementId × Host :=
  let id : ElementId := ⟨h.elements.size⟩
  (id, h.setElement id e)

def document (h : Host) (id : DocumentId) : Document :=
  (h.documents.get? id).getD (.new .bare)

def setDocument (h : Host) (id : DocumentId) (d : Document) : Host :=
  { h with documents := h.documents.insert id d }

def addDocument (h : Host) (d : Document) : DocumentId × Host :=
  let id : DocumentId := ⟨h.documents.size⟩
  (id, h.setDocument id d)

def log (h : Host) (row : Log.Row) : Host := { h with journal := h.journal.emit row }

/-- The host with a row of the debug trace, if tracing is on. -/
def trace (h : Host) (row : Log.Row) : Host := if h.tracing then h.log row else h

def note (h : Host) (call : Call) : Host := { h with calls := h.calls ++ [call] }

def invocation (h : Host) (label : String) (context : Context) : Call :=
  .invoked label context.globals context.document.isSome
    (context.element.map fun id => (h.element id).markup)

/-- The context for globals and a document. A document that makes elements gives the context one of
its own. -/
def detect (h : Host) (globals : Globals) (document : Option DocumentId) : Context × Host :=
  match document with
  | none => (⟨globals, none, none⟩, h)
  | some id =>
    if (h.document id).makesElements then
      let (element, h') := h.addElement (.new Element.scratchTag)
      (⟨globals, document, some element⟩, h')
    else (⟨globals, document, none⟩, h)

/-! ### Laws -/

@[simp] theorem cache_setCache (h : Host) (id other : CacheId) (c : Cache) :
    (h.setCache id c).cache other = if other = id then c else h.cache other := by
  by_cases eq : other = id <;> simp [cache, setCache, OrderedMap.get?_insert, eq]

@[simp] theorem cache_log (h : Host) (row : Log.Row) (id : CacheId) :
    (h.log row).cache id = h.cache id := rfl

@[simp] theorem cache_trace (h : Host) (row : Log.Row) (id : CacheId) :
    (h.trace row).cache id = h.cache id := by
  unfold trace
  split <;> rfl

@[simp] theorem cache_note (h : Host) (call : Call) (id : CacheId) :
    (h.note call).cache id = h.cache id := rfl

end Host

end FeatureChoice
