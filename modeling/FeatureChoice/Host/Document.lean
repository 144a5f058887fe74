import FeatureChoice.Data.OrderedMap
import FeatureChoice.Value
/-!
Documents and elements. An element holds markup and children, and new markup replaces its children.
A scratch document makes elements and, unless told otherwise, takes event listeners; other hosts
hand in documents that have neither member, or have them as plain values.
-/

namespace FeatureChoice

/-- The place of an element among those of a host. -/
structure ElementId where
  index : Nat
  deriving DecidableEq, Repr

/-- The place of a document among those of a host. -/
structure DocumentId where
  index : Nat
  deriving DecidableEq, Repr

/-- An element of a document. -/
structure Element where
  tag : String
  markup : String
  children : List Value
  deriving Repr

namespace Element

def scratchTag : String := "div"

def new (tag : String) : Element := ⟨tag, "", []⟩

def setMarkup (e : Element) (markup : String) : Element :=
  { e with markup := markup, children := [] }

def append (e : Element) (child : Value) : Element := { e with children := e.children ++ [child] }

def isEmpty (e : Element) : Bool := e.markup = "" && e.children.isEmpty

/-- An element is empty after new markup exactly if the markup is. -/
theorem isEmpty_setMarkup (e : Element) (markup : String) :
    (e.setMarkup markup).isEmpty = true ↔ markup = "" := by
  simp only [isEmpty, Bool.and_eq_true, decide_eq_true_eq]
  simp [setMarkup]

end Element

/-- The kinds of documents that a host can hand in. -/
inductive DocumentKind where
  /-- A document with both members. -/
  | scratch
  /-- A document without members. -/
  | bare
  /-- A document whose members are plain values. -/
  | plain
  deriving DecidableEq, Repr

/-- A document with the listeners that it has taken. Whether it supports listeners may have been
said or not. -/
structure Document where
  kind : DocumentKind
  support : Option Bool
  listeners : OrderedMap String (List Value)
  deriving Repr

/-- What asking a document for a member yields. -/
inductive Member where
  | method
  | value
  | missing
  deriving DecidableEq, Repr

namespace Document

def createMember : String := "create_element"

def listenMember : String := "add_event_listener"

/-- The member that says whether listeners are supported. -/
def supportMember : String := "supports_event_listeners"

def inbornMembers : List String :=
  ["__class__", "__delattr__", "__dict__", "__dir__", "__doc__", "__eq__", "__format__", "__ge__",
   "__getattribute__", "__getstate__", "__gt__", "__hash__", "__init__", "__init_subclass__",
   "__le__", "__lt__", "__module__", "__ne__", "__new__", "__reduce__", "__reduce_ex__",
   "__repr__", "__setattr__", "__sizeof__", "__str__", "__subclasshook__", "__weakref__"]

/-- The further members that a scratch document is born with. -/
def scratchMembers : List String :=
  ["__annotations__", "__dataclass_fields__", "__dataclass_params__", "__getattr__",
   "__match_args__", "listeners", "_" ++ listenMember]

def scratch (supported : Bool) : Document := ⟨.scratch, some supported, .empty⟩

def new (kind : DocumentKind) : Document := ⟨kind, none, .empty⟩

def member (d : Document) (name : String) : Member :=
  if name ∈ inbornMembers || (name = supportMember && d.support.isSome) then .value
  else match d.kind with
    | .scratch =>
      if name = createMember then .method
      else if name = listenMember then if d.support = some true then .method else .missing
      else if name ∈ scratchMembers then .value
      else .missing
    | .bare => .missing
    | .plain => if name = createMember || name = listenMember then .value else .missing

def setSupport (d : Document) (supported : Bool) : Document := { d with support := some supported }

def takesListeners (d : Document) : Bool := d.member listenMember = .method

def makesElements (d : Document) : Bool := d.member createMember = .method

def listen (d : Document) (event : String) (listener : Value) : Document :=
  { d with
    listeners := d.listeners.insert event (((d.listeners.get? event).getD []) ++ [listener]) }

end Document

end FeatureChoice
