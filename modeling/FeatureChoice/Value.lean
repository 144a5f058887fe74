import FeatureChoice.Calendar
import FeatureChoice.Number.DigitLimit
import FeatureChoice.Number.Shortest
import FeatureChoice.Text.Quoted
/-!
Values of data: what a host registers for a feature, what a probe returns and what a seed file
holds. A value has a truth, a name of its kind, a text for messages, and, if it can be the key of
a map, a notion of being the same key.

Truths, integers and doubles of equal value are the same key, so that `1`, `true` and `1.0` never
stand beside each other in a map.
-/

namespace FeatureChoice

/-- A value of data. A container that holds itself is written as `again` where it recurs. -/
inductive Value where
  | none
  | bool (b : Bool)
  | int (n : Int)
  | float (x : Binary64)
  | text (s : String)
  | bytes (data : List UInt8)
  | date (d : Calendar.Date)
  | moment (m : Calendar.Moment)
  | list (items : List Value)
  | pair (first second : Value)
  | map (entries : List (Value × Value))
  | set (items : List Value)
  | again (opening closing : String)
  deriving Repr, BEq, Inhabited

namespace Value

/-- What a value counts as where a truth is needed: nothing, zeros and empty things are false. -/
def truth : Value → Bool
  | .none => false
  | .bool b => b
  | .int n => n ≠ 0
  | .float x => !x.isZero
  | .text s => s ≠ ""
  | .bytes data => !data.isEmpty
  | .list items => !items.isEmpty
  | .map entries => !entries.isEmpty
  | .set items => !items.isEmpty
  | .date _ | .moment _ | .pair _ _ | .again _ _ => true

def kindName : Value → String
  | .none => "NoneType"
  | .bool _ => "bool"
  | .int _ => "int"
  | .float _ => "float"
  | .text _ => "str"
  | .bytes _ => "bytes"
  | .date _ => "date"
  | .moment _ => "datetime"
  | .list _ => "list"
  | .pair _ _ => "tuple"
  | .map _ => "dict"
  | .set _ => "set"
  | .again opening _ => if opening = "[" then "list" else "dict"

/-! ### Texts -/

def displayBool (b : Bool) : String := if b then "True" else "False"

def escapeByte (quote : Char) (b : UInt8) : List Char :=
  let c := Char.ofNat b.toNat
  if c = quote || c = '\\' then ['\\', c]
  else if c = '\n' then ['\\', 'n']
  else if c = '\r' then ['\\', 'r']
  else if c = '\t' then ['\\', 't']
  else if 0x20 ≤ b.toNat && b.toNat ≤ 0x7e then [c]
  else '\\' :: 'x' :: Text.hexDigits 2 b.toNat

def displayBytes (data : List UInt8) : String :=
  let quote := Text.quoteFor (data.map fun b => Char.ofNat b.toNat)
  String.ofList ('b' :: quote :: data.flatMap (escapeByte quote) ++ [quote])

mutual

def display : Value → String
  | .none => "None"
  | .bool b => displayBool b
  | .int n => toString n
  | .float x => x.display
  | .text s => Text.quoted s
  | .bytes data => displayBytes data
  | .date d => d.display
  | .moment m => m.display
  | .list items => "[" ++ ", ".intercalate (displayAll items) ++ "]"
  | .pair first second => "(" ++ first.display ++ ", " ++ second.display ++ ")"
  | .map entries => "\x7b" ++ ", ".intercalate (displayEntries entries) ++ "\x7d"
  | .set items =>
    if items.isEmpty then "set()" else "\x7b" ++ ", ".intercalate (displayAll items) ++ "\x7d"
  | .again opening closing => opening ++ "..." ++ closing

def displayAll : List Value → List String
  | [] => []
  | v :: vs => v.display :: displayAll vs

def displayEntries : List (Value × Value) → List String
  | [] => []
  | (k, v) :: rest => (k.display ++ ": " ++ v.display) :: displayEntries rest

end

mutual

/-- Whether all integers in a value have few enough digits to be written. -/
def isWritable : Value → Bool
  | .int n => Numeral.isWritable n
  | .list items | .set items => allWritable items
  | .pair first second => first.isWritable && second.isWritable
  | .map entries => entriesWritable entries
  | _ => true

def allWritable : List Value → Bool
  | [] => true
  | v :: vs => v.isWritable && allWritable vs

def entriesWritable : List (Value × Value) → Bool
  | [] => true
  | (k, v) :: rest => k.isWritable && v.isWritable && entriesWritable rest

end

/-! ### Keys -/

/-- Whether two values are the same key of a map. A double that is no number is not the same as any
other. -/
def sameKey : Value → Value → Bool
  | .none, .none => true
  | .text s, .text t => s = t
  | .bytes s, .bytes t => s = t
  | .date d, .date e => d = e
  | .moment d, .moment e => d.isSame e
  | .bool a, .bool b => a = b
  | .int m, .int n => m = n
  | .bool a, .int n => (if a then 1 else 0) = n
  | .int n, .bool a => (if a then 1 else 0) = n
  | .float x, .float y => x.sameValue y
  | .float x, .int n => x.equalsInt n
  | .int n, .float x => x.equalsInt n
  | .float x, .bool a => x.equalsInt (if a then 1 else 0)
  | .bool a, .float x => x.equalsInt (if a then 1 else 0)
  | _, _ => false

/-- Set the value of a key among entries: a key that is there keeps its place and its form. -/
def putEntry (key value : Value) : List (Value × Value) → List (Value × Value)
  | [] => [(key, value)]
  | (k, v) :: rest =>
    if k.sameKey key then (k, value) :: rest else (k, v) :: putEntry key value rest

def entriesOf (pairs : List (Value × Value)) : List (Value × Value) :=
  pairs.foldl (fun entries pair => putEntry pair.1 pair.2 entries) []

end Value

end FeatureChoice
