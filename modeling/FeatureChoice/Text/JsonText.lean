import FeatureChoice.Text.Quoted
/-!
JSON documents on indented lines. A document is a list of lines; an array or object that holds
anything takes a line for each bracket and indents what it holds.
-/

namespace FeatureChoice.JsonText

abbrev Document := List String

def null : Document := ["null"]

def bool (b : Bool) : Document := [if b then "true" else "false"]

def text (s : String) : Document := [Text.jsonQuoted s]

/-- A document with something before its first line. -/
def after (lead : String) : Document → Document
  | [] => [lead]
  | l :: ls => (lead ++ l) :: ls

def comma : Document → Document
  | [] => [","]
  | [l] => [l ++ ","]
  | l :: ls => l :: comma ls

def separated : List Document → List String
  | [] => []
  | [d] => d
  | d :: ds => comma d ++ separated ds

def indentation : String := "  "

def block (first last : String) (items : List Document) : Document :=
  if items.isEmpty then [first ++ last]
  else first :: (separated items).map (indentation ++ ·) ++ [last]

def array (items : List Document) : Document := block "[" "]" items

def object (fields : List (String × Document)) : Document :=
  block "\x7b" "\x7d" (fields.map fun (name, d) => after (Text.jsonQuoted name ++ ": ") d)

end FeatureChoice.JsonText
