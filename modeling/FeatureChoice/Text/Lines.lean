/-!
Lines of text. A text that is read from a file has one kind of line end, whichever kinds the file
uses; a text that is measured for a terminal breaks at every character that ends a line anywhere.
-/

namespace FeatureChoice.Text

/-- Every line end made a line feed. -/
def unifyLineEnds : List Char → List Char
  | [] => []
  | '\r' :: '\n' :: cs => '\n' :: unifyLineEnds cs
  | '\r' :: cs => '\n' :: unifyLineEnds cs
  | c :: cs => c :: unifyLineEnds cs

/-- The parts of a text between the characters that separate it. -/
def splitAtEach (separates : Char → Bool) : List Char → List (List Char)
  | [] => [[]]
  | c :: cs =>
    if separates c then [] :: splitAtEach separates cs
    else match splitAtEach separates cs with
      | part :: parts => (c :: part) :: parts
      | [] => [[c]]

def splitAtFeeds (s : String) : List String :=
  (splitAtEach (· = '\n') s.toList).map String.ofList

def endsLine (c : Char) : Bool :=
  let n := c.toNat
  (0x0a ≤ n && n ≤ 0x0d) || (0x1c ≤ n && n ≤ 0x1e) || n = 0x85 || n = 0x2028 || n = 0x2029

/-- The lines of a text; a line end after the last line starts no new one. -/
def splitLines (cs : List Char) : List (List Char) :=
  let parts := splitAtEach endsLine (unifyLineEnds cs)
  if parts.getLast? = some [] then parts.dropLast else parts

def trimFeeds (s : String) : String :=
  String.ofList (s.toList.reverse.dropWhile (· = '\n')).reverse

def trimOneFeed (s : String) : String :=
  if s.toList.getLast? = some '\n' then String.ofList s.toList.dropLast else s

end FeatureChoice.Text
