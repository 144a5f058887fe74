import FeatureChoice.Text.Lines
/-!
Paths in the form in which they are shown: without empty parts and without single dots. Two dots
stay, since what they lead to depends on the files. A path starts at the working directory, or at
the root if it begins with a slash; a beginning of exactly two slashes stays apart.
-/

namespace FeatureChoice.Files

/-- A path: what it starts from (nothing, or slashes) and its parts. -/
structure Path where
  root : String
  parts : List String
  deriving DecidableEq, Repr

namespace Path

/-- The part that stands for the parent directory. -/
def up : String := ".."

def leadingSlashes (cs : List Char) : Nat := (cs.takeWhile (· = '/')).length

def rootOf (cs : List Char) : String :=
  match leadingSlashes cs with
  | 0 => ""
  | 2 => "//"
  | _ => "/"

def ofString (s : String) : Path where
  root := rootOf s.toList
  parts := ((Text.splitAtEach (· = '/') s.toList).map String.ofList).filter fun part =>
    part ≠ "" && part ≠ "."

/-- The text of a path; the working directory itself is a dot. -/
def toText (p : Path) : String :=
  if p.parts.isEmpty && p.root = "" then "." else p.root ++ "/".intercalate p.parts

def child (p : Path) (name : String) : Path := { p with parts := p.parts ++ [name] }

def parent (p : Path) : Path := { p with parts := p.parts.dropLast }

end Path

end FeatureChoice.Files
