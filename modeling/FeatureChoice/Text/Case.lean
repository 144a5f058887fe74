import FeatureChoice.Text.CaseTable
import FeatureChoice.Text.CasedTable
/-!
Capital and small letters of a text, by the full case mappings of Unicode. A capital may take
several characters (the sharp s becomes two letters), and the Greek capital sigma has a small form
of its own at the end of a word.
-/

namespace FeatureChoice.Text

/-- The code point that a run table gives for a code point. -/
def mapByRuns (runs : List (Nat × Nat × Nat × Int)) (n : Nat) : Nat :=
  match runs.find? fun (first, last, step, _) => first ≤ n && n ≤ last && (n - first) % step = 0 with
  | some (_, _, _, distance) => (Int.ofNat n + distance).toNat
  | none => n

def capitals (c : Char) : List Char :=
  match longCapitals.lookup c.toNat with
  | some codes => codes.map Char.ofNat
  | none => [Char.ofNat (mapByRuns capitalRuns c.toNat)]

/-- The small form of one character, wherever it stands. -/
def smalls (c : Char) : List Char :=
  match longSmalls.lookup c.toNat with
  | some codes => codes.map Char.ofNat
  | none => [Char.ofNat (mapByRuns smallRuns c.toNat)]

def isCased (c : Char) : Bool := casedRanges.has c

/-- Whether a character does not count when the letters around a sigma are looked for. -/
def isPassed (c : Char) : Bool := passedRanges.has c

/-- Whether characters start, as one goes through them, with a letter that has case. -/
def meetsLetter (cs : List Char) : Bool := (cs.dropWhile isPassed).head?.any isCased

def capitalSigma : Char := 'Σ'

def finalSigma : Char := 'ς'

/-- Small forms; `before` holds the characters before these, the nearest one first. A sigma ends a
word if a letter stands before it and none after it. -/
def smallsFrom (before : List Char) : List Char → List Char
  | [] => []
  | c :: cs =>
    let form :=
      if c = capitalSigma && meetsLetter before && !meetsLetter cs then [finalSigma] else smalls c
    form ++ smallsFrom (c :: before) cs

def toCapitals (s : String) : String := String.ofList (s.toList.flatMap capitals)

def toSmalls (s : String) : String := String.ofList (smallsFrom [] s.toList)

/-- A text in which capital and small letters are not told apart. -/
def withoutCase (s : String) : String := toSmalls (toCapitals s)

end FeatureChoice.Text
