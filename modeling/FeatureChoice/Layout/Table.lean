import FeatureChoice.Layout.Wrap
/-!
Tables with a title, a heading and a heavy frame around the heading. A column is as wide as its
widest cell; where the whole would be too wide, the first column gives way and its cells are broken
or shortened.

Main statements: a plain line that fits is as wide as its column with the padding (`width_padded`),
and so is every line of a cell whose lines are (`width_cellLine`).
-/

namespace FeatureChoice.Layout

/-- A table of texts. -/
structure Table where
  title : String
  heading : List String
  rows : List (List String)
  deriving DecidableEq, Repr

namespace Table

def padding : Nat := 2

def cellWidth (text : String) : Nat :=
  padding + ((Text.splitLines (shown text)).map width).foldl max 0

def allRows (t : Table) : List (List String) := t.heading :: t.rows

def columnWidth (t : Table) (column : Nat) : Nat :=
  ((t.allRows.filterMap (·[column]?)).map cellWidth).foldl max 0

/-- Widths that together are within a limit: the first one gives way. -/
def giveWay (limit : Nat) : List Nat → List Nat
  | [] => []
  | first :: rest => min first (limit - rest.foldl (· + ·) 0) :: rest

/-- The cells that bars take between and around columns. -/
def barCount (t : Table) : Nat := t.heading.length + 1

def widths (limit : Nat) (t : Table) : List Nat :=
  giveWay (limit - t.barCount) ((List.range t.heading.length).map t.columnWidth)

/-- A line of a cell with its padding. A joiner at the end of the line swallows the first blank that
fills it, and the line is filled once more. -/
def padded (size : Nat) (cs : List Char) : List Char := ' ' :: fill size (fill size cs) ++ [' ']

def cellLines (columnWidth : Nat) (text : String) : List (List Char) :=
  (wrap (columnWidth - padding) .ellipsis (shown text)).map (padded (columnWidth - padding))

/-- One line of a cell, which is blank below its last one. -/
def cellLine (columnWidth : Nat) (lines : List (List Char)) (n : Nat) : List Char :=
  lines[n]?.getD (blanks columnWidth)

/-- A line with a bar before, between and after its parts. -/
def barred (bar : Char) (parts : List (List Char)) : List Char :=
  bar :: parts.flatMap fun p => p ++ [bar]

def rowLines (bar : Char) (widths : List Nat) (row : List String) : List (List Char) :=
  let cells := (widths.zip row).map fun (w, text) => (w, cellLines w text)
  let height := (cells.map fun cell => cell.2.length).foldl max 1
  (List.range height).map fun n => barred bar (cells.map fun (w, lines) => cellLine w lines n)

/-- A rule: its two ends, the strokes along columns and the crossings between them. -/
def rule (first stroke crossing last : Char) (widths : List Nat) : List Char :=
  first :: ((widths.map fun w => List.replicate w stroke).intersperse [crossing]).flatten ++ [last]

def centered (total : Nat) (cs : List Char) : List Char :=
  let cs := Text.trimEnd cs
  fill total (blanks ((total - width cs) / 2) ++ cs)

def lines (limit : Nat) (t : Table) : List (List Char) :=
  let ws := t.widths limit
  let total := ws.foldl (· + ·) 0 + t.barCount
  (wrap total .fold (shown t.title)).map (centered total) ++
    [rule '┏' '━' '┳' '┓' ws] ++ rowLines '┃' ws t.heading ++ [rule '┡' '━' '╇' '┩' ws] ++
    t.rows.flatMap (rowLines '│' ws) ++ [rule '└' '─' '┴' '┘' ws]

/-- A plain line that fits into a cell has the width of the column when it is padded. -/
theorem width_padded {size : Nat} {cs : List Char} (h : plain cs) (fits : width cs ≤ size) :
    width (padded size cs) = padding + size := by
  have filled : plain (fill size cs) := by simp_all [plain, fill, blanks, joiner, pictureMark]
  have full := width_fill h fits
  have again : fill size (fill size cs) = fill size cs := by
    generalize fill size cs = line at full
    rw [fill, full, Nat.sub_self]
    exact List.append_nil line
  have blank : plain [' '] := rfl
  have one : width [' '] = 1 := rfl
  rw [padded, again, ← List.singleton_append, List.append_assoc,
    width_append blank (by simp_all [plain]), width_append filled blank, full, one, padding]
  omega

/-- Every line of a cell is as wide as its column. -/
theorem width_cellLine {columnWidth n : Nat} {lines : List (List Char)}
    (h : ∀ l ∈ lines, width l = columnWidth) :
    width (cellLine columnWidth lines n) = columnWidth := by
  unfold cellLine
  cases found : lines[n]? with
  | none => simp
  | some l => exact h l (List.mem_of_getElem? found)

end Table

end FeatureChoice.Layout
