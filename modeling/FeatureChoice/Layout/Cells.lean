import FeatureChoice.Text.CellTable
/-!
Texts in cells. A terminal shows a line in cells of equal size, and a character fills none, one or
two of them. Characters that fill none are shown with the one before them. A joiner shows the next
character with the one before it, and a picture mark asks for the picture of the character before
it, which may be wider. Such a group of characters is a cluster. Lines are cut and filled by their
width in cells, not by the number of characters, and never within a cluster.

Main statements: the clusters of a line are the line (`text_clusters`), they are as wide as the line
unless it begins with a joiner (`total_clusters`), of a line that is cut no more is kept than fits
(`total_leading`), and a plain line that is not too wide is filled to the width that is asked for
(`width_fill`).
-/

namespace FeatureChoice.Layout

/-- The number of cells that a character fills on its own. -/
def cells (c : Char) : Nat :=
  if 0x20 ≤ c.toNat && c.toNat ≤ 0x7e then 1
  else if Text.wideRanges.has c then 2
  else if Text.zeroRanges.has c then 0
  else 1

/-- Shows the next character with the one before. -/
def joiner : Char := '\u200d'

/-- Asks for the picture of the character before. -/
def pictureMark : Char := '\ufe0f'

/-- Whether the picture of a character is wider than the character. -/
def widens (c : Char) : Bool := cells c = 1 && Text.pictureRanges.has c

/-! ### Clusters -/

/-- Characters that are shown together, and the number of cells that they fill. -/
structure Cluster where
  chars : List Char
  width : Nat
  deriving DecidableEq, Repr

namespace Cluster

def single (c : Char) : Cluster := ⟨[c], cells c⟩

def add (k : Cluster) (more : List Char) (wider : Nat) : Cluster :=
  ⟨k.chars ++ more, k.width + wider⟩

end Cluster

def text (ks : List Cluster) : List Char := ks.flatMap (·.chars)

def total : List Cluster → Nat
  | [] => 0
  | k :: ks => k.width + total ks

/-- The clusters of a line from an unfinished cluster on. A picture mark makes that cluster wider if
it is `narrow`. -/
def clustersFrom (k : Cluster) (narrow : Bool) : List Char → List Cluster
  | [] => [k]
  | c :: cs =>
    if c = joiner then
      match cs with
      | [] => [k.add [c] 0]
      | d :: ds => clustersFrom (k.add [c, d] 0) narrow ds
    else if c = pictureMark then clustersFrom (k.add [c] narrow.toNat) false cs
    else if cells c = 0 then clustersFrom (k.add [c] 0) narrow cs
    else k :: clustersFrom (.single c) (widens c) cs

/-- The clusters of a line. A joiner at its beginning joins nothing. -/
def clusters : List Char → List Cluster
  | [] => []
  | c :: cs => clustersFrom (.single c) (widens c) cs

/-- The number of cells that a line fills. What follows a joiner fills none. -/
def width (cs : List Char) : Nat := total (clustersFrom ⟨[], 0⟩ false cs)

/-! ### Lines of a width -/

/-- Whether every character of a line stands for itself. -/
def plain (cs : List Char) : Bool := cs.all fun c => c ≠ joiner && c ≠ pictureMark

/-- The number of cells that characters fill, each standing for itself. -/
def cellsOf : List Char → Nat
  | [] => 0
  | c :: cs => cells c + cellsOf cs

def blanks (n : Nat) : List Char := List.replicate n ' '

def fill (size : Nat) (cs : List Char) : List Char := cs ++ blanks (size - width cs)

/-- As many clusters from the beginning as fit into a width. -/
def leading (size : Nat) : List Cluster → List Cluster
  | [] => []
  | k :: ks => if k.width ≤ size then k :: leading (size - k.width) ks else []

/-- The beginning of a line that is wider than a width, cut to that width. Where a wide cluster
would be cut in two, a blank stands for its first half. -/
def cut (size : Nat) (cs : List Char) : List Char :=
  if size = 0 then []
  else
    let kept := leading size (clusters cs)
    text kept ++ blanks (size - total kept)

/-! ### Laws -/

@[simp] theorem text_nil : text [] = [] := rfl

@[simp] theorem text_cons (k : Cluster) (ks : List Cluster) :
    text (k :: ks) = k.chars ++ text ks := by
  simp [text]

@[simp] theorem total_nil : total [] = 0 := rfl

@[simp] theorem total_cons (k : Cluster) (ks : List Cluster) :
    total (k :: ks) = k.width + total ks := rfl

/-- Clustering loses no character. -/
theorem text_clustersFrom (k : Cluster) (narrow : Bool) (cs : List Char) :
    text (clustersFrom k narrow cs) = k.chars ++ cs := by
  fun_induction clustersFrom k narrow cs <;> simp_all [Cluster.add, Cluster.single]

/-- Nothing of a line is lost in its clusters. -/
@[simp] theorem text_clusters (cs : List Char) : text (clusters cs) = cs := by
  cases cs with
  | nil => rfl
  | cons c cs => simp [clusters, text_clustersFrom, Cluster.single]

/-- The width of an unfinished cluster adds to the width of the rest. -/
theorem total_clustersFrom (k : Cluster) (narrow : Bool) (cs : List Char) :
    total (clustersFrom k narrow cs) = k.width + total (clustersFrom ⟨[], 0⟩ narrow cs) := by
  induction len : cs.length using Nat.strongRecOn generalizing k narrow cs with
  | ind n ih =>
    cases cs with
    | nil => simp [clustersFrom]
    | cons c cs =>
      have shorter : cs.length < n := by rw [← len]; simp
      unfold clustersFrom
      split
      · cases cs with
        | nil => simp [Cluster.add]
        | cons d ds =>
          have next := ih ds.length (by simp at shorter; omega)
          simp only
          rw [next (k.add [c, d] 0) narrow ds rfl, next (Cluster.add ⟨[], 0⟩ [c, d] 0) narrow ds rfl]
          simp [Cluster.add]
      · split
        · rw [ih _ shorter (k.add [c] _) _ cs rfl, ih _ shorter (Cluster.add ⟨[], 0⟩ [c] _) _ cs rfl]
          simp [Cluster.add, Nat.add_assoc]
        · split
          · rw [ih _ shorter (k.add [c] 0) _ cs rfl, ih _ shorter (Cluster.add ⟨[], 0⟩ [c] 0) _ cs rfl]
            simp [Cluster.add]
          · simp

/-- The clusters of a line are as wide as the line, unless it begins with a joiner. -/
theorem total_clusters {cs : List Char} (h : cs.head? ≠ some joiner) :
    total (clusters cs) = width cs := by
  cases cs with
  | nil => rfl
  | cons c cs =>
    have other : c ≠ joiner := by simpa using h
    show total (clustersFrom (.single c) (widens c) cs) = total (clustersFrom ⟨[], 0⟩ false (c :: cs))
    rw [total_clustersFrom]
    conv => rhs; unfold clustersFrom
    rw [if_neg other]
    split
    · next mark =>
      subst mark
      rw [total_clustersFrom (Cluster.add _ _ _)]
      rfl
    · split
      · next zero =>
        rw [total_clustersFrom (Cluster.add _ _ _)]
        simp [Cluster.add, Cluster.single, widens, zero]
      · rw [total_cons, total_clustersFrom (.single c)]
        simp

/-- Where every character stands for itself, the width is the sum of theirs. -/
theorem width_eq_cellsOf {cs : List Char} (h : plain cs) : width cs = cellsOf cs := by
  suffices ∀ k narrow, total (clustersFrom k narrow cs) = k.width + cellsOf cs by
    simpa [width] using this ⟨[], 0⟩ false
  induction cs with
  | nil => simp [clustersFrom, cellsOf]
  | cons c cs ih =>
    intro k narrow
    simp only [plain, List.all_cons, Bool.and_eq_true, decide_eq_true_eq] at h
    unfold clustersFrom
    rw [if_neg h.1.1, if_neg h.1.2]
    split
    · next zero => simp [ih h.2, Cluster.add, cellsOf, zero]
    · simp [ih h.2, Cluster.single, cellsOf]

theorem cellsOf_append (cs ds : List Char) : cellsOf (cs ++ ds) = cellsOf cs + cellsOf ds := by
  induction cs with
  | nil => simp [cellsOf]
  | cons c cs ih => simp [cellsOf, ih, Nat.add_assoc]

theorem width_append {cs ds : List Char} (h : plain cs) (h' : plain ds) :
    width (cs ++ ds) = width cs + width ds := by
  have both : plain (cs ++ ds) := by simp_all [plain]
  rw [width_eq_cellsOf h, width_eq_cellsOf h', width_eq_cellsOf both, cellsOf_append]

theorem plain_blanks (n : Nat) : plain (blanks n) := by
  simp [plain, blanks, joiner, pictureMark]

@[simp] theorem width_blanks (n : Nat) : width (blanks n) = n := by
  rw [width_eq_cellsOf (plain_blanks n), blanks]
  induction n with
  | zero => rfl
  | succ n ih =>
    have one : cells ' ' = 1 := rfl
    rw [List.replicate_succ, cellsOf, ih, one, Nat.add_comm]

/-- Filling reaches the width exactly. -/
theorem width_fill {size : Nat} {cs : List Char} (h : plain cs) (fits : width cs ≤ size) :
    width (fill size cs) = size := by
  rw [fill, width_append h (plain_blanks _), width_blanks]
  omega

/-- No more is kept of a line that is cut than fits. -/
theorem total_leading (size : Nat) (ks : List Cluster) : total (leading size ks) ≤ size := by
  induction ks generalizing size with
  | nil => simp [leading]
  | cons k ks ih =>
    simp only [leading]
    split
    · have := ih (size - k.width)
      simp only [total_cons]
      omega
    · simp

end FeatureChoice.Layout
