import BasicBench.Text.Space

/-!
The number of single-character insertions, deletions and replacements between two texts. The
table of distances between initial pieces is filled row by row: a row belongs to one initial
piece of the longer text and has one cell for each initial piece of the shorter one.
-/

set_option autoImplicit false

namespace BasicBench.Keyword

/-- The cells of a row after its first. The previous row starts above the cell to the left. -/
def rowTail (c : Char) (left : Nat) : List Nat → Text → List Nat
  | corner :: above :: previous, d :: rest =>
      let cell := min (min (above + 1) (left + 1)) (corner + if c = d then 0 else 1)
      cell :: rowTail c cell (above :: previous) rest
  | _, _ => []

/-- The row for one more character of the longer text. -/
def nextRow (shorter : Text) (previous : List Nat) (c : Char) : List Nat :=
  let first := previous.headD 0 + 1
  first :: rowTail c first previous shorter

def lastRow (longer shorter : Text) : List Nat :=
  longer.foldl (nextRow shorter) (List.range (shorter.length + 1))

/-- The least number of edits between two texts. -/
def distance (a b : Text) : Nat :=
  if a.length < b.length then (lastRow b a).getLastD 0 else (lastRow a b).getLastD 0

end BasicBench.Keyword
