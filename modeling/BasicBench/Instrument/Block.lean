import BasicBench.Instrument.Feature
import BasicBench.Text.Pattern
import BasicBench.Text.Line

/-!
Blocks of added code. A block stands between two marker lines that are comments, so a later run
recognises what an earlier one added and leaves it alone. Markers are matched by nesting and not
by name: every opening marker deepens the nesting, a closing marker that closes nothing is
ordinary text, and a line belongs to a block when the nesting is open on it.
-/

set_option autoImplicit false

namespace BasicBench.Instrument

open Text Pattern

def openingMarker (feature : Feature) : Text :=
  ("' === DEBUG BEGIN: " ++ feature.title ++ " ===").toList

def closingMarker (feature : Feature) : Text :=
  ("' === DEBUG END: " ++ feature.title ++ " ===").toList

/-- The block of a feature. -/
def block (feature : Feature) (body : List Text) : List Text :=
  [openingMarker feature] ++ body ++ [closingMarker feature]

/-- A marker line: its kind is the first group. -/
def marker : Pattern :=
  textStart ++ blanks ++ exactly "' === DEBUG " ++
    capture 1 (exactly "BEGIN" ||| exactly "END") ++ exactly ": " ++ few1 inLine ++
    exactly " ===" ++ blanks ++ textEnd

inductive MarkerKind where
  | opening | closing
  deriving DecidableEq, Repr

def markerKind? (line : Text) : Option MarkerKind :=
  (marker.atStart? line).map fun found =>
    if found.group 1 == "BEGIN".toList then .opening else .closing

/-- The nesting after a line. -/
def depthAfter (depth : Nat) (line : Text) : Nat :=
  match markerKind? line with
  | some .opening => depth + 1
  | some .closing => depth - 1
  | none => depth

/-- Whether a line belongs to a block when the nesting before it is `depth`. -/
def isInside (depth : Nat) (line : Text) : Bool :=
  depth > 0 || markerKind? line = some .opening

def maskFrom (depth : Nat) : List Text → List Bool
  | [] => []
  | line :: rest => isInside depth line :: maskFrom (depthAfter depth line) rest

/-- Tells for each line whether it belongs to a block, markers included. -/
def mask (lines : List Text) : List Bool := maskFrom 0 lines

theorem length_maskFrom (depth : Nat) (lines : List Text) :
    (maskFrom depth lines).length = lines.length := by
  induction lines generalizing depth with
  | nil => rfl
  | cons line rest induction => simp [maskFrom, induction]

/-- The lines, each with whether it belongs to a block. -/
def masked (lines : List Text) : List (Text × Bool) := lines.zip (mask lines)

/-- Whether the opening marker of a feature stands on some line. -/
def hasBlock (feature : Feature) (lines : List Text) : Bool :=
  lines.any fun line => trim line == openingMarker feature

/-- A line that may stay above added code: a directive, a comment, nothing, or added code. -/
def isHeader (line : Text) (inside : Bool) : Bool :=
  inside ||
    match trim line with
    | [] => true
    | c :: _ => c == '$' || c == '\''

/-- The number of header lines at the top. -/
def headerLength (lines : List Text) : Nat :=
  ((masked lines).takeWhile fun (line, inside) => isHeader line inside).length

/-- Puts a block and an empty line below the header. -/
def insertBlock (added lines : List Text) : List Text :=
  lines.take (headerLength lines) ++ added ++ [[]] ++ lines.drop (headerLength lines)

/-- Edits the lines that belong to no block. -/
def editOutside (edit : Text → Text) (lines : List Text) : List Text :=
  (masked lines).map fun (line, inside) => if inside then line else edit line

/-- Adds a line after each line outside blocks for which `follow?` has one, unless the line
below is already such a line. -/
def followOutside (follow? : Text → Option Text) (isDone : Text → Bool) :
    List (Text × Bool) → List Text
  | [] => []
  | (line, inside) :: rest =>
      let below := match rest with
        | [] => []
        | (next, _) :: _ => next
      let added := if inside then [] else
        match follow? line with
        | some follow => if isDone below then [] else [follow]
        | none => []
      line :: added ++ followOutside follow? isDone rest

end BasicBench.Instrument
