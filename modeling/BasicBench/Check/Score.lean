import BasicBench.Number.Binary64
import BasicBench.Source.Finding
import BasicBench.Source.Line

/-!
The score of a program: a hundred points less ten for each error and two for each warning, with
five points back for a program that has more than one comment to ten lines of code. The score
stays between nothing and a hundred.
-/

set_option autoImplicit false

namespace BasicBench.Check

def Severity.cost : Severity → Nat
  | .error => 10
  | .warning => 2
  | .info => 0

def commentCount (lines : List SourceLine) : Nat := lines.countP (·.isComment)

/-- The number of lines that are neither blank nor a comment. -/
def codeCount (lines : List SourceLine) : Nat := lines.countP (·.isCode)

/-- Comments to one line of code, with six places; a text without code has a ratio of nothing. -/
def commentRatioText (lines : List SourceLine) : Text :=
  if codeCount lines = 0 then Number.sixPlaces ⟨0, 0⟩
  else match Number.Binary64.ofRatio? (commentCount lines) (codeCount lines) with
    | some ratio => Number.sixPlaces ratio
    | none => []

/-- More than one comment to ten lines of code; a text without code is not commented. -/
def isWellCommented (lines : List SourceLine) : Bool :=
  codeCount lines != 0 && 10 * commentCount lines > codeCount lines

def totalCost (findings : List Finding) : Nat :=
  findings.foldr (fun finding total => Severity.cost finding.severity + total) 0

def score (findings : List Finding) (lines : List SourceLine) : Nat :=
  min 100 (100 + (if isWellCommented lines then 5 else 0) - totalCost findings)

end BasicBench.Check
