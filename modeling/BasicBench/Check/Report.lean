import BasicBench.Check.Blocks
import BasicBench.Check.Dialect
import BasicBench.Check.Keywords
import BasicBench.Check.Lines
import BasicBench.Check.Score

/-!
The full report on a program. The checks do not depend on each other, so their order decides
only the order of the findings. A program is valid when it has no error other than those about
foreign dialects, which are advice.
-/

set_option autoImplicit false

namespace BasicBench.Check

open Keyword

structure Report where
  level : Level
  findings : List Finding
  advice : List String
  score : Nat
  isValid : Bool

namespace Report

/-- An error of this origin makes a program invalid. -/
def isBlocking (finding : Finding) : Bool :=
  finding.severity = .error && finding.origin ≠ .dialect

def ofLines (lines : List SourceLine) (level : Level) (catalog : Catalog) : Report :=
  let findings := blockFindings lines ++ lineFindings level catalog.has lines ++
    dialectFindings lines ++ keywordFindings catalog lines
  { level, findings, advice := programAdvice level lines, score := Check.score findings lines,
    isValid := !findings.any isBlocking }

/-- Checks a program. -/
def ofText (source : Text) (level : Level) (catalog : Catalog) : Report :=
  ofLines (SourceLine.ofText source) level catalog

def ofSeverity (report : Report) (severity : Severity) : List Finding :=
  report.findings.filter (·.severity = severity)

def ofOrigin (report : Report) (origin : Origin) : List Finding :=
  report.findings.filter (·.origin = origin)

end Report

/-- The results of the single checks, in the order in which they are made. -/
inductive Stage where
  | blocks | lines | dialect | keywords | score
  deriving DecidableEq, Repr

namespace Stage

def all : List Stage := [.blocks, .lines, .dialect, .keywords, .score]

def label : Stage → String
  | blocks => "structure"
  | lines => "syntax"
  | dialect => "compatibility"
  | keywords => "keywords"
  | score => "score"

end Stage
end BasicBench.Check
