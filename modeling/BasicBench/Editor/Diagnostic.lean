import BasicBench.Check.Report

/-!
Findings as an editor shows them. Editors count lines and characters from zero; a finding is
shown from its column to the end of its line, and over one character at least.
-/

set_option autoImplicit false

namespace BasicBench.Editor

open Text

structure Position where
  line : Nat
  character : Nat
  deriving DecidableEq, Repr

structure Diagnostic where
  start : Position
  stop : Position
  severity : Severity
  category : String
  message : String
  deriving DecidableEq, Repr

/-- The diagnostic of a finding in a text with these lines. -/
def Diagnostic.ofFinding (lines : List Text) (finding : Finding) : Diagnostic :=
  let line := finding.line - 1
  let start := finding.column - 1
  { start := ⟨line, start⟩
    stop := ⟨line, max (lines[line]?.getD []).length (start + 1)⟩
    severity := finding.severity
    category := finding.category
    message := match finding.suggestion.filter (· != "") with
      | none => finding.message
      | some suggestion => finding.message ++ "\n" ++ suggestion }

def diagnosticsOf (lines : List Text) (findings : List Finding) : List Diagnostic :=
  findings.map (Diagnostic.ofFinding lines)

/-- What an editor shows for an open document. -/
def diagnostics (catalog : Keyword.Catalog) (document : Text) : List Diagnostic :=
  diagnosticsOf (splitLines document) (Check.Report.ofText document .basic catalog).findings

end BasicBench.Editor
