import BasicBench.Check.Report
import BasicBench.Keyword.Record

/-!
Findings and reports as JSON, with their members in a fixed order.
-/

set_option autoImplicit false

namespace BasicBench

def CodeExample.toJson (pair : CodeExample) : Json :=
  .object [("incorrect", .text pair.incorrect), ("correct", .text pair.correct)]

/-- A finding as an object. `showEntry` says how much of a keyword's entry is written. -/
def Finding.toJson (showEntry : Keyword.Entry → Json) (finding : Finding) : Json := .object [
  ("line", .nat finding.line), ("column", .nat finding.column),
  ("severity", .text finding.severity.label), ("category", .text finding.category),
  ("message", .text finding.message), ("suggestion", .ofText? finding.suggestion),
  ("example", .ofOption (finding.codeExample.map (·.toJson))),
  ("source", .text finding.origin.label), ("pattern", .ofText? finding.matched),
  ("keyword", .ofText? finding.keyword),
  ("keyword_info", .ofOption (finding.entry.map showEntry)),
  ("suggestions", .texts finding.alternatives)]

namespace Check

def findingsJson (findings : List Finding) : Json :=
  .list (findings.map (Finding.toJson Keyword.Entry.toJson))

def Report.toJson (report : Report) : Json := .object [
  ("check_level", .text report.level.label), ("findings", findingsJson report.findings),
  ("suggestions", .texts report.advice), ("score", .nat report.score),
  ("is_valid", .bool report.isValid)]

/-- What a stage found, as written to a file of its own. -/
def Stage.toJson (stage : Stage) (report : Report) : Json :=
  match stage with
  | .blocks => findingsJson (report.ofOrigin .blocks)
  | .lines => .list [findingsJson (report.ofOrigin .lines), .texts report.advice]
  | .dialect => findingsJson (report.ofOrigin .dialect)
  | .keywords => findingsJson (report.ofOrigin .keywords)
  | .score => .nat report.score

end Check
end BasicBench
