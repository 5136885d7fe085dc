import BasicBench.Json.Printer
import BasicBench.Sessions.Enhance

/-!
The record of an enhancement, as JSON, and the parts of it.
-/

set_option autoImplicit false

namespace BasicBench

namespace Instrument

/-- An issue, with the time at which it was found when that is known. -/
def Issue.toJson (issue : Issue) (foundAt : Option String) : Json := .object ([
  ("id", .text issue.id), ("type", .text issue.kind.label),
  ("severity", .text issue.urgency.label), ("description", .text issue.description),
  ("symptoms", .texts issue.symptoms)] ++
  (foundAt.map fun time => ("detected_at", Json.text time)).toList ++
  [("resolved", .bool false), ("auto_fixable", .bool true),
    ("line", .ofOption (issue.line.map Json.nat))])

def Remedy.toJson (remedy : Remedy) : Json := .object [
  ("issue_id", .text remedy.issueId), ("strategy", .text remedy.advice.strategy.label),
  ("priority", .nat remedy.advice.priority), ("description", .text remedy.advice.description),
  ("implementation", .text remedy.advice.feature.label),
  ("rationale", .text remedy.advice.rationale), ("code_changes", .texts remedy.advice.steps)]

end Instrument

namespace Sessions

def Summary.toJson (summary : Summary) : Json := .object [
  ("original_lines", .nat summary.linesBefore), ("enhanced_lines", .nat summary.linesAfter),
  ("issues_detected", .nat summary.issuesDetected),
  ("solutions_applied", .nat summary.solutionsApplied)]

/-- The record that is kept of an enhancement. -/
def Enhancement.record (enhancement : Enhancement) : Json :=
  let session := enhancement.session
  .object [
    ("session_id", .text session.id), ("project_path", .ofText? session.projectPath),
    ("execution_mode", .text session.mode.label), ("started_at", .text session.startedAt),
    ("config", session.options.toJson),
    ("issues", .list (session.issues.map fun issue => issue.toJson (some session.startedAt))),
    ("solutions", .list (session.remedies.map (·.toJson))),
    ("applied_changes", .texts (enhancement.instrumented.changes.map (·.message))),
    ("features_enabled", .texts (enhancement.instrumented.features.map (·.title))),
    ("summary", enhancement.summary.toJson)]

end Sessions
end BasicBench
