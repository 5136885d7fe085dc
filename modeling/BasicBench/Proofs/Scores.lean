import BasicBench.Proofs.Levels

/-!
The score as a function of the findings. Only the numbers of errors and of warnings count, so the
order of the findings does not matter, remarks are free, and more findings never raise the score.
What well-commented code earns is less than what one error costs. So an error shows in the score
even where the cap of a hundred hides the bonus.
-/

set_option autoImplicit false

namespace BasicBench.Check

/-- The number of findings of a severity. -/
def countOf (severity : Severity) (findings : List Finding) : Nat :=
  findings.countP (·.severity = severity)

/-- What a program earns by its comments. -/
def commentBonus (lines : List SourceLine) : Nat := if isWellCommented lines then 5 else 0

theorem comment_bonus_le (lines : List SourceLine) : commentBonus lines ≤ 5 := by
  unfold commentBonus
  split <;> omega

theorem count_of_cons (severity : Severity) (finding : Finding) (findings : List Finding) :
    countOf severity (finding :: findings) =
      countOf severity findings + if finding.severity = severity then 1 else 0 := by
  simp [countOf, List.countP_cons]

theorem total_cost_by_counts (findings : List Finding) :
    totalCost findings = 10 * countOf .error findings + 2 * countOf .warning findings := by
  induction findings with
  | nil => rfl
  | cons finding findings induction =>
      change Severity.cost finding.severity + totalCost findings = _
      rw [induction, count_of_cons, count_of_cons]
      cases finding.severity with
      | error => simp [Severity.cost]; omega
      | warning => simp [Severity.cost]; omega
      | info => simp [Severity.cost]

theorem count_of_error_pos {findings : List Finding}
    (error : ∃ finding ∈ findings, finding.severity = .error) : 0 < countOf .error findings := by
  apply List.countP_pos_iff.mpr
  simpa using error

/-- The score before it is cut to its range, which it may leave on either side. -/
def uncutScore (findings : List Finding) (lines : List SourceLine) : Int :=
  100 - 10 * countOf .error findings - 2 * countOf .warning findings + commentBonus lines

theorem score_by_counts (findings : List Finding) (lines : List SourceLine) :
    (score findings lines : Int) = max (0 : Int) (min (100 : Int) (uncutScore findings lines)) := by
  have cost := total_cost_by_counts findings
  change ((min 100 (100 + commentBonus lines - totalCost findings) : Nat) : Int) = _
  unfold uncutScore
  omega

/-- Ten points are more than the bonus can hide. -/
theorem score_lt_of_cost {findings others : List Finding} {lines : List SourceLine}
    (dearer : totalCost findings + 10 ≤ totalCost others) (positive : score findings lines ≠ 0) :
    score others lines < score findings lines := by
  have bonus := comment_bonus_le lines
  change min 100 (100 + commentBonus lines - totalCost findings) ≠ 0 at positive
  change min 100 (100 + commentBonus lines - totalCost others) <
    min 100 (100 + commentBonus lines - totalCost findings)
  omega

/-- The score is a hundred less ten for each error and two for each warning, with the bonus for
comments, cut to the range from nothing to a hundred. It does not depend on the order of the
findings. More findings never raise it and remarks leave it as it is. With an error among the new
findings it is strictly lower, unless it was nothing already. -/
theorem score_by_findings (lines : List SourceLine) (findings others : List Finding) :
    (score findings lines : Int) = max (0 : Int) (min (100 : Int) (uncutScore findings lines)) ∧
      (0 ≤ score findings lines ∧ score findings lines ≤ 100) ∧
      (findings.Perm others → score others lines = score findings lines) ∧
      score (findings ++ others) lines ≤ score findings lines ∧
      ((∀ finding ∈ others, finding.severity = .info) →
        score (findings ++ others) lines = score findings lines) ∧
      ((∃ finding ∈ others, finding.severity = .error) → score findings lines ≠ 0 →
        score (findings ++ others) lines < score findings lines) := by
  have cost := total_cost_append findings others
  have range : 0 ≤ score findings lines ∧ score findings lines ≤ 100 :=
    ⟨Nat.zero_le _, Nat.min_le_left ..⟩
  refine ⟨score_by_counts findings lines, range, ?_, ?_, ?_, ?_⟩
  · intro same
    unfold score
    rw [total_cost_perm same]
  · apply score_antitone
    omega
  · intro remarks
    unfold score
    rw [cost, total_cost_infos remarks, Nat.add_zero]
  · intro error positive
    have counted := count_of_error_pos error
    have counts := total_cost_by_counts others
    apply score_lt_of_cost _ positive
    omega

/-- One comment to one line of code. -/
def commentedLines : List SourceLine := SourceLine.ofText "' Greets\nPRINT \"Hello".toList

/-- Without findings the cap hides the bonus; one error costs five of the hundred points. -/
theorem error_shows_through_bonus :
    let findings := lineFindings .basic (fun _ => false) commentedLines
    commentBonus commentedLines = 5 ∧ score [] commentedLines = 100 ∧
      (∃ finding ∈ findings, finding.severity = .error) ∧
      score ([] ++ findings) commentedLines < score [] commentedLines ∧
      score findings commentedLines = 95 := by
  have error : ∃ finding ∈ lineFindings .basic (fun _ => false) commentedLines,
      finding.severity = .error := by
    decide +kernel
  have full : score [] commentedLines = 100 := by decide +kernel
  have lower := (score_by_findings commentedLines [] _).2.2.2.2.2 error (by rw [full]; decide)
  exact ⟨by decide +kernel, full, error, lower, by decide +kernel⟩

end BasicBench.Check
