import BasicBench.Proofs.Provenance
import Mathlib.Data.List.Perm.Basic

/-!
The levels of the checks. What a level reports of a line comes behind what the level before it
reports, and the variables that have been reported are the same at every level. So a stricter level
reports the findings of a milder one in their order with findings of its own among them: warnings
at the strict level and remarks, which cost nothing, at the level above.
-/

set_option autoImplicit false

namespace BasicBench.Check

open Text Keyword

/-- The second list is the first one with new findings put in anywhere. -/
inductive AddsOnly (new : Finding → Prop) : List Finding → List Finding → Prop
  | none : AddsOnly new [] []
  | kept (finding : Finding) {fewer more : List Finding} (others : AddsOnly new fewer more) :
      AddsOnly new (finding :: fewer) (finding :: more)
  | added {finding : Finding} (fresh : new finding) {fewer more : List Finding}
      (others : AddsOnly new fewer more) : AddsOnly new fewer (finding :: more)

namespace AddsOnly

variable {new : Finding → Prop} {fewer more : List Finding}

theorem refl (findings : List Finding) : AddsOnly new findings findings := by
  induction findings with
  | nil => exact .none
  | cons finding findings induction => exact .kept finding induction

theorem of_all {findings : List Finding} (fresh : ∀ finding ∈ findings, new finding) :
    AddsOnly new [] findings := by
  induction findings with
  | nil => exact .none
  | cons finding findings induction =>
      rw [List.forall_mem_cons] at fresh
      exact .added fresh.1 (induction fresh.2)

theorem append {behind behindMore : List Finding} (front : AddsOnly new fewer more)
    (back : AddsOnly new behind behindMore) :
    AddsOnly new (fewer ++ behind) (more ++ behindMore) := by
  induction front with
  | none => exact back
  | kept finding _ induction => exact .kept finding induction
  | added fresh _ induction => exact .added fresh induction

theorem sublist (adds : AddsOnly new fewer more) : fewer.Sublist more := by
  induction adds with
  | none => exact .slnil
  | kept finding _ induction => exact induction.cons_cons finding
  | added _ _ induction => exact induction.cons _

/-- Apart from the order the new findings come behind the old ones. -/
theorem split (adds : AddsOnly new fewer more) :
    ∃ extra, more.Perm (fewer ++ extra) ∧ ∀ finding ∈ extra, new finding := by
  induction adds with
  | none => exact ⟨[], .nil, fun _ member => absurd member List.not_mem_nil⟩
  | kept finding _ induction =>
      obtain ⟨extra, same, fresh⟩ := induction
      exact ⟨extra, same.cons finding, fresh⟩
  | @added finding first _ _ _ induction =>
      obtain ⟨extra, same, fresh⟩ := induction
      exact ⟨finding :: extra, (same.cons finding).trans List.perm_middle.symm,
        List.forall_mem_cons.mpr ⟨first, fresh⟩⟩

end AddsOnly

/-! Costs. -/

theorem total_cost_append (first second : List Finding) :
    totalCost (first ++ second) = totalCost first + totalCost second := by
  induction first with
  | nil => exact (Nat.zero_add _).symm
  | cons finding first induction =>
      change _ + totalCost (first ++ second) = _ + totalCost first + totalCost second
      rw [induction, Nat.add_assoc]

theorem total_cost_perm {first second : List Finding} (same : first.Perm second) :
    totalCost first = totalCost second := by
  induction same with
  | nil => rfl
  | cons finding _ induction => exact congrArg (_ + ·) induction
  | swap finding other rest => exact Nat.add_left_comm ..
  | trans _ _ first second => exact first.trans second

/-- Remarks cost nothing. -/
theorem total_cost_infos {findings : List Finding}
    (remarks : ∀ finding ∈ findings, finding.severity = .info) : totalCost findings = 0 := by
  induction findings with
  | nil => rfl
  | cons finding findings induction =>
      rw [List.forall_mem_cons] at remarks
      change Severity.cost finding.severity + totalCost findings = 0
      rw [remarks.1, induction remarks.2]
      rfl

theorem score_antitone {findings others : List Finding} (lines : List SourceLine)
    (cheaper : totalCost findings ≤ totalCost others) :
    score others lines ≤ score findings lines := by
  unfold score
  omega

/-! Lines. -/

/-- If a level only adds to the findings of each line, it only adds to those of a program. -/
theorem adds_findings_from {lower higher : Level} {new : Finding → Prop}
    (adds : ∀ line, AddsOnly new (strictFindings lower line ++ readabilityFindings lower line)
      (strictFindings higher line ++ readabilityFindings higher line))
    (isKeyword : Text → Bool) (known : List Text) (lines : List SourceLine) :
    AddsOnly new (findingsFrom lower isKeyword known lines)
      (findingsFrom higher isKeyword known lines) := by
  induction lines generalizing known with
  | nil => exact .none
  | cons line rest induction =>
      have here (undeclared : List Finding) :
          AddsOnly new
            (basicFindings line ++ undeclared ++ strictFindings lower line ++
              readabilityFindings lower line)
            (basicFindings line ++ undeclared ++ strictFindings higher line ++
              readabilityFindings higher line) := by
        rw [List.append_assoc _ (strictFindings lower line),
          List.append_assoc _ (strictFindings higher line)]
        exact (AddsOnly.refl _).append (adds line)
      rw [findingsFrom, findingsFrom]
      split
      · split
        · exact (here _).append (induction _)
        · exact (here _).append (induction _)
      · exact induction known

theorem strict_adds_warnings (line : SourceLine) :
    AddsOnly (·.severity = .warning)
      (strictFindings .basic line ++ readabilityFindings .basic line)
      (strictFindings .strict line ++ readabilityFindings .strict line) := by
  refine (AddsOnly.of_all fun finding found => ?_).append (.refl _)
  rcases (strict_finding_cases found).2 with deprecated | mismatch
  · obtain ⟨_, _, _, _, reported⟩ := deprecated_finding_cases deprecated
    exact reported.severity
  · obtain ⟨_, _, _, _, reported⟩ := type_finding_cases mismatch
    exact reported.severity

theorem best_practices_add_infos (line : SourceLine) :
    AddsOnly (·.severity = .info)
      (strictFindings .strict line ++ readabilityFindings .strict line)
      (strictFindings .bestPractices line ++ readabilityFindings .bestPractices line) := by
  refine (AddsOnly.refl _).append (.of_all fun finding found => ?_)
  rcases (readability_finding_cases found).2 with long | magic
  · exact (length_finding_cases long).2.severity
  · obtain ⟨_, _, reported⟩ := magic_number_finding_cases magic
    exact reported.severity

/-! Reports. -/

/-- The other checks do not know the level. -/
theorem adds_report_findings {lower higher : Level} {new : Finding → Prop}
    (adds : ∀ line, AddsOnly new (strictFindings lower line ++ readabilityFindings lower line)
      (strictFindings higher line ++ readabilityFindings higher line))
    (source : Text) (catalog : Catalog) :
    AddsOnly new (Report.ofText source lower catalog).findings
      (Report.ofText source higher catalog).findings :=
  (((AddsOnly.refl _).append (adds_findings_from adds _ _ _)).append (.refl _)).append (.refl _)

/-- A stricter level reports all that a milder one reports, in the same order: the strict level
adds warnings and so can only lower the score, the level above it adds remarks and keeps the score.
Only that level gives advice on the program as a whole. -/
theorem stricter_levels_only_add (source : Text) (catalog : Catalog) :
    let report (level : Level) := Report.ofText source level catalog
    ((report .basic).findings.Sublist (report .strict).findings ∧
      ∃ extra, (report .strict).findings.Perm ((report .basic).findings ++ extra) ∧
        ∀ finding ∈ extra, finding.severity = .warning) ∧
    ((report .strict).findings.Sublist (report .bestPractices).findings ∧
      ∃ extra, (report .bestPractices).findings.Perm ((report .strict).findings ++ extra) ∧
        ∀ finding ∈ extra, finding.severity = .info) ∧
    (report .strict).score ≤ (report .basic).score ∧
    (report .bestPractices).score = (report .strict).score ∧
    (report .basic).advice = [] ∧ (report .strict).advice = [] := by
  have warnings := adds_report_findings strict_adds_warnings source catalog
  have remarks := adds_report_findings best_practices_add_infos source catalog
  obtain ⟨dear, sameDear, warn⟩ := warnings.split
  obtain ⟨free, sameFree, inform⟩ := remarks.split
  have dearer : totalCost (Report.ofText source .basic catalog).findings ≤
      totalCost (Report.ofText source .strict catalog).findings := by
    rw [total_cost_perm sameDear, total_cost_append]
    exact Nat.le_add_right ..
  have alike : totalCost (Report.ofText source .bestPractices catalog).findings =
      totalCost (Report.ofText source .strict catalog).findings := by
    rw [total_cost_perm sameFree, total_cost_append, total_cost_infos inform, Nat.add_zero]
  refine ⟨⟨warnings.sublist, dear, sameDear, warn⟩, ⟨remarks.sublist, free, sameFree, inform⟩,
    score_antitone _ dearer, ?_, rfl, rfl⟩
  exact Nat.le_antisymm (score_antitone _ (Nat.le_of_eq alike.symm))
    (score_antitone _ (Nat.le_of_eq alike))

/-- A number assigned to a text: an undeclared variable at every level, a mismatch from the strict
level on, and above it a number that should have a name. -/
theorem levels_of_text_assignment :
    let report (level : Level) := Report.ofText "x$ = 500".toList level .empty
    Level.all.map (fun level => (report level).findings.map (·.category)) =
      [["implicit-declaration"], ["implicit-declaration", "type-mismatch"],
        ["implicit-declaration", "type-mismatch", "magic-number"]] ∧
    (report .basic).findings.Sublist (report .bestPractices).findings ∧
    (report .strict).score ≤ (report .basic).score := by
  obtain ⟨⟨first, -⟩, ⟨second, -⟩, lower, -⟩ := stricter_levels_only_add "x$ = 500".toList .empty
  exact ⟨by decide +kernel, first.trans second, lower⟩

end BasicBench.Check
