import BasicBench.Proofs.LineReports
import Mathlib.Tactic.ByContra

/-!
Variables that are assigned without a declaration. A variable is told by the upper case of its name.
It is reported when a line of code assigns to it, no line of the program declares it and it is no
keyword, and then it is reported once: on the first line that assigns to it, as it is spelled there.
What is reported on a line is known on all lines below, so nothing that is written there counts.
-/

set_option autoImplicit false

namespace BasicBench.Check

open Text Pattern

/-- The finding reports that the variable with this upper-case name is not declared. -/
structure ReportsUndeclared (key : Text) (finding : Finding) : Prop where
  category : finding.category = "implicit-declaration"
  message : ∃ name, upper name = key ∧
    finding.message = s!"Variable '{String.ofList name}' may be implicitly declared"

/-- The line assigns to the variable with this upper-case name. -/
structure Assigns (key : Text) (line : SourceLine) : Prop where
  code : line.isCode = true
  target : ∃ name, assignedName? line = some name ∧ upper name = key

/-- The findings report the variable once, on the first of the lines that assign to it. -/
inductive ReportedOnce (key : Text) : List SourceLine → List Finding → Prop
  | first {above below : List SourceLine} {line : SourceLine} {before after : List Finding}
      {name : Text} (earlier : ∀ other ∈ above, ¬Assigns key other) (code : line.isCode = true)
      (assigned : assignedName? line = some name) (named : upper name = key)
      (alone : ∀ other ∈ before ++ after, ¬ReportsUndeclared key other) :
      ReportedOnce key (above ++ line :: below) (before ++ undeclaredFinding line name :: after)

/-! One line. -/

section Lines

variable {key : Text} {line : SourceLine} {finding : Finding}

theorem reports_undeclared_iff (line : SourceLine) (name : Text) :
    ReportsUndeclared key (undeclaredFinding line name) ↔ upper name = key := by
  constructor
  · rintro ⟨-, other, named, message⟩
    have texts := congrArg String.toList message
    simp only [undeclaredFinding, lineFinding, toString, String.toList_append,
      String.toList_ofList] at texts
    rw [List.append_cancel_right_eq, List.append_cancel_left_eq] at texts
    exact texts ▸ named
  · exact fun named => ⟨rfl, name, named, rfl⟩

theorem not_reports_basic (found : finding ∈ basicFindings line) : ¬ReportsUndeclared key finding := by
  intro reports
  have listed := mem_of_category.mpr ⟨found, reports.category⟩
  simp [of_basic_category] at listed

theorem not_reports_stricter {level : Level}
    (found : finding ∈ strictFindings level line ++ readabilityFindings level line) :
    ¬ReportsUndeclared key finding := by
  intro reports
  have listed := stricter_category found
  rw [reports.category] at listed
  exact absurd listed (by decide)

variable {isKeyword : Text → Bool} {known : List Text}

/-- A line reports the variable that it assigns to when nothing is known of it. -/
theorem undeclared_name_iff {name : Text} : undeclaredName? isKeyword known line = some name ↔
    assignedName? line = some name ∧ upper name ∉ known ∧
      isReserved isKeyword (upper name) = false := by
  simp only [undeclaredName?, Option.filter_eq_some_iff, Bool.and_eq_true, Bool.not_eq_true',
    List.contains_eq_mem, decide_eq_false_iff_not]

theorem known_below (member : key ∈ known) : key ∈ knownBelow isKeyword known line :=
  List.mem_append_right _ member

theorem fresh_below (code : line.isCode = true) (fresh : key ∉ known)
    (noAssignment : ¬Assigns key line) : key ∉ knownBelow isKeyword known line := by
  rw [knownBelow, List.mem_append, not_or]
  refine ⟨fun here => ?_, fresh⟩
  obtain ⟨name, undeclared, named⟩ := List.mem_map.mp here
  have assigned := (undeclared_name_iff.mp (Option.mem_toList.mp undeclared)).1
  exact noAssignment ⟨code, name, assigned, named⟩

/-- No report of the variable on this line: nothing assigns to it here, or it is known. -/
theorem not_reports_undeclared (code : line.isCode = true)
    (settled : Assigns key line → key ∈ known ∨ isReserved isKeyword key = true)
    (found : finding ∈ undeclaredFindings isKeyword known line) : ¬ReportsUndeclared key finding := by
  obtain ⟨name, undeclared, rfl⟩ := List.mem_map.mp found
  obtain ⟨assigned, fresh, free⟩ := undeclared_name_iff.mp (Option.mem_toList.mp undeclared)
  rw [reports_undeclared_iff]
  rintro rfl
  rcases settled ⟨code, name, assigned, rfl⟩ with member | reserved
  · exact fresh member
  · rw [reserved] at free
    cases free

theorem not_reports_line (level : Level) (code : line.isCode = true)
    (settled : Assigns key line → key ∈ known ∨ isReserved isKeyword key = true) :
    ∀ finding ∈ basicFindings line ++ undeclaredFindings isKeyword known line ++
      (strictFindings level line ++ readabilityFindings level line), ¬ReportsUndeclared key finding := by
  intro finding found
  rcases List.mem_append.mp found with mild | stricter
  · rcases List.mem_append.mp mild with basic | undeclared
    · exact not_reports_basic basic
    · exact not_reports_undeclared code settled undeclared
  · exact not_reports_stricter stricter

end Lines

/-! All lines. -/

section Runs

variable {key : Text} {isKeyword : Text → Bool} (level : Level)

/-- Nothing is reported of a variable that is known or reserved wherever it is assigned. -/
theorem not_reports_from {known : List Text} {lines : List SourceLine}
    (settled : ∀ line ∈ lines, Assigns key line → key ∈ known ∨ isReserved isKeyword key = true) :
    ∀ finding ∈ findingsFrom level isKeyword known lines, ¬ReportsUndeclared key finding := by
  induction lines generalizing known with
  | nil => exact List.forall_mem_nil _
  | cons line lines induction =>
      rw [List.forall_mem_cons] at settled
      by_cases code : line.isCode = true
      · rw [findings_from_code level isKeyword known lines code, List.forall_mem_append]
        refine ⟨not_reports_line level code settled.1, induction fun other member assigns => ?_⟩
        exact (settled.2 other member assigns).imp_left known_below
      · rw [findings_from_other level isKeyword known lines code]
        exact induction settled.2

theorem reported_of_once {lines : List SourceLine} {findings : List Finding}
    (once : ReportedOnce key lines findings) : ∃ finding ∈ findings, ReportsUndeclared key finding := by
  cases once with
  | @first above below line before after name _ _ _ named =>
      exact ⟨undeclaredFinding line name, by simp, (reports_undeclared_iff line name).mpr named⟩

theorem reported_once_below {line : SourceLine} {lines : List SourceLine}
    {own findings : List Finding} (noAssignment : ¬Assigns key line)
    (silent : ∀ finding ∈ own, ¬ReportsUndeclared key finding) (once : ReportedOnce key lines findings) :
    ReportedOnce key (line :: lines) (own ++ findings) := by
  cases once with
  | @first above below found before after name earlier code assigned named alone =>
      have whole : ReportedOnce key ((line :: above) ++ found :: below)
          ((own ++ before) ++ undeclaredFinding found name :: after) := by
        refine .first (List.forall_mem_cons.mpr ⟨noAssignment, earlier⟩) code assigned named ?_
        rw [List.append_assoc, List.forall_mem_append]
        exact ⟨silent, alone⟩
      rwa [List.append_assoc] at whole

/-- A variable that is neither known nor reserved is reported on the first line that assigns to it.
Up to that line it stays unknown, and from there on it is known. -/
theorem reported_once_from {known : List Text} {lines : List SourceLine} (fresh : key ∉ known)
    (free : isReserved isKeyword key = false) (assigned : ∃ line ∈ lines, Assigns key line) :
    ReportedOnce key lines (findingsFrom level isKeyword known lines) := by
  induction lines generalizing known with
  | nil => simp at assigned
  | cons line lines induction =>
      by_cases here : Assigns key line
      · obtain ⟨code, name, target, rfl⟩ := here
        have reported := undeclared_name_iff.mpr ⟨target, fresh, free⟩
        have below : upper name ∈ knownBelow isKeyword known line := by
          simp [knownBelow, reported]
        have once : ReportedOnce (upper name) ([] ++ line :: lines)
            (basicFindings line ++ undeclaredFinding line name ::
              ((strictFindings level line ++ readabilityFindings level line) ++
                findingsFrom level isKeyword (knownBelow isKeyword known line) lines)) := by
          refine .first (List.forall_mem_nil _) code target rfl ?_
          rw [List.forall_mem_append, List.forall_mem_append]
          exact ⟨fun _ => not_reports_basic, fun _ => not_reports_stricter,
            not_reports_from level fun _ _ _ => .inl below⟩
        rw [findings_from_code level isKeyword known lines code, undeclaredFindings, reported]
        simpa using once
      · have later : ∃ line ∈ lines, Assigns key line := by
          obtain ⟨other, member, assigns⟩ := assigned
          rcases List.mem_cons.mp member with rfl | member
          · exact absurd assigns here
          · exact ⟨other, member, assigns⟩
        by_cases code : line.isCode = true
        · rw [findings_from_code level isKeyword known lines code]
          exact reported_once_below here
            (not_reports_line level code fun assigns => absurd assigns here)
            (induction (fresh_below code fresh here) later)
        · rw [findings_from_other level isKeyword known lines code]
          have once := reported_once_below here (List.forall_mem_nil _) (induction fresh later)
          exact once

end Runs

theorem assigned_of_reported (source : Text) (level : Level) (isKeyword : Text → Bool) (key : Text)
    (reported : ∃ finding ∈ lineFindings level isKeyword (SourceLine.ofText source),
      ReportsUndeclared key finding) :
    (∃ line ∈ SourceLine.ofText source, Assigns key line) ∧
      key ∉ declaredNames (SourceLine.ofText source) ∧ isReserved isKeyword key = false := by
  by_contra settled
  obtain ⟨finding, found, reports⟩ := reported
  refine not_reports_from level (fun line member assigns => ?_) finding found reports
  by_contra unsettled
  rw [not_or, Bool.not_eq_true] at unsettled
  exact settled ⟨⟨line, member, assigns⟩, unsettled⟩

end BasicBench.Check
