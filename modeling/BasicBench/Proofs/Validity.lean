import BasicBench.Proofs.BlockStructure
import BasicBench.Proofs.Provenance
import BasicBench.Proofs.Remarks

/-!
What makes a program valid. Among all findings only four can be errors that count: two on the
blocks, and the two on the quotes and the parentheses of a line. So validity is three bracket
languages and a parity, and neither the level of the checks nor the catalogue has a say in it.
-/

set_option autoImplicit false

namespace BasicBench.Check

open Text Keyword

/-- The parentheses of a line that are neither in a string nor in a remark. -/
def parenthesis? (token : Token) : Option (Bracket Unit) :=
  if token.kind = .punctuation then
    if token.text = ['('] then some (.opens ())
    else if token.text = [')'] then some (.closes ())
    else none
  else none

def parentheses (tokens : List Token) : List (Bracket Unit) := tokens.filterMap parenthesis?

/-- The parentheses of a line and the quotes of its code have their partners. -/
structure LineClosed (text : Text) : Prop where
  quotes : QuotesClosed text
  parentheses : Balanced (parentheses (Token.ofLine text))

theorem closing_units_closes (depth : Nat) (word : List (Bracket Unit)) :
    Closing (List.replicate depth ()) (.closes () :: word) ↔
      ∃ less, depth = less + 1 ∧ Closing (List.replicate less ()) word := by
  rw [closing_closes]
  cases depth with
  | zero => simp
  | succ less => simp [List.replicate_succ]

theorem parentheses_cons_some {token : Token} {bracket : Bracket Unit}
    (read : parenthesis? token = some bracket) (rest : List Token) :
    parentheses (token :: rest) = bracket :: parentheses rest :=
  List.filterMap_cons_some read

theorem parentheses_cons_none {token : Token} (read : parenthesis? token = none)
    (rest : List Token) : parentheses (token :: rest) = parentheses rest :=
  List.filterMap_cons_none read

/-- Counting open parentheses is keeping a stack of them. -/
theorem parentheses_close_iff (depth : Nat) (tokens : List Token) :
    parenthesesClose depth tokens = true ↔
      Closing (List.replicate depth ()) (parentheses tokens) := by
  induction tokens generalizing depth with
  | nil => simp [parenthesesClose, parentheses, closing_empty]
  | cons token rest induction =>
      by_cases opens : token.kind = .punctuation ∧ token.text = ['(']
      · have read : parenthesis? token = some (.opens ()) := by simp [parenthesis?, opens]
        rw [parentheses_cons_some read, closing_opens, ← List.replicate_succ, ← induction]
        simp [parenthesesClose, opens]
      · by_cases closes : token.kind = .punctuation ∧ token.text = [')']
        · have read : parenthesis? token = some (.closes ()) := by simp [parenthesis?, closes]
          rw [parentheses_cons_some read, closing_units_closes]
          cases depth with
          | zero => simp [parenthesesClose, closes]
          | succ less => simp [parenthesesClose, closes, induction]
        · have read : parenthesis? token = none := by
            unfold parenthesis?
            split
            · next punctuation =>
                rw [if_neg fun same => opens ⟨punctuation, same⟩,
                  if_neg fun same => closes ⟨punctuation, same⟩]
            · rfl
          rw [parentheses_cons_none read, ← induction, parenthesesClose.eq_def]
          simp [opens, closes]

theorem parenthesis_findings_nil_iff (line : SourceLine) :
    parenthesisFindings line = [] ↔ Balanced (parentheses (Token.ofLine line.text)) := by
  have balanced := parentheses_close_iff 0 (Token.ofLine line.text)
  rw [List.replicate_zero, Closing] at balanced
  rw [← balanced, parenthesisFindings]
  split
  · next closed => simp [closed]
  · next opened => simp [opened]

/-! Which findings are errors. -/

theorem block_findings_block {lines : List SourceLine} {finding : Finding}
    (found : finding ∈ blockFindings lines) : Report.isBlocking finding = true := by
  obtain ⟨line, -, -, ⟨kind, rfl⟩ | ⟨frame, -, rfl⟩⟩ := block_finding_cases found <;> rfl

theorem dialect_findings_allow {lines : List SourceLine} {finding : Finding}
    (found : finding ∈ dialectFindings lines) : Report.isBlocking finding = false := by
  obtain ⟨line, -, -, rule, -, made⟩ := mem_dialect_findings_from found
  obtain ⟨-, -, -, -, origin⟩ := dialect_finding_shape made
  simp [Report.isBlocking, origin]

theorem keyword_findings_allow {catalog : Catalog} {lines : List SourceLine} {finding : Finding}
    (found : finding ∈ keywordFindings catalog lines) : Report.isBlocking finding = false := by
  obtain ⟨line, -, -, token, -, -, -, mild, -⟩ := keyword_finding_cases found
  simp [Report.isBlocking, mild]

/-- Of what the line checks find only open quotes and parentheses are errors. -/
theorem line_finding_blocks_iff {level : Level} {isKeyword : Text → Bool} {line : SourceLine}
    {finding : Finding} (made : LineFinding level isKeyword line finding) :
    Report.isBlocking finding = true ↔
      finding ∈ quoteFindings line ∨ finding ∈ parenthesisFindings line := by
  have mild {column : Nat} {severity : Severity} (reported : Reported line column severity finding)
      (less : severity ≠ .error) : Report.isBlocking finding = true ↔
        finding ∈ quoteFindings line ∨ finding ∈ parenthesisFindings line := by
    refine iff_of_false ?_ ?_
    · simp [Report.isBlocking, reported.severity, less]
    · rintro (quote | parenthesis)
      · exact less (reported.severity.symm.trans (quote_finding_cases quote).2.severity)
      · exact less (reported.severity.symm.trans (parenthesis_finding_cases parenthesis).severity)
  have grave {column : Nat} (reported : Reported line column .error finding) :
      Report.isBlocking finding = true := by
    simp [Report.isBlocking, reported.severity, reported.origin]
  cases made with
  | basic found =>
      rcases basic_finding_cases found with quote | parenthesis | continuation | foreign
      · exact iff_of_true (grave (quote_finding_cases quote).2) (.inl quote)
      · exact iff_of_true (grave (parenthesis_finding_cases parenthesis)) (.inr parenthesis)
      · exact mild (continuation_finding_cases continuation).2 (by decide)
      · obtain ⟨_, _, _, _, reported⟩ := foreign_finding_cases foreign
        exact mild reported (by decide)
  | undeclared known name assigned => exact mild (reported_line_finding ..) (by decide)
  | strict found =>
      rcases (strict_finding_cases found).2 with deprecated | mismatch
      · obtain ⟨_, _, _, _, reported⟩ := deprecated_finding_cases deprecated
        exact mild reported (by decide)
      · obtain ⟨_, _, _, _, reported⟩ := type_finding_cases mismatch
        exact mild reported (by decide)
  | readability found =>
      rcases (readability_finding_cases found).2 with long | magic
      · exact mild (length_finding_cases long).2 (by decide)
      · obtain ⟨_, _, reported⟩ := magic_number_finding_cases magic
        exact mild reported (by decide)

theorem line_closed_iff (line : SourceLine) :
    LineClosed line.text ↔ quoteFindings line = [] ∧ parenthesisFindings line = [] := by
  rw [quote_findings_nil_iff, parenthesis_findings_nil_iff]
  exact ⟨fun closed => ⟨closed.quotes, closed.parentheses⟩, fun both => ⟨both.1, both.2⟩⟩

theorem line_findings_allow_iff (level : Level) (isKeyword : Text → Bool)
    (lines : List SourceLine) :
    (∀ finding ∈ lineFindings level isKeyword lines, Report.isBlocking finding = false) ↔
      ∀ line ∈ lines, line.isCode = true → LineClosed line.text := by
  constructor
  · intro allowed line member code
    have none : ∀ finding ∈ basicFindings line,
        ¬(finding ∈ quoteFindings line ∨ finding ∈ parenthesisFindings line) := by
      intro finding found
      have made : LineFinding level isKeyword line finding := .basic found
      rw [← line_finding_blocks_iff made, Bool.not_eq_true]
      exact allowed finding (basic_findings_reported member code found)
    rw [line_closed_iff, List.eq_nil_iff_forall_not_mem, List.eq_nil_iff_forall_not_mem]
    refine ⟨fun finding quote => ?_, fun finding parenthesis => ?_⟩
    · exact none finding (by simp [basicFindings, quote]) (.inl quote)
    · exact none finding (by simp [basicFindings, parenthesis]) (.inr parenthesis)
  · intro closed finding found
    obtain ⟨line, member, code, made⟩ := mem_findings_from found
    obtain ⟨quotes, parentheses⟩ := (line_closed_iff line).mp (closed line member code)
    rw [← Bool.not_eq_true, line_finding_blocks_iff made, quotes, parentheses]
    simp

theorem is_valid_of_lines_iff (lines : List SourceLine) (level : Level) (catalog : Catalog) :
    (Report.ofLines lines level catalog).isValid = true ↔
      (Balanced (loopBrackets lines) ∧ Balanced (procedureBrackets lines)) ∧
        ∀ line ∈ lines, line.isCode = true → LineClosed line.text := by
  rw [← block_findings_nil_iff, ← line_findings_allow_iff level catalog.has, Report.ofLines,
    Bool.not_eq_true', List.any_eq_false]
  simp only [List.mem_append, Bool.not_eq_true]
  constructor
  · intro allowed
    refine ⟨List.eq_nil_iff_forall_not_mem.mpr fun finding found => ?_, fun finding found => ?_⟩
    · have blocks := block_findings_block found
      rw [allowed finding (.inl (.inl (.inl found)))] at blocks
      cases blocks
    · exact allowed finding (.inl (.inl (.inr found)))
  · rintro ⟨noBlocks, allowed⟩ finding (((block | line) | dialect) | keyword)
    · rw [noBlocks] at block
      cases block
    · exact allowed finding line
    · exact dialect_findings_allow dialect
    · exact keyword_findings_allow keyword

/-- Validity, said without any check. The level and the catalogue do not occur in it, findings on
keywords are never errors, and those on dialects do not count. -/
theorem is_valid_iff (source : Text) (level : Level) (catalog : Catalog) :
    ((Report.ofText source level catalog).isValid = true ↔
      (Balanced (loopBrackets (SourceLine.ofText source)) ∧
        Balanced (procedureBrackets (SourceLine.ofText source))) ∧
      ∀ line ∈ SourceLine.ofText source, line.isCode = true → LineClosed line.text) ∧
    (∀ (otherLevel : Level) (otherCatalog : Catalog),
      (Report.ofText source otherLevel otherCatalog).isValid =
        (Report.ofText source level catalog).isValid) ∧
    (∀ finding ∈ keywordFindings catalog (SourceLine.ofText source), finding.severity ≠ .error) ∧
    (Report.ofText source level catalog).isValid =
      !((Report.ofText source level catalog).findings.filter (·.origin ≠ .dialect)).any
        (·.severity = .error) := by
  refine ⟨is_valid_of_lines_iff _ level catalog, fun otherLevel otherCatalog => ?_,
    fun finding found => ?_, ?_⟩
  · rw [Bool.eq_iff_iff, Report.ofText, Report.ofText, is_valid_of_lines_iff,
      is_valid_of_lines_iff]
  · obtain ⟨_, _, _, _, _, _, _, mild, _⟩ := keyword_finding_cases found
    exact mild
  · rw [List.any_filter]
    change (!List.any _ Report.isBlocking) = _
    congr 2
    funext finding
    exact Bool.and_comm _ _

/-- A catalogue of one keyword that is out of use. -/
def tracingOnly : Catalog :=
  .ofEntries [⟨"TRON", .legacy, "debugging", "Traces lines.", "TRON", [], none, "", [], .qbasic,
    "None", true, [], []⟩]

/-- An apostrophe and a parenthesis in a string, a quote in a remark, and a keyword out of use. -/
def quotingProgram : Text := "DO\n20 PRINT (\"it's (\") ' 5\" (\nTRON\nLOOP".toList

/-- The program is valid, so its line is closed, and what is said about its keyword is no error. -/
theorem quoting_program_valid :
    (Report.ofText quotingProgram .strict tracingOnly).isValid = true ∧
    LineClosed "20 PRINT (\"it's (\") ' 5\" (".toList ∧
    (Report.ofText quotingProgram .basic .empty).isValid = true ∧
    ∃ finding ∈ keywordFindings tracingOnly (SourceLine.ofText quotingProgram),
      finding.severity ≠ .error := by
  have valid : (Report.ofText quotingProgram .strict tracingOnly).isValid = true := by
    decide +kernel
  obtain ⟨shape, alike, mild, -⟩ := is_valid_iff quotingProgram .strict tracingOnly
  have some : keywordFindings tracingOnly (SourceLine.ofText quotingProgram) ≠ [] := by
    decide +kernel
  obtain ⟨finding, member⟩ := List.exists_mem_of_ne_nil _ some
  exact ⟨valid, (shape.mp valid).2 ⟨2, _⟩ (.tail _ (.head _)) (by decide +kernel),
    (alike .basic .empty).trans valid, finding, member, mild finding member⟩

end BasicBench.Check
