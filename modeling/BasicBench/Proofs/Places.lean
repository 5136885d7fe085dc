import BasicBench.Check.Request
import BasicBench.Editor.Diagnostic
import BasicBench.Proofs.Provenance
import BasicBench.Proofs.Remarks
import BasicBench.Proofs.Trimming
import BasicBench.Proofs.Widths

/-!
Every finding points into the program. The columns are found in many ways: a match, a token, the
last quote, the end of the line, a name that is looked up. Each way is shown to end at a
character of its line, so an editor can show every finding without moving it.
-/

set_option autoImplicit false

namespace BasicBench

open Text Keyword

namespace SourceLine

theorem number_from_get (number : Nat) (texts : List Text) (i : Nat) :
    (numberFrom number texts)[i]? = texts[i]?.map fun text => ⟨number + i, text⟩ := by
  induction texts generalizing number i with
  | nil => rfl
  | cons text rest induction =>
      cases i with
      | zero => rfl
      | succ i =>
          rw [numberFrom, List.getElem?_cons_succ, List.getElem?_cons_succ, induction,
            Nat.add_right_comm, Nat.add_assoc]

/-- A line stands at its own number. -/
theorem mem_of_text {source : Text} {line : SourceLine} (member : line ∈ ofText source) :
    1 ≤ line.number ∧ (ofText source)[line.number - 1]? = some line ∧
      (splitLines source)[line.number - 1]? = some line.text := by
  obtain ⟨i, found⟩ := List.mem_iff_getElem?.mp member
  have numbered := found
  rw [ofText, number_from_get] at numbered
  obtain ⟨text, at_, rfl⟩ := Option.map_eq_some_iff.mp numbered
  rw [Nat.add_sub_cancel_left]
  exact ⟨Nat.le_add_right 1 i, found, at_⟩

/-- Lines of one program are told apart by their numbers. -/
theorem eq_of_number {source : Text} {line other : SourceLine} (member : line ∈ ofText source)
    (listed : other ∈ ofText source) (same : line.number = other.number) : line = other := by
  have place := (mem_of_text member).2.1
  rw [same, (mem_of_text listed).2.1] at place
  exact (Option.some.inj place).symm

theorem no_feed_of_text {source : Text} {line : SourceLine} (member : line ∈ ofText source) :
    '\n' ∉ line.text :=
  no_feed_of_unbroken
    (mem_split_lines_unbroken source line.text (List.mem_of_getElem? (mem_of_text member).2.2))

theorem text_of_code {line : SourceLine} (code : line.isCode = true) : 1 ≤ line.text.length := by
  by_contra empty
  have nothing : line.text = [] := by
    rw [← List.length_eq_zero_iff]
    omega
  simp [isCode, isBlank, trimmed, nothing, trim, trimLeft, trimRight, dropEndWhile] at code

end SourceLine

namespace Token

/-- A text without line feeds always has tokens. -/
theorem scan_succeeds (column : Nat) (text : Text) (clean : '\n' ∉ text) :
    ∃ tokens, scan column text = some tokens := by
  fun_induction scan column text with
  | case1 => exact ⟨[], rfl⟩
  | case2 column c rest blank induction =>
      exact induction fun inside => clean (List.mem_cons_of_mem c inside)
  | case3 column rest _ induction =>
      exact induction fun inside =>
        clean (List.mem_cons_of_mem _ ((List.dropWhile_suffix _).subset inside))
  | case4 => simp at clean
  | case5 => exact ⟨[], rfl⟩
  | case6 column c rest _ _ _ kind lexeme _ _ induction =>
      obtain ⟨tokens, scanned⟩ := induction fun inside =>
        clean (List.mem_cons_of_mem c (List.mem_of_mem_drop inside))
      exact ⟨_, by rw [scanned, Option.map_some]⟩

theorem column_after_le (column : Nat) (text : Text) (first : 1 ≤ column) :
    1 ≤ columnAfter column text ∧ columnAfter column text ≤ column + text.length := by
  rw [columnAfter]
  split
  · have shorter := (List.takeWhile_sublist (l := text.reverse) (· != '\n')).length_le
    rw [List.length_reverse] at shorter
    omega
  · omega

/-- The columns of the tokens are columns of the text. -/
theorem scan_columns {column : Nat} {text : Text} {tokens : List Token}
    (scanned : scan column text = some tokens) (first : 1 ≤ column) :
    ∀ token ∈ tokens, 1 ≤ token.column ∧ token.column < column + text.length := by
  fun_induction scan column text generalizing tokens with
  | case1 => simp_all
  | case2 column c rest blank induction =>
      intro token member
      have inside := induction scanned (by omega) token member
      rw [List.length_cons]
      omega
  | case3 column rest _ induction =>
      intro token member
      have inside := induction scanned (by omega) token member
      have split := congrArg List.length (List.takeWhile_append_dropWhile (p := (· != '\n'))
        (l := rest))
      rw [List.length_append] at split
      rw [List.length_cons]
      omega
  | case4 => cases scanned
  | case5 => simp_all
  | case6 column c rest _ _ _ kind lexeme _ _ induction =>
      obtain ⟨others, scannedRest, rfl⟩ := Option.map_eq_some_iff.mp scanned
      have after := column_after_le column lexeme first
      intro token member
      rcases List.mem_cons.mp member with rfl | later
      · simp only [List.length_cons]
        omega
      · have inside := induction scannedRest after.1 token later
        -- there is a token behind the lexeme only if there are characters behind it
        have shorter : lexeme.length - 1 < rest.length := by
          by_contra long
          rw [List.drop_eq_nil_of_le (by omega), scan, Option.some.injEq] at scannedRest
          rw [← scannedRest] at later
          cases later
        rw [List.length_drop] at inside
        rw [List.length_cons]
        omega

theorem of_line_columns {text : Text} (token : Token) (member : token ∈ ofLine text) :
    1 ≤ token.column ∧ token.column ≤ text.length := by
  rw [ofLine, ofText?] at member
  cases scanned : scan 1 text with
  | none =>
      rw [scanned] at member
      cases member
  | some tokens =>
      rw [scanned] at member
      have inside := scan_columns scanned le_rfl token member
      omega

end Token

namespace Check

open Pattern

/-- A finding about a character of a line. -/
structure StandsOn (line : SourceLine) (finding : Finding) : Prop where
  number : finding.line = line.number
  first : 1 ≤ finding.column
  last : finding.column ≤ line.text.length

theorem stands_on_of_reported {line : SourceLine} {column : Nat} {severity : Severity}
    {finding : Finding} (reported : Reported line column severity finding)
    (inside : 1 ≤ column ∧ column ≤ line.text.length) : StandsOn line finding :=
  ⟨reported.number, reported.column ▸ inside.1, reported.column ▸ inside.2⟩

section Columns

variable {line : SourceLine} {finding : Finding}

theorem block_finding_stands {lines : List SourceLine} (found : finding ∈ blockFindings lines) :
    ∃ line ∈ lines, StandsOn line finding := by
  obtain ⟨line, member, code, cause⟩ := block_finding_cases found
  have text := SourceLine.text_of_code code
  refine ⟨line, member, ?_⟩
  rcases cause with ⟨kind, rfl⟩ | ⟨frame, same, rfl⟩
  · exact ⟨rfl, le_rfl, text⟩
  · exact ⟨same, le_rfl, text⟩

theorem code_length_le (line : SourceLine) : (code line).length ≤ line.text.length := by
  rcases ((code_part_of_line line _).mpr rfl).ends with whole | ⟨remark, split, -⟩
  · rw [whole]
  · rw [split, List.length_append]
    exact Nat.le_add_right ..

theorem quote_finding_stands (found : finding ∈ quoteFindings line) : StandsOn line finding := by
  obtain ⟨odd, reported⟩ := quote_finding_cases found
  refine stands_on_of_reported reported ⟨?_, ?_⟩
  · -- an odd number of quotes is one at least, so the text behind the last is shorter
    have quote : '"' ∈ code line := List.count_pos_iff.mp (by omega)
    have shorter : ((code line).reverse.takeWhile (· != '"')).length ≠ (code line).length := by
      intro same
      have all : (code line).reverse.takeWhile (· != '"') = (code line).reverse :=
        (List.takeWhile_prefix _).eq_of_length (by rw [same, List.length_reverse])
      have plain := List.takeWhile_eq_self_iff.mp all '"' (List.mem_reverse.mpr quote)
      exact absurd plain (by decide)
    have le := (List.takeWhile_sublist (l := (code line).reverse) (· != '"')).length_le
    rw [List.length_reverse] at le
    omega
  · have le := code_length_le line
    omega

theorem trim_right_length_le (text : Text) : (trimRight text).length ≤ text.length := by
  obtain ⟨right, -, split⟩ := drop_end_split isSpace text
  have length := congrArg List.length split
  rw [List.length_append] at length
  exact le_of_le_of_eq (Nat.le_add_right ..) length.symm

theorem parenthesis_finding_stands (code : line.isCode = true)
    (found : finding ∈ parenthesisFindings line) : StandsOn line finding := by
  have text := SourceLine.text_of_code code
  have trimmed := trim_right_length_le line.text
  exact stands_on_of_reported (parenthesis_finding_cases found) (by omega)

theorem continuation_finding_stands (found : finding ∈ continuationFindings line) :
    StandsOn line finding := by
  obtain ⟨broken, reported⟩ := continuation_finding_cases found
  refine stands_on_of_reported reported ⟨?_, trim_right_length_le line.text⟩
  by_contra empty
  have nothing : trimRight line.text = [] := by
    rw [← List.length_eq_zero_iff]
    omega
  simp [isBrokenContinuation, nothing] at broken

theorem foreign_constructs_wide :
    ∀ construct ∈ foreignConstructs, 0 < construct.pattern.leastWidth := by decide +kernel

theorem deprecated_constructs_wide :
    ∀ construct ∈ deprecatedConstructs, 0 < construct.pattern.leastWidth := by decide +kernel

theorem dialect_rules_wide : ∀ rule ∈ dialectRules, 0 < rule.pattern.leastWidth := by
  decide +kernel

theorem foreign_finding_stands (found : finding ∈ foreignFindings line) :
    StandsOn line finding := by
  obtain ⟨construct, member, piece, matched, reported⟩ := foreign_finding_cases found
  exact stands_on_of_reported reported
    (find_column (foreign_constructs_wide construct member) matched)

theorem deprecated_finding_stands (found : finding ∈ deprecatedFindings line) :
    StandsOn line finding := by
  obtain ⟨construct, member, piece, matched, reported⟩ := deprecated_finding_cases found
  exact stands_on_of_reported reported
    (find_column (deprecated_constructs_wide construct member) matched)

theorem type_finding_stands (found : finding ∈ typeFindings line) : StandsOn line finding := by
  obtain ⟨pattern, -, piece, member, reported⟩ := type_finding_cases found
  exact stands_on_of_reported reported (find_all_column member)

theorem length_finding_stands (found : finding ∈ lengthFindings line) : StandsOn line finding := by
  obtain ⟨long, reported⟩ := length_finding_cases found
  exact stands_on_of_reported reported ⟨Nat.le_add_left .., long⟩

theorem magic_number_finding_stands (found : finding ∈ magicNumberFindings line) :
    StandsOn line finding := by
  obtain ⟨token, member, reported⟩ := magic_number_finding_cases found
  exact stands_on_of_reported reported (Token.of_line_columns token member)

/-! The assigned variable is looked up in the line; it is there, since it was read from it. -/

theorem drop_label_suffix (text : Text) : SourceLine.dropLabel text <:+ text := by
  cases text with
  | nil => exact List.suffix_rfl
  | cons c rest =>
      rw [SourceLine.dropLabel]
      split
      · have behind : (rest.dropWhile isDecimal).dropWhile isSpace <:+ c :: rest :=
          ((List.dropWhile_suffix _).trans (List.dropWhile_suffix _)).trans
            (List.suffix_cons c rest)
        split
        · next afterColon split =>
            rw [split] at behind
            exact ((List.dropWhile_suffix _).trans (List.suffix_cons ..)).trans behind
        · exact behind
      · exact List.suffix_rfl

theorem statement_is_part (line : SourceLine) : line.statement <:+: line.text := by
  obtain ⟨left, right, -, -, split⟩ := trim_split line.text
  have trimmed : trim line.text <:+: line.text := ⟨left, right, split.symm⟩
  exact (drop_label_suffix _).isInfix.trans trimmed

theorem assigned_name_read {name : Text} (assigned : assignedName? line = some name) :
    name ≠ [] ∧ name <:+: line.statement := by
  obtain ⟨found, matched, rfl⟩ := Option.map_eq_some_iff.mp assigned
  obtain ⟨piece, rest, split, reads⟩ := at_start_some _ _ _ matched
  obtain ⟨piece, tail, rfl, reads, -⟩ := reads_append_plain (by decide) reads
  obtain ⟨piece, equals, rfl, reads, -⟩ := reads_append_plain (by decide) reads
  obtain ⟨piece, gap, rfl, reads, -⟩ := reads_append_plain (by decide) reads
  obtain ⟨head, name, early, rfl, groups, -, takes⟩ := reads_append_capture (by decide) reads
  have captured : found.group 1 = name := by simp [Found.group, Found.group?, groups]
  rw [captured]
  refine ⟨?_, head, gap ++ (equals ++ (tail ++ rest)), by simp [split]⟩
  rintro rfl
  obtain ⟨inside, reads⟩ := takes
  exact absurd (least_width_le _ _ _ _ _ reads) (by decide)

theorem undeclared_finding_stands {isKeyword : Text → Bool} {known : List Text} {name : Text}
    (undeclared : undeclaredName? isKeyword known line = some name) :
    StandsOn line (undeclaredFinding line name) := by
  have assigned := Option.eq_some_of_filter_eq_some undeclared
  obtain ⟨some, inside⟩ := assigned_name_read assigned
  obtain ⟨offset, found, fits⟩ := offset_of_infix (inside.trans (statement_is_part line))
  have length := List.length_pos_of_ne_nil some
  have reported : Reported line (((offsetOf? name line.text).map (· + 1)).getD 0) .warning
      (undeclaredFinding line name) := reported_line_finding ..
  rw [found, Option.map_some, Option.getD_some] at reported
  exact stands_on_of_reported reported (by omega)

end Columns

theorem line_finding_stands {level : Level} {isKeyword : Text → Bool} {line : SourceLine}
    (code : line.isCode = true) {finding : Finding}
    (made : LineFinding level isKeyword line finding) : StandsOn line finding := by
  cases made with
  | basic found =>
      rcases basic_finding_cases found with quote | parenthesis | continuation | foreign
      · exact quote_finding_stands quote
      · exact parenthesis_finding_stands code parenthesis
      · exact continuation_finding_stands continuation
      · exact foreign_finding_stands foreign
  | undeclared known name assigned => exact undeclared_finding_stands assigned
  | strict found =>
      rcases (strict_finding_cases found).2 with deprecated | mismatch
      · exact deprecated_finding_stands deprecated
      · exact type_finding_stands mismatch
  | readability found =>
      rcases (readability_finding_cases found).2 with long | magic
      · exact length_finding_stands long
      · exact magic_number_finding_stands magic

theorem report_finding_stands {lines : List SourceLine} {level : Level} {catalog : Catalog}
    {finding : Finding} (found : finding ∈ (Report.ofLines lines level catalog).findings) :
    ∃ line ∈ lines, StandsOn line finding := by
  simp only [Report.ofLines, List.mem_append] at found
  rcases found with ((block | fromLine) | dialect) | keyword
  · exact block_finding_stands block
  · obtain ⟨line, member, code, made⟩ := mem_findings_from fromLine
    exact ⟨line, member, line_finding_stands code made⟩
  · obtain ⟨line, member, -, rule, listed, made⟩ := mem_dialect_findings_from dialect
    obtain ⟨piece, matched, number, column, -⟩ := dialect_finding_shape made
    have inside := find_column (dialect_rules_wide rule listed) matched
    exact ⟨line, member, number, column ▸ inside.1, column ▸ inside.2⟩
  · obtain ⟨line, member, -, token, listed, number, column, -, -⟩ := keyword_finding_cases keyword
    have inside := Token.of_line_columns token listed
    exact ⟨line, member, number, column ▸ inside.1, column ▸ inside.2⟩

/-- The finding is about a character of a program with these lines. -/
structure PointsInto (lines : List SourceLine) (finding : Finding) : Prop where
  line_first : 1 ≤ finding.line
  line_last : finding.line ≤ lines.length
  column_first : 1 ≤ finding.column
  column_last : ∃ line, lines[finding.line - 1]? = some line ∧ finding.column ≤ line.text.length

theorem report_finding_points (source : Text) (level : Level) (catalog : Catalog) :
    ∀ finding ∈ (Report.ofText source level catalog).findings,
      PointsInto (SourceLine.ofText source) finding := by
  intro finding found
  obtain ⟨line, member, number, first, last⟩ := report_finding_stands found
  obtain ⟨start, at_, -⟩ := SourceLine.mem_of_text member
  obtain ⟨inside, -⟩ := List.getElem?_eq_some_iff.mp at_
  refine ⟨number ▸ start, by omega, first, line, ?_, last⟩
  rw [number, at_]

theorem check_value_succeeds (source : Text) (level : Level) (catalog : Catalog) :
    checkValue (.text (String.ofList source)) (.text level.label) catalog =
      .ok (Report.ofText source level catalog) := by
  have read : levelOf? (.text level.label) = some level := Level.ofLabel_label level
  simp only [checkValue, read, String.toList_ofList]

end Check

namespace Editor

/-- The diagnostic shows the finding from its column to the end of its line. -/
structure Shows (lines : List SourceLine) (finding : Finding) (diagnostic : Diagnostic) : Prop where
  start : diagnostic.start = ⟨finding.line - 1, finding.column - 1⟩
  stop : ∃ line, lines[finding.line - 1]? = some line ∧
    diagnostic.stop = ⟨finding.line - 1, line.text.length⟩
  nonempty : diagnostic.start.character < diagnostic.stop.character

theorem diagnostic_shows {source : Text} {finding : Finding}
    (points : Check.PointsInto (SourceLine.ofText source) finding) :
    Shows (SourceLine.ofText source) finding
      (Diagnostic.ofFinding (splitLines source) finding) := by
  obtain ⟨-, -, first, line, at_, last⟩ := points
  have text : (splitLines source)[finding.line - 1]? = some line.text := by
    rw [← SourceLine.number_from_text 1 (splitLines source), List.getElem?_map,
      ← SourceLine.ofText, at_, Option.map_some]
  have stop : max line.text.length (finding.column - 1 + 1) = line.text.length := by omega
  refine ⟨rfl, ⟨line, at_, ?_⟩, ?_⟩
  · simp [Diagnostic.ofFinding, text, stop]
  · simp only [Diagnostic.ofFinding]
    omega

end Editor

namespace Check

/-- A text always has a report, every line of it has its tokens, every finding of the report is
about a character of the text, and an editor shows the findings one by one where they are. -/
theorem findings_point_into_source (source : Text) (level : Level) (catalog : Catalog) :
    checkValue (.text (String.ofList source)) (.text level.label) catalog =
      .ok (Report.ofText source level catalog) ∧
    (∀ line ∈ SourceLine.ofText source, ∃ tokens, Token.ofText? line.text = some tokens) ∧
    (∀ finding ∈ (Report.ofText source level catalog).findings,
      PointsInto (SourceLine.ofText source) finding) ∧
    List.Forall₂ (Editor.Shows (SourceLine.ofText source))
      (Report.ofText source level catalog).findings
      (Editor.diagnosticsOf (splitLines source) (Report.ofText source level catalog).findings) := by
  have points := report_finding_points source level catalog
  refine ⟨check_value_succeeds source level catalog, fun line member => ?_, points, ?_⟩
  · refine Token.scan_succeeds 1 line.text fun feed => ?_
    obtain ⟨-, -, text⟩ := SourceLine.mem_of_text member
    have unbroken := mem_split_lines_unbroken source line.text (List.mem_of_getElem? text)
    exact absurd (unbroken '\n' feed) (by decide)
  · rw [Editor.diagnosticsOf, List.forall₂_map_right_iff, List.forall₂_same]
    exact fun finding found => Editor.diagnostic_shows (points finding found)

/-- Two lines with findings of four checks. -/
def openString : Text := "10 total = 100: PRINT \"a\n TRON (".toList

theorem findings_of_open_string :
    (∃ finding ∈ (Report.ofText openString .strict .empty).findings,
      finding.category = "unmatched-quotes" ∧ PointsInto (SourceLine.ofText openString) finding) ∧
    ∃ tokens, Token.ofText? " TRON (".toList = some tokens := by
  obtain ⟨-, tokens, points, -⟩ := findings_point_into_source openString .strict .empty
  have some : (Report.ofText openString .strict .empty).findings.find?
      (·.category = "unmatched-quotes") ≠ none := by decide +kernel
  obtain ⟨finding, found⟩ := Option.ne_none_iff_exists'.mp some
  have member := List.mem_of_find?_eq_some found
  exact ⟨⟨finding, member, by simpa using List.find?_some found, points finding member⟩,
    tokens ⟨2, _⟩ (.tail _ (.head _))⟩

end Check
end BasicBench
