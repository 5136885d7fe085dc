import BasicBench.Check.Report

/-!
Where the findings of a report come from. Each check is taken apart once: a finding of it belongs
to a line of code of the program and was made from that line, which says all that later proofs
need to know about its place, its severity and its origin.
-/

set_option autoImplicit false

namespace BasicBench.Check

open Text Keyword

/-! Blocks. -/

/-- All that is remembered of a program stands on lines with a property. -/
structure OpenBlocks.On (place : Nat → Prop) (blocks : OpenBlocks) : Prop where
  loops : ∀ frame ∈ blocks.loops, place frame.line
  procedures : ∀ frame ∈ blocks.procedures, place frame.line
  stray : ∀ finding ∈ blocks.stray, ∃ kind line, finding = strayCloser kind line ∧ place line

theorem mem_of_close {kind : BlockKind} {stack outer : BlockStack}
    (closed : stack.close? kind = some outer) : ∀ frame ∈ outer, frame ∈ stack := by
  cases stack with
  | nil => cases closed
  | cons top others =>
      by_cases same : top.kind = kind
      · rw [BlockStack.close?, if_pos same, Option.some.injEq] at closed
        subst closed
        exact fun frame member => List.mem_cons_of_mem top member
      · rw [BlockStack.close?, if_neg same] at closed
        cases closed

namespace OpenBlocks

variable {place : Nat → Prop} {blocks : OpenBlocks}

theorem on_stack (on : blocks.On place) (kind : BlockKind) :
    ∀ frame ∈ blocks.stack kind, place frame.line := by
  unfold stack
  split
  · exact on.loops
  · exact on.procedures

theorem on_set_stack (on : blocks.On place) (kind : BlockKind) (stack : BlockStack)
    (fits : ∀ frame ∈ stack, place frame.line) : (blocks.setStack kind stack).On place := by
  unfold setStack
  split
  · exact ⟨fits, on.procedures, on.stray⟩
  · exact ⟨on.loops, fits, on.stray⟩

theorem on_apply (on : blocks.On place) (line : Nat) (here : place line) (event : BlockEvent) :
    (blocks.apply line event).On place := by
  cases event with
  | opens kind name =>
      refine on_set_stack on kind _ fun frame member => ?_
      rcases List.mem_cons.mp member with rfl | older
      · exact here
      · exact on_stack on kind frame older
  | closes kind =>
      cases closed : (blocks.stack kind).close? kind with
      | some outer =>
          simp only [apply, closed]
          exact on_set_stack on kind _ fun frame member =>
            on_stack on kind frame (mem_of_close closed frame member)
      | none =>
          simp only [apply, closed]
          refine ⟨on.loops, on.procedures, fun finding member => ?_⟩
          rcases List.mem_cons.mp member with rfl | older
          · exact ⟨kind, line, rfl, here⟩
          · exact on.stray finding older

theorem on_step (on : blocks.On place) (line : SourceLine)
    (here : line.isCode = true → place line.number) : (blocks.step line).On place := by
  unfold step
  split
  · next code =>
      split
      · exact on_apply on line.number (here code) _
      · exact on
  · exact on

theorem on_run (on : blocks.On place) (lines : List SourceLine)
    (here : ∀ line ∈ lines, line.isCode = true → place line.number) :
    (lines.foldl step blocks).On place := by
  induction lines generalizing blocks with
  | nil => exact on
  | cons line rest induction =>
      exact induction (on_step on line (here line (by simp)))
        fun later member => here later (by simp [member])

end OpenBlocks

/-- A finding on the block structure is about the closer or the opener on its line. -/
theorem block_finding_cases {lines : List SourceLine} {finding : Finding}
    (found : finding ∈ blockFindings lines) :
    ∃ line ∈ lines, line.isCode = true ∧
      ((∃ kind, finding = strayCloser kind line.number) ∨
        ∃ frame : Frame, frame.line = line.number ∧ finding = unclosedBlock frame) := by
  have start : ({} : OpenBlocks).On fun n => ∃ line ∈ lines, line.isCode = true ∧ line.number = n :=
    ⟨by simp, by simp, by simp⟩
  have on := OpenBlocks.on_run start lines fun line member code => ⟨line, member, code, rfl⟩
  rw [blockFindings, List.mem_mergeSort] at found
  simp only [OpenBlocks.report, List.mem_append, List.mem_map, List.mem_reverse] at found
  rcases found with (stray | ⟨frame, open_, rfl⟩) | ⟨frame, open_, rfl⟩
  · obtain ⟨kind, _, rfl, line, member, code, rfl⟩ := on.stray finding stray
    exact ⟨line, member, code, .inl ⟨kind, rfl⟩⟩
  · obtain ⟨line, member, code, same⟩ := on.loops frame open_
    exact ⟨line, member, code, .inr ⟨frame, same.symm, rfl⟩⟩
  · obtain ⟨line, member, code, same⟩ := on.procedures frame open_
    exact ⟨line, member, code, .inr ⟨frame, same.symm, rfl⟩⟩

/-! Lines. -/

/-- The findings that the line checks make of one line. `known` holds the declared names and those
already reported. -/
inductive LineFinding (level : Level) (isKeyword : Text → Bool) (line : SourceLine) :
    Finding → Prop
  | basic {finding : Finding} (found : finding ∈ basicFindings line) :
      LineFinding level isKeyword line finding
  | undeclared (known : List Text) (name : Text)
      (assigned : undeclaredName? isKeyword known line = some name) :
      LineFinding level isKeyword line (undeclaredFinding line name)
  | strict {finding : Finding} (found : finding ∈ strictFindings level line) :
      LineFinding level isKeyword line finding
  | readability {finding : Finding} (found : finding ∈ readabilityFindings level line) :
      LineFinding level isKeyword line finding

variable {level : Level} {isKeyword : Text → Bool}

theorem mem_findings_from {known : List Text} {lines : List SourceLine} {finding : Finding}
    (found : finding ∈ findingsFrom level isKeyword known lines) :
    ∃ line ∈ lines, line.isCode = true ∧ LineFinding level isKeyword line finding := by
  induction lines generalizing known with
  | nil => cases found
  | cons line rest induction =>
      have later : ∀ {known}, finding ∈ findingsFrom level isKeyword known rest →
          ∃ line' ∈ line :: rest, line'.isCode = true ∧
            LineFinding level isKeyword line' finding := by
        intro known found
        obtain ⟨line', member, made⟩ := induction found
        exact ⟨line', List.mem_cons_of_mem line member, made⟩
      rw [findingsFrom] at found
      split at found
      · next code =>
          have here : LineFinding level isKeyword line finding →
              ∃ line' ∈ line :: rest, line'.isCode = true ∧
                LineFinding level isKeyword line' finding :=
            fun made => ⟨line, List.mem_cons_self, code, made⟩
          split at found
          · next name assigned =>
              simp only [List.mem_append, List.mem_singleton] at found
              rcases found with (((basic | rfl) | strict) | readability) | found
              · exact here (.basic basic)
              · exact here (.undeclared known name assigned)
              · exact here (.strict strict)
              · exact here (.readability readability)
              · exact later found
          · simp only [List.append_nil, List.mem_append] at found
            rcases found with ((basic | strict) | readability) | found
            · exact here (.basic basic)
            · exact here (.strict strict)
            · exact here (.readability readability)
            · exact later found
      · exact later found

/-- Every line of code is checked, whatever has been found above it. -/
theorem basic_findings_reported {known : List Text} {lines : List SourceLine} {line : SourceLine}
    (member : line ∈ lines) (code : line.isCode = true) {finding : Finding}
    (found : finding ∈ basicFindings line) :
    finding ∈ findingsFrom level isKeyword known lines := by
  induction lines generalizing known with
  | nil => cases member
  | cons first rest induction =>
      rw [findingsFrom]
      rcases List.mem_cons.mp member with rfl | later
      · rw [if_pos code]
        split <;> simp [found]
      · split
        · split <;> exact List.mem_append_right _ (induction later)
        · exact induction later

/-- The finding is about a column of the line and has a severity. -/
structure Reported (line : SourceLine) (column : Nat) (severity : Severity) (finding : Finding) :
    Prop where
  number : finding.line = line.number
  column : finding.column = column
  severity : finding.severity = severity
  origin : finding.origin = .lines

section LineChecks

variable {line : SourceLine} {finding : Finding}

theorem reported_line_finding (line : SourceLine) (column : Nat) (severity : Severity)
    (category message suggestion : String) :
    Reported line column severity
      (lineFinding line column severity category message suggestion) :=
  ⟨rfl, rfl, rfl, rfl⟩

theorem quote_finding_cases (found : finding ∈ quoteFindings line) :
    (code line).count '"' % 2 ≠ 0 ∧
      Reported line ((code line).length - ((code line).reverse.takeWhile (· != '"')).length) .error
        finding := by
  rw [quoteFindings] at found
  split at found
  · cases found
  · next odd =>
      obtain rfl := List.mem_singleton.mp found
      exact ⟨odd, reported_line_finding ..⟩

theorem parenthesis_finding_cases (found : finding ∈ parenthesisFindings line) :
    Reported line (max (trimRight line.text).length 1) .error finding := by
  rw [parenthesisFindings] at found
  split at found
  · cases found
  · obtain rfl := List.mem_singleton.mp found
    exact reported_line_finding ..

theorem continuation_finding_cases (found : finding ∈ continuationFindings line) :
    isBrokenContinuation line.text = true ∧
      Reported line (trimRight line.text).length .warning finding := by
  rw [continuationFindings] at found
  split at found
  · next broken =>
      obtain rfl := List.mem_singleton.mp found
      exact ⟨broken, reported_line_finding ..⟩
  · cases found

theorem foreign_finding_cases (found : finding ∈ foreignFindings line) :
    ∃ construct ∈ foreignConstructs, ∃ piece, construct.pattern.find? line.text = some piece ∧
      Reported line piece.column .warning finding := by
  obtain ⟨construct, member, made⟩ := List.mem_filterMap.mp found
  obtain ⟨piece, matched, rfl⟩ := Option.map_eq_some_iff.mp made
  exact ⟨construct, member, piece, matched, reported_line_finding ..⟩

theorem deprecated_finding_cases (found : finding ∈ deprecatedFindings line) :
    ∃ construct ∈ deprecatedConstructs, ∃ piece, construct.pattern.find? line.text = some piece ∧
      Reported line piece.column .warning finding := by
  obtain ⟨construct, member, made⟩ := List.mem_filterMap.mp found
  obtain ⟨piece, matched, rfl⟩ := Option.map_eq_some_iff.mp made
  exact ⟨construct, member, piece, matched, reported_line_finding ..⟩

theorem type_finding_cases (found : finding ∈ typeFindings line) :
    ∃ pattern ∈ [textAssignedNumber, numberAssignedText],
      ∃ piece ∈ pattern.findAll line.text, Reported line piece.column .warning finding := by
  rcases List.mem_append.mp found with number | text
  · obtain ⟨piece, member, rfl⟩ := List.mem_map.mp number
    exact ⟨_, List.mem_cons_self, piece, member, reported_line_finding ..⟩
  · obtain ⟨piece, member, rfl⟩ := List.mem_map.mp text
    exact ⟨_, List.mem_cons_of_mem _ List.mem_cons_self, piece, member, reported_line_finding ..⟩

theorem length_finding_cases (found : finding ∈ lengthFindings line) :
    longestLine < line.text.length ∧ Reported line (longestLine + 1) .info finding := by
  rw [lengthFindings] at found
  split at found
  · next long =>
      obtain rfl := List.mem_singleton.mp found
      exact ⟨long, reported_line_finding ..⟩
  · cases found

theorem magic_number_finding_cases (found : finding ∈ magicNumberFindings line) :
    ∃ token ∈ Token.ofLine line.text, Reported line token.column .info finding := by
  rw [magicNumberFindings] at found
  split at found
  · cases found
  · obtain ⟨token, member, rfl⟩ := List.mem_map.mp found
    exact ⟨token, (List.mem_filter.mp member).1, reported_line_finding ..⟩

theorem basic_finding_cases (found : finding ∈ basicFindings line) :
    finding ∈ quoteFindings line ∨ finding ∈ parenthesisFindings line ∨
      finding ∈ continuationFindings line ∨ finding ∈ foreignFindings line := by
  simpa [basicFindings, or_assoc] using found

theorem strict_finding_cases (found : finding ∈ strictFindings level line) :
    level.includes .strict = true ∧
      (finding ∈ deprecatedFindings line ∨ finding ∈ typeFindings line) := by
  rw [strictFindings] at found
  split at found
  · next strict => exact ⟨strict, List.mem_append.mp found⟩
  · cases found

theorem readability_finding_cases (found : finding ∈ readabilityFindings level line) :
    level.includes .bestPractices = true ∧
      (finding ∈ lengthFindings line ∨ finding ∈ magicNumberFindings line) := by
  rw [readabilityFindings] at found
  split at found
  · next best => exact ⟨best, List.mem_append.mp found⟩
  · cases found

end LineChecks

/-! Dialects. -/

theorem mem_dialect_findings_from {rules : List DialectRule} {dynamic : Bool}
    {lines : List SourceLine} {finding : Finding}
    (found : finding ∈ dialectFindingsFrom rules dynamic lines) :
    ∃ line ∈ lines, line.isCode = true ∧ ∃ rule ∈ rules, rule.finding? line = some finding := by
  induction lines generalizing dynamic with
  | nil => cases found
  | cons line rest induction =>
      rw [dialectFindingsFrom, List.mem_append] at found
      rcases found with here | later
      · rw [ruleFindings] at here
        split at here
        · next code =>
            obtain ⟨rule, member, made⟩ := List.mem_filterMap.mp here
            split at made
            · cases made
            · exact ⟨line, List.mem_cons_self, code, rule, member, made⟩
        · cases here
      · obtain ⟨line', member, made⟩ := induction later
        exact ⟨line', List.mem_cons_of_mem line member, made⟩

theorem dialect_finding_shape {rule : DialectRule} {line : SourceLine} {finding : Finding}
    (made : rule.finding? line = some finding) :
    ∃ found, rule.pattern.find? line.text = some found ∧ finding.line = line.number ∧
      finding.column = found.column ∧ finding.origin = .dialect := by
  obtain ⟨found, matched, rfl⟩ := Option.map_eq_some_iff.mp made
  exact ⟨found, matched, rfl, rfl, rfl⟩

/-! Keywords. -/

theorem known_keyword_shape {line : SourceLine} {token : Token} {entry : Entry}
    {finding : Finding} (found : finding ∈ knownKeywordFindings line token entry) :
    ∃ severity category message, severity ≠ .error ∧
      finding = keywordFinding line token severity category message (some entry) [] := by
  rw [knownKeywordFindings, List.mem_append] at found
  rcases found with deprecated | newest
  · split at deprecated
    · exact ⟨.warning, _, _, by decide, List.mem_singleton.mp deprecated⟩
    · cases deprecated
  · split at newest
    · exact ⟨.info, _, _, by decide, List.mem_singleton.mp newest⟩
    · cases newest

theorem unknown_keyword_shape {catalog : Catalog} {line : SourceLine} {token : Token}
    {finding : Finding} (found : finding ∈ unknownKeywordFindings catalog line token) :
    ∃ category message alternatives, finding =
      keywordFinding line token .warning category message none alternatives := by
  rw [unknownKeywordFindings] at found
  split at found
  · cases found
  · exact ⟨_, _, _, List.mem_singleton.mp found⟩

/-- A keyword finding stands at a name of its line and is no error. -/
theorem keyword_finding_cases {catalog : Catalog} {lines : List SourceLine} {finding : Finding}
    (found : finding ∈ keywordFindings catalog lines) :
    ∃ line ∈ lines, line.isCode = true ∧ ∃ token ∈ Token.ofLine line.text,
      finding.line = line.number ∧ finding.column = token.column ∧
        finding.severity ≠ .error ∧ finding.origin = .keywords := by
  rw [keywordFindings] at found
  split at found
  · cases found
  · obtain ⟨line, member, here⟩ := List.mem_flatMap.mp found
    split at here
    · next code =>
        obtain ⟨token, listed, made⟩ := List.mem_flatMap.mp here
        have present : token ∈ Token.ofLine line.text := by
          rw [keywordTokens] at listed
          split at listed
          · exact (List.mem_filter.mp (List.mem_of_mem_take listed)).1
          · exact (List.mem_filter.mp listed).1
        refine ⟨line, member, code, token, present, ?_⟩
        rw [tokenFindings] at made
        split at made
        · split at made
          · obtain ⟨severity, category, message, mild, rfl⟩ := known_keyword_shape made
            exact ⟨rfl, rfl, mild, rfl⟩
          · obtain ⟨category, message, alternatives, rfl⟩ := unknown_keyword_shape made
            exact ⟨rfl, rfl, nofun, rfl⟩
        · cases made
    · cases here

end BasicBench.Check
