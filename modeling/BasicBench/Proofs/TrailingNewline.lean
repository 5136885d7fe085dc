import BasicBench.Proofs.HeaderLines
import BasicBench.Proofs.Rearrangement
import BasicBench.Proofs.Repetition

/-!
Whether a program ends with a newline. A program that does so goes on doing so. The lines of any
other are joined with nothing behind the last one, so that it ends with a newline only when the last
line is empty. An empty last line comes from a block with nothing below it, or it stood there behind
a line end of another kind; and what wraps the main program drops it again, unless it belongs to the
procedures.
-/

set_option autoImplicit false

namespace BasicBench.Instrument

open Text Pattern

/-! Texts. -/

theorem ends_with_newline_append (front rest : Text) :
    endsWithNewline (front ++ '\n' :: rest) = true ↔
      rest = [] ∨ endsWithNewline rest = true := by
  cases rest with
  | nil => simp [endsWithNewline]
  | cons c rest => simp [endsWithNewline, List.getLast?_append]

theorem no_newline_at_end {line : Text} (unbroken : Unbroken line) :
    endsWithNewline line = false := by
  rw [endsWithNewline, beq_eq_false_iff_ne]
  exact fun last => no_feed_of_unbroken unbroken (List.mem_of_getLast? last)

theorem join_nil_iff (lines : List Text) :
    joinLines lines false = [] ↔ lines = [] ∨ lines = [[]] := by
  cases lines with
  | nil => simp [joinLines]
  | cons line lines =>
      by_cases last : lines = []
      · simp [last, joinLines]
      · rw [join_lines_cons line lines false last]
        simp [last]

/-- Lines that are joined with nothing behind the last one end with a newline when the last one is
empty, a single empty line excepted. -/
theorem join_ends_iff (lines : List Text) (unbroken : AllUnbroken lines) :
    endsWithNewline (joinLines lines false) = true ↔
      EndsEmpty lines ∧ joinLines lines false ≠ [] := by
  induction lines with
  | nil => decide
  | cons line lines induction =>
      by_cases last : lines = []
      · have whole : joinLines [line] false = line := by simp [joinLines]
        rw [last, whole, no_newline_at_end (unbroken line List.mem_cons_self), ends_empty_single]
        simp
      · have later := induction fun other member => unbroken other (List.mem_cons_of_mem _ member)
        have longer : EndsEmpty (line :: lines) ↔ EndsEmpty lines := by
          rw [← List.singleton_append, ends_empty_append last]
        rw [join_lines_cons line lines false last, ends_with_newline_append, later, longer]
        by_cases none : joinLines lines false = []
        · have empty : lines = [[]] := ((join_nil_iff lines).mp none).resolve_left last
          subst empty
          simp [EndsEmpty, joinLines]
        · simp [none]

theorem join_closing_ends (lines : List Text) : endsWithNewline (joinLines lines true) = true := by
  simp [joinLines, endsWithNewline]

/-- Where line feeds are the only line ends, a text without one at the end has a last line. -/
theorem last_line_of_plain {text : Text} (plain : Plain text)
    (bare : endsWithNewline text = false) : ¬EndsEmpty (splitLines text) := by
  intro empty
  have joined := join_split text plain
  have ends := join_ends_iff (splitLines text) (all_unbroken_split text)
  rw [bare] at joined
  rw [joined, bare] at ends
  have none : text = [] := by simpa [empty] using ends
  rw [none] at empty
  exact absurd empty (by decide)

/-! The procedures. -/

/-- Once the lines `before` have been distributed: where the procedures end with an empty line, more
lines are to go behind it, and with a main program it is the last one of all. -/
structure Trailing (before : List Text) (sections : Sections) : Prop where
  goesOn : EndsEmpty sections.procedures →
    sections.inProcedure = true ∨ sections.main ≠ [] ∧ 0 < depthThrough 0 before
  last : EndsEmpty sections.procedures → sections.main ≠ [] → EndsEmpty before

theorem depth_after_empty (depth : Nat) : depthAfter depth [] = depth := by
  rw [depthAfter, marker_kind_of_blank [] blank_nil]

/-- A line that goes to the procedures makes their last line, and the last one of all. -/
theorem ends_empty_both {part : List Text} {line : Text} (empty : EndsEmpty (part ++ [line]))
    (before : List Text) : EndsEmpty (before ++ [line]) :=
  (ends_empty_concat before line).mpr ((ends_empty_concat part line).mp empty)

section Trailing

variable {before : List Text} {sections : Sections} (trailing : Trailing before sections)
  {line : Text}

include trailing

theorem trailing_add_inside (side : isInside (depthThrough 0 before) line = true) :
    Trailing (before ++ [line]) (sections.add line true) := by
  cases main : sections.main with
  | nil =>
      have top : sections.add line true = { sections with top := sections.top ++ [line] } := by
        simp [Sections.add, main]
      rw [top]
      refine ⟨fun empty => ?_, fun _ filled => absurd main filled⟩
      exact .inl ((trailing.goesOn empty).resolve_right fun within => within.1 main)
  | cons first others =>
      have below : sections.add line true =
          { sections with procedures := sections.procedures ++ [line] } := by
        simp [Sections.add, main]
      rw [below]
      refine ⟨fun empty => .inr ⟨by simp [main], ?_⟩, fun empty _ => ends_empty_both empty before⟩
      rw [(ends_empty_concat _ line).mp empty] at side ⊢
      rw [Sections.depth_through_concat, depth_after_empty]
      simpa [isInside, marker_kind_of_blank [] blank_nil] using side

theorem trailing_add_outside (side : isInside (depthThrough 0 before) line = false) :
    Trailing (before ++ [line]) (sections.add line false) := by
  cases state : sections.inProcedure with
  | true =>
      have below : sections.add line false =
          { sections with
            procedures := sections.procedures ++ [line]
            inProcedure := !procedureEnd.startsText line } := by
        simp [Sections.add, state]
      rw [below]
      refine ⟨fun empty => .inl ?_, fun empty _ => ends_empty_both empty before⟩
      have last : procedureEnd.startsText line = false := by
        rw [(ends_empty_concat _ line).mp empty]
        decide
      exact congrArg not last
  | false =>
      -- No block is open and no procedure either, so the procedures go on nowhere.
      have none : ¬EndsEmpty sections.procedures := by
        intro empty
        rcases trailing.goesOn empty with within | ⟨-, deep⟩
        · rw [state] at within
          cases within
        · rw [((outside_iff _ line).mp side).1] at deep
          exact absurd deep (by decide)
      have stays : ¬EndsEmpty (sections.add line false).procedures := by
        unfold Sections.add
        simp only [Bool.false_eq_true, if_false, state]
        split
        next starts =>
          intro empty
          rw [(ends_empty_concat _ line).mp empty] at starts
          exact absurd starts (by decide)
        next => split <;> exact none
      exact ⟨fun empty => absurd empty stays, fun empty => absurd empty stays⟩

theorem trailing_add : Trailing (before ++ [line])
    (sections.add line (isInside (depthThrough 0 before) line)) := by
  cases side : isInside (depthThrough 0 before) line with
  | true => exact trailing_add_inside trailing side
  | false => exact trailing_add_outside trailing side

end Trailing

theorem trailing_of_lines (lines : List Text) : Trailing lines (Sections.ofLines lines) := by
  have start : Trailing [] {} := ⟨fun empty => absurd empty (by decide),
    fun empty => absurd empty (by decide)⟩
  have all : Trailing ((masked lines).map (·.1)) (Sections.ofLines lines) := by
    refine Sections.of_lines_induction
      (motive := fun before sections => Trailing (before.map (·.1)) sections) start ?_ lines
    intro before sections line trailing
    rw [List.map_append]
    exact trailing_add trailing
  rwa [lines_of_masked] at all

/-- An empty line at the end of the procedures is the last line of the program. -/
theorem last_of_procedures {lines : List Text} (wrapping : wraps lines = true)
    (empty : EndsEmpty (Sections.ofLines lines).procedures) : EndsEmpty lines := by
  rw [wraps, Bool.not_eq_true', Bool.or_eq_false_iff, List.isEmpty_eq_false_iff] at wrapping
  exact (trailing_of_lines lines).last empty wrapping.2

/-! Passes. -/

section Passes

variable {options : Options} {stamp : Text} {program : Text} {revision : Revision}

/-- A program that ends with a newline goes on doing so. -/
theorem run_pass_closing {feature : Feature}
    (ran : runPass? options stamp feature program = some revision)
    (closing : endsWithNewline program = true) : endsWithNewline revision.program = true := by
  rw [run_pass_eq] at ran
  obtain ⟨draft, -, rfl⟩ := Option.map_eq_some_iff.mp ran
  split
  · exact closing
  · rw [Draft.toProgram, closing]
    exact join_closing_ends draft.lines

/-- A pass with a block joins the lines that its actions left. -/
theorem run_pass_joins {feature : Feature} (owns : feature ≠ .flowControl)
    (ran : runPass? options stamp feature program = some revision) :
    (∃ draft, passDraft? options stamp (splitLines program) feature = some draft) ∧
      revision.program = joinLines
        (performAll options stamp (actionsOf options feature) (splitLines program))
        (endsWithNewline program) := by
  rw [run_pass_eq] at ran
  obtain ⟨draft, drafted, rfl⟩ := Option.map_eq_some_iff.mp ran
  refine ⟨⟨draft, drafted⟩, ?_⟩
  rw [if_neg (by simp [owns]), Draft.toProgram, pass_draft_eq options stamp _ feature draft drafted,
    lines_of_acts]

theorem has_block_after_pass (plain : Unbroken stamp) {feature other : Feature}
    (owned : other ≠ .flowControl)
    (ran : runPass? options stamp feature program = some revision) :
    hasBlock other (splitLines revision.program) = true ↔
      other = feature ∨ hasBlock other (splitLines program) = true := by
  have counted := marker_count_pass plain owned ran
  rw [markerCount, markerCount] at counted
  rw [has_block_iff, has_block_iff, counted]
  by_cases same : feature = other
  · rw [if_pos same]
    exact iff_of_true (by omega) (.inl same.symm)
  · rw [if_neg same]
    exact (or_iff_right (Ne.symm same)).symm

/-- What a pass with a block makes of a program that does not end with a newline. -/
structure Supported (feature : Feature) (before after : Text) : Prop where
  newline : endsWithNewline after = true ↔ EndsEmpty (splitLines before) ∨
    hasBlock feature (splitLines before) = false ∧ HeaderOnly (splitLines before)
  headers : HeaderOnly (splitLines after) ↔ HeaderOnly (splitLines before)
  plain : Plain after

theorem supported_by_pass (plain : Unbroken stamp) {feature : Feature}
    (owns : feature ≠ .flowControl)
    (ran : runPass? options stamp feature program = some revision)
    (bare : endsWithNewline program = false) : Supported feature program revision.program := by
  have agree := run_pass_lines plain ran
  have present := (has_block_after_pass plain owns ran).mpr (.inl rfl)
  obtain ⟨⟨draft, drafted⟩, joined⟩ := run_pass_joins owns ran
  have unbroken := all_unbroken_split program
  obtain ⟨headers, last⟩ := headers_and_last_of_pass plain owns unbroken drafted
  have written : AllUnbroken
      (performAll options stamp (actionsOf options feature) (splitLines program)) :=
    unbroken_perform_all plain _ _ unbroken
  rw [bare] at joined
  refine ⟨?_, (agree_but_end_iff header_only_ignores_end agree).trans headers, ?_⟩
  · -- The block is there, so the program is not empty.
    have shown : revision.program ≠ [] := by
      intro none
      rw [none] at present
      exact absurd present (by simp [splitLines, hasBlock])
    rw [joined] at shown ⊢
    rw [join_ends_iff _ written, last]
    exact and_iff_left shown
  · rw [joined]
    exact join_lines_plain _ false written

/-- A program with a main part has a line that is no header line. -/
theorem not_header_only_of_wraps {lines : List Text} (wrapping : wraps lines = true) :
    ¬HeaderOnly lines := by
  intro only
  have none : NoMain false (masked lines) := by
    have alone := no_main_headers (masked lines) [] only
    rw [List.append_nil] at alone
    exact alone.mpr trivial
  rw [wraps, Bool.not_eq_true', Bool.or_eq_false_iff, List.isEmpty_eq_false_iff] at wrapping
  exact wrapping.2 ((main_empty_iff lines).mpr none)

theorem flow_pass_cases (ran : runPass? options stamp .flowControl program = some revision) :
    if wraps (splitLines program) = true
    then revision.program = joinLines (arrange (Sections.ofLines (splitLines program))
      (hasBlock .console (splitLines program)) options.autoExit) (endsWithNewline program)
    else revision.program = program := by
  rw [run_pass_eq] at ran
  obtain ⟨_, drafted, rfl⟩ := Option.map_eq_some_iff.mp ran
  obtain rfl := Option.some.inj drafted
  have draft := flow_control_draft options (splitLines program)
  have lines := flow_control_eq options (splitLines program)
  split
  next wrapping =>
    rw [if_pos wrapping] at draft lines
    rw [if_neg (by simp [draft]), Draft.toProgram, lines]
  next idle =>
    rw [if_neg idle] at draft
    rw [draft, if_pos ⟨rfl, rfl⟩]

/-- The new program ends with the procedures, if there are any. -/
theorem ends_empty_arrange (sections : Sections) (hasConsole autoExit : Bool) :
    EndsEmpty (arrange sections hasConsole autoExit) ↔ EndsEmpty sections.procedures := by
  have back : backLines sections.procedures ≠ [] := by
    rw [backLines]
    split <;> simp
  have split : arrange sections hasConsole autoExit =
      (sections.top ++ (asLines (frontLines hasConsole autoExit) ++
        sections.mainBody.map indentLine)) ++ backLines sections.procedures := by
    rw [arrange]
    simp only [List.append_assoc]
  rw [split, ends_empty_append back, backLines]
  split
  next none =>
    rw [List.isEmpty_iff.mp none]
    decide
  next some =>
    have filled : sections.procedures ≠ [] := fun none => some (List.isEmpty_iff.mpr none)
    have whole : "END SUB".toList :: [] :: sections.procedures =
        ["END SUB".toList, []] ++ sections.procedures := rfl
    rw [whole, ends_empty_append filled]

/-- The call of the wrapper is no header line. -/
theorem not_header_only_arrange {lines : List Text} (hasConsole autoExit : Bool)
    (wrapping : wraps lines = true) :
    ¬HeaderOnly (arrange (Sections.ofLines lines) hasConsole autoExit) := by
  intro only
  have member : ("CALL AutoTestWrapper".toList, false) ∈
      masked (arrange (Sections.ofLines lines) hasConsole autoExit) := by
    rw [masked_arrange _ _ wrapping]
    simp [middleLines, frontLines, asLines]
  exact absurd (only _ member) (by decide)

/-- What wrapping makes of a program that does not end with a newline. -/
structure Enclosed (before after : Text) : Prop where
  newline : endsWithNewline after = true ↔
    EndsEmpty (Sections.ofLines (splitLines before)).procedures
  headers : ¬HeaderOnly (splitLines after)
  plain : Plain after

theorem enclosed_by_pass (plain : Unbroken stamp)
    (ran : runPass? options stamp .flowControl program = some revision)
    (wrapping : wraps (splitLines program) = true)
    (bare : endsWithNewline program = false) : Enclosed program revision.program := by
  have agree := run_pass_lines plain ran
  have cases := flow_pass_cases ran
  have arranged := flow_control_eq options (splitLines program)
  rw [if_pos wrapping, bare] at cases
  rw [if_pos wrapping] at arranged
  have written : AllUnbroken (Action.wrap.perform options stamp (splitLines program)) :=
    unbroken_perform options stamp plain _ (all_unbroken_split program) .wrap
  have performed : performAll options stamp (actionsOf options .flowControl) (splitLines program) =
      Action.wrap.perform options stamp (splitLines program) := rfl
  rw [performed, Action.perform, arranged] at agree
  rw [Action.perform, arranged] at written
  have shown := not_header_only_arrange (hasBlock .console (splitLines program)) options.autoExit
    wrapping
  refine ⟨?_, mt (agree_but_end_iff header_only_ignores_end agree).mp shown, ?_⟩
  · rw [cases, join_ends_iff _ written, ends_empty_arrange]
    refine and_iff_left fun none => shown ?_
    rcases (join_nil_iff _).mp none with same | same
    · rw [same]
      decide
    · rw [same]
      decide
  · rw [cases]
    exact join_lines_plain _ false written

end Passes

/-! The whole run. -/

/-- How a program that does not end with a newline comes to end with one. -/
inductive GainsNewline (features : List Feature) (lines : List Text) : Prop
  /-- All lines are header lines, so that a missing block comes in behind the last one. -/
  | header (feature : Feature) (listed : feature ∈ features) (owns : feature ≠ .flowControl)
      (missing : hasBlock feature lines = false) (only : HeaderOnly lines)
  /-- The last line is empty, and the first pass at work leaves it there. -/
  | emptyLine (feature : Feature) (listed : feature ∈ features) (owns : feature ≠ .flowControl)
      (empty : EndsEmpty lines)
      (stays : features.head? = some .flowControl → wraps lines = false)
  /-- The first pass wraps the main program, and the procedures end with an empty line. -/
  | procedures (first : features.head? = some .flowControl) (wrapping : wraps lines = true)
      (empty : EndsEmpty (Sections.ofLines lines).procedures)

/-- Where the last line is not empty, only a block behind nothing but header lines does it. -/
theorem gains_newline_iff {features : List Feature} {lines : List Text} (shown : ¬EndsEmpty lines) :
    GainsNewline features lines ↔ HeaderOnly lines ∧
      ∃ feature ∈ features, feature ≠ .flowControl ∧ hasBlock feature lines = false := by
  constructor
  · rintro (⟨feature, listed, owns, missing, only⟩ | ⟨_, _, _, empty, _⟩ | ⟨_, wrapping, empty⟩)
    · exact ⟨only, feature, listed, owns, missing⟩
    · exact absurd empty shown
    · exact absurd (last_of_procedures wrapping empty) shown
  · rintro ⟨only, feature, listed, owns, missing⟩
    exact .header feature listed owns missing only

section Run

variable {options : Options} {stamp : Text}

theorem run_passes_closing {features : List Feature} {program : Text} {revision : Revision}
    (ran : runPasses? options stamp program features = some revision)
    (closing : endsWithNewline program = true) : endsWithNewline revision.program = true := by
  refine run_passes_invariant (motive := fun text => endsWithNewline text = true) ?_ ran closing
  intro feature _ program revision ranPass before
  exact run_pass_closing ranPass before

/-- A pass that wraps nothing decides nothing. -/
theorem gains_newline_idle {features : List Feature} {lines : List Text}
    (idle : wraps lines = false) :
    GainsNewline (.flowControl :: features) lines ↔ GainsNewline features lines := by
  constructor
  · rintro (⟨feature, listed, owns, missing, only⟩ | ⟨feature, listed, owns, empty, -⟩ |
      ⟨-, wrapping, -⟩)
    · exact .header feature (List.mem_of_ne_of_mem owns listed) owns missing only
    · exact .emptyLine feature (List.mem_of_ne_of_mem owns listed) owns empty fun _ => idle
    · exact absurd (wrapping.symm.trans idle) (by decide)
  · rintro (⟨feature, listed, owns, missing, only⟩ | ⟨feature, listed, owns, empty, -⟩ |
      ⟨-, wrapping, -⟩)
    · exact .header feature (List.mem_cons_of_mem _ listed) owns missing only
    · exact .emptyLine feature (List.mem_cons_of_mem _ listed) owns empty fun _ => idle
    · exact absurd (wrapping.symm.trans idle) (by decide)

/-- Behind a program that is wrapped nothing else brings a newline in. -/
theorem gains_newline_enclosed (features : List Feature) {before after : Text}
    (enclosed : Enclosed before after) (bare : endsWithNewline after = false)
    (wrapping : wraps (splitLines before) = true) :
    ¬GainsNewline features (splitLines after) ∧
      ¬GainsNewline (.flowControl :: features) (splitLines before) := by
  constructor
  · rw [gains_newline_iff (last_line_of_plain enclosed.plain bare)]
    exact fun gains => enclosed.headers gains.1
  · rintro (⟨-, -, -, -, only⟩ | ⟨-, -, -, -, stays⟩ | ⟨-, -, empty⟩)
    · exact not_header_only_of_wraps wrapping only
    · exact absurd (wrapping.symm.trans (stays rfl)) (by decide)
    · rw [enclosed.newline.mpr empty] at bare
      exact absurd bare (by decide)

/-- Where a block comes in above other lines, the later passes bring a newline in when they would
have done so without it. -/
theorem gains_newline_supported {feature : Feature} {features : List Feature} {before after : Text}
    (supported : Supported feature before after) (bare : endsWithNewline after = false)
    (blocks : ∀ other, other ≠ .flowControl → (hasBlock other (splitLines after) = true ↔
      other = feature ∨ hasBlock other (splitLines before) = true)) :
    GainsNewline features (splitLines after) ↔
      GainsNewline (feature :: features) (splitLines before) := by
  have quiet := mt supported.newline.mpr (by simp [bare])
  rw [not_or, not_and] at quiet
  obtain ⟨shown, here⟩ := quiet
  rw [gains_newline_iff (last_line_of_plain supported.plain bare), gains_newline_iff shown,
    supported.headers]
  refine and_congr_right fun only => ?_
  constructor
  · rintro ⟨other, listed, owned, missing⟩
    refine ⟨other, List.mem_cons_of_mem _ listed, owned, ?_⟩
    rw [← Bool.not_eq_true, blocks other owned, not_or] at missing
    simpa using missing.2
  · rintro ⟨other, listed, owned, missing⟩
    have apart : other ≠ feature := by
      rintro rfl
      exact here missing only
    refine ⟨other, List.mem_of_ne_of_mem apart listed, owned, ?_⟩
    rw [← Bool.not_eq_true, blocks other owned, not_or]
    exact ⟨apart, by simp [missing]⟩

/-- A run of passes brings a newline in exactly in these cases. -/
theorem run_passes_gain (plain : Unbroken stamp) {features : List Feature} {program : Text}
    {revision : Revision} (ran : runPasses? options stamp program features = some revision)
    (bare : endsWithNewline program = false) :
    endsWithNewline revision.program = true ↔ GainsNewline features (splitLines program) := by
  induction features generalizing program revision with
  | nil =>
      obtain rfl := Option.some.inj ran
      refine iff_of_false (by simp [bare]) ?_
      rintro (⟨_, listed, -, -, -⟩ | ⟨_, listed, -, -, -⟩ | ⟨first, -, -⟩)
      · exact absurd listed List.not_mem_nil
      · exact absurd listed List.not_mem_nil
      · exact absurd first (by simp)
  | cons feature features induction =>
      obtain ⟨first, last, ranFirst, ranLast, rfl⟩ := run_passes_cons ran
      change endsWithNewline last.program = true ↔ _
      by_cases flow : feature = .flowControl
      · subst flow
        cases wrapping : wraps (splitLines program) with
        | false =>
            have same := flow_pass_cases ranFirst
            rw [if_neg (by simp [wrapping])] at same
            rw [same] at ranLast
            rw [gains_newline_idle wrapping]
            exact induction ranLast bare
        | true =>
            have enclosed := enclosed_by_pass plain ranFirst wrapping bare
            cases newline : endsWithNewline first.program with
            | true =>
                exact iff_of_true (run_passes_closing ranLast newline)
                  (.procedures rfl wrapping (enclosed.newline.mp newline))
            | false =>
                obtain ⟨later, here⟩ := gains_newline_enclosed _ enclosed newline wrapping
                rw [induction ranLast newline]
                exact iff_of_false later here
      · have supported := supported_by_pass plain flow ranFirst bare
        cases newline : endsWithNewline first.program with
        | true =>
            refine iff_of_true (run_passes_closing ranLast newline) ?_
            rcases supported.newline.mp newline with empty | ⟨missing, only⟩
            · refine .emptyLine feature List.mem_cons_self flow empty fun first => ?_
              exact absurd (Option.some.inj first) flow
            · exact .header feature List.mem_cons_self flow missing only
        | false =>
            rw [induction ranLast newline]
            exact gains_newline_supported supported newline
              fun other owned => has_block_after_pass plain owned ranFirst

/-- The wrapped main program takes the empty line below it along, but not the one of a procedure. -/
example : ¬GainsNewline [.flowControl] (asLines ["PRINT 1", ""]) ∧
    GainsNewline [.flowControl] (asLines ["PRINT 1", "SUB p", ""]) ∧
    GainsNewline [.console, .flowControl] (asLines ["PRINT 1", ""]) := by
  refine ⟨?_, .procedures rfl (by decide +kernel) (by decide +kernel), ?_⟩
  · rintro (⟨_, listed, owns, -, -⟩ | ⟨_, listed, owns, -, -⟩ | ⟨-, -, empty⟩)
    · exact owns (List.mem_singleton.mp listed)
    · exact owns (List.mem_singleton.mp listed)
    · exact absurd empty (by decide +kernel)
  · exact .emptyLine .console (by decide) (by decide) (by decide +kernel) (by decide)

end Run

/-- The output ends with a newline exactly when the source does, unless the source does not and
gains one. -/
theorem newline_kept_iff (options : Options) (mode : Mode) (stamp source : Text)
    (out : Instrumented) (plain : Unbroken stamp)
    (ran : instrument? options mode stamp source = some out) :
    (endsWithNewline out.program = true ↔ endsWithNewline source = true) ↔
      (endsWithNewline source = true ∨
        ¬GainsNewline (selected options mode) (splitLines source)) := by
  obtain ⟨revision, passed, same, -⟩ := instrument_run ran
  rw [← same]
  cases newline : endsWithNewline source with
  | true => simp [run_passes_closing passed newline]
  | false =>
      rw [run_passes_gain plain passed newline]
      simp

/-- A comment and a statement, to which all passes apply. -/
theorem statement_keeps_end : ∃ out,
    instrument? {} .mixed [] "' demo\nLINE (0, 0)-(9, 9)".toList = some out ∧
      endsWithNewline out.program = false := by
  have kept := newline_kept_iff {} .mixed [] "' demo\nLINE (0, 0)-(9, 9)".toList _ unbroken_nil rfl
  refine ⟨_, rfl, ?_⟩
  have bare : endsWithNewline "' demo\nLINE (0, 0)-(9, 9)".toList = false := by decide
  have none : ¬GainsNewline (selected {} .mixed)
      (splitLines "' demo\nLINE (0, 0)-(9, 9)".toList) := by
    rw [gains_newline_iff (by decide +kernel)]
    exact fun gains => absurd gains.1 (by decide +kernel)
  rw [← Bool.not_eq_true, kept.mpr (.inr none), bare]
  decide

/-- Behind a comment and nothing else the empty line below a block makes a newline. -/
theorem comment_gains_newline : ∃ out,
    instrument? { console := false, flowControl := false, logging := false, screenshots := false }
      .console [] "' Notes".toList = some out ∧
    endsWithNewline "' Notes".toList = false ∧ endsWithNewline out.program = true := by
  have bare : endsWithNewline "' Notes".toList = false := by decide
  refine ⟨_, rfl, bare, ?_⟩
  obtain ⟨revision, passed, same, -⟩ := instrument_run (rfl : instrument?
    { console := false, flowControl := false, logging := false, screenshots := false }
    .console [] "' Notes".toList = some _)
  rw [← same, run_passes_gain unbroken_nil passed bare]
  exact .header .resources (by decide) (by decide) (by decide +kernel) (by decide +kernel)

end BasicBench.Instrument
