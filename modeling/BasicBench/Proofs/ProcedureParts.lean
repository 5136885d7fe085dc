import BasicBench.Proofs.ProcedureLines

/-!
What stands in procedures, for the checks and for flow control. The checks count how many
procedures are open, flow control only remembers whether it is in one, and it does not know line
numbers. So the two go apart at a procedure with a line number and at a procedure in another one,
unless the next line brings them together again. There are two results: a condition on the lines of
code that says for every program whether the two agree, and, of its own, that they agree wherever
procedures are written plainly, which can be told without following the lines.
-/

set_option autoImplicit false

namespace BasicBench.Instrument.Sections

open Text

/-- Flow control puts the line that stands below others with the procedures. -/
def KeptWithProcedures (above : List Text) (line : Text) : Prop :=
  (ofLines (above ++ [line])).procedures = (ofLines above).procedures ++ [line]

/-- The parts behind lines without added code. -/
def run (sections : Sections) (lines : List Text) : Sections :=
  lines.foldl (fun sections line => sections.add line false) sections

theorem run_of_unmarked {lines : List Text} (unmarked : ∀ line ∈ lines, markerKind? line = none) :
    ofLines lines = run {} lines := by
  rw [ofLines, masked_of_unmarked unmarked, List.foldl_map]
  rfl

theorem in_procedure_add (sections : Sections) (line : Text) :
    (sections.add line false).inProcedure =
      if sections.inProcedure then !procedureEnd.startsText line
      else procedureStart.startsText line := by
  unfold add
  cases within : sections.inProcedure <;> cases begins : procedureStart.startsText line <;>
    cases top : sections.main.isEmpty && isTopLine line <;> simp

theorem procedures_add (sections : Sections) (line : Text) :
    (sections.add line false).procedures =
      if sections.inProcedure || procedureStart.startsText line then sections.procedures ++ [line]
      else sections.procedures := by
  unfold add
  cases within : sections.inProcedure <;> cases begins : procedureStart.startsText line <;>
    cases top : sections.main.isEmpty && isTopLine line <;> simp

theorem kept_iff {above : List Text} {line : Text}
    (unmarked : ∀ other ∈ above ++ [line], markerKind? other = none) :
    KeptWithProcedures above line ↔
      (run {} above).inProcedure = true ∨ procedureStart.startsText line = true := by
  have part := run_of_unmarked fun other member => unmarked other (List.mem_append_left _ member)
  have whole : ofLines (above ++ [line]) = (run {} above).add line false := by
    rw [run_of_unmarked unmarked, run, List.foldl_append]
    rfl
  rw [KeptWithProcedures, whole, part, procedures_add, ← Bool.or_eq_true]
  split
  · next kept => simp [kept]
  · next moved => simp [moved]

end BasicBench.Instrument.Sections

namespace BasicBench.Check

open Text Instrument

/-! The checks. -/

/-- A procedure is open for the checks above a line, or the line opens one. -/
def InsideProcedure (above : List SourceLine) (line : SourceLine) : Prop :=
  (above.foldl OpenBlocks.step {}).procedures ≠ [] ∨ opensProcedure line.text = true

/-- How many procedures are open behind a line. -/
def openBehind (depth : Nat) (line : Text) : Nat :=
  if opensProcedure line then depth + 1 else if closesProcedure line then depth - 1 else depth

theorem bracket_of_line (line : SourceLine) :
    bracket? line.text = (blockEvent? line).map (·.bracket) := rfl

theorem open_behind_idle {line : Text} (idle : isCodeText line = false) (depth : Nat) :
    openBehind depth line = depth := by
  rw [openBehind, opensProcedure, closesProcedure, quiet_of_not_code idle]
  rfl

namespace OpenBlocks

/-- In a program without a finding every closer finds what it closes. -/
theorem stack_of_closes {blocks : OpenBlocks} {line : SourceLine} {rest : List SourceLine}
    {kind : BlockKind} (completes : blocks.Completes (line :: rest))
    (read : blockEvent? line = some (.closes kind)) (procedure : kind.isLoop = false) :
    ∃ frame outer, blocks.procedures = frame :: outer ∧ frame.kind = kind := by
  have closing := ((completes_event blocks line rest _ read).mp completes).2
  rw [BlockEvent.bracket, Bracket.kind, if_neg (by simp [procedure]), closing_closes] at closing
  obtain ⟨-, outer, kinds, -⟩ := closing
  obtain ⟨frame, frames, shape, same, -⟩ := List.map_eq_cons_iff.mp kinds
  exact ⟨frame, frames, shape, same⟩

theorem open_behind_step {blocks : OpenBlocks} {line : SourceLine} {rest : List SourceLine}
    (completes : blocks.Completes (line :: rest)) :
    (blocks.step line).procedures.length = openBehind blocks.procedures.length line.text := by
  rw [openBehind, opensProcedure, closesProcedure, bracket_of_line]
  cases read : blockEvent? line with
  | none =>
      rw [step_quiet blocks line read]
      rfl
  | some event =>
      rw [step_event blocks line event read]
      cases event with
      | opens kind name =>
          cases procedure : kind.isLoop <;>
            simp [apply, setStack, stack, BlockEvent.bracket, procedure]
      | closes kind =>
          cases procedure : kind.isLoop with
          | true =>
              cases closed : (blocks.stack kind).close? kind <;>
                simp [apply, setStack, BlockEvent.bracket, procedure, closed]
          | false =>
              obtain ⟨frame, outer, shape, same⟩ := stack_of_closes completes read procedure
              simp [apply, setStack, stack, BlockStack.close?, BlockEvent.bracket, procedure, shape, same]

theorem open_of_closes {blocks : OpenBlocks} {line : SourceLine} {rest : List SourceLine}
    (completes : blocks.Completes (line :: rest)) (closes : closesProcedure line.text = true) :
    0 < blocks.procedures.length := by
  obtain ⟨kind, read, procedure⟩ := (closes_procedure_iff line.text).mp closes
  rw [bracket_of_line] at read
  obtain ⟨event, told, same⟩ := Option.map_eq_some_iff.mp read
  cases event with
  | opens kind name => cases same
  | closes other =>
      cases same
      obtain ⟨frame, outer, shape, -⟩ := stack_of_closes completes told procedure
      simp [shape]

end OpenBlocks

/-! Both. -/

/-- Whether a line closes a procedure for the checks and not for flow control. -/
def missesEnd (line : Text) : Bool := closesProcedure line && !procedureEnd.startsText line

/-- Whether the next line of code keeps flow control together with the checks. Outside procedures a
line has to open a procedure for both, or to open one behind an end that flow control has missed.
Inside, a line behind an end that flow control has seen has to begin the next procedure. -/
def keepsTogether (depth : Nat) (previous : Option Text) (line : Text) : Bool :=
  if depth = 0 then
    opensProcedure line == (procedureStart.startsText line || previous.any missesEnd)
  else procedureStart.startsText line || !previous.any procedureEnd.startsText

/-- Whether all lines of code do, when `depth` procedures are open above them. -/
def keepTogether (depth : Nat) (previous : Option Text) : List Text → Bool
  | [] => true
  | line :: rest =>
      keepsTogether depth previous line && keepTogether (openBehind depth line) (some line) rest

/-- What flow control remembers above a line when it has gone together with the checks so far. -/
def Tracks (depth : Nat) (previous : Option Text) (within : Bool) : Prop :=
  within = true ↔ previous.any procedureEnd.startsText = false ∧
    (0 < depth ∨ previous.any missesEnd = true)

section Step

variable {depth : Nat} {previous : Option Text} {within : Bool}

/-- An end is not both seen and missed. -/
theorem not_seen_of_missed (missed : previous.any missesEnd = true) :
    previous.any procedureEnd.startsText = false := by
  cases previous with
  | none => rfl
  | some line =>
      rw [Option.any_some, missesEnd, Bool.and_eq_true, Bool.not_eq_true'] at missed
      exact missed.2

theorem agrees_iff (tracks : Tracks depth previous within) (line : Text) :
    ((within = true ∨ procedureStart.startsText line = true) ↔
      (0 < depth ∨ opensProcedure line = true)) ↔ keepsTogether depth previous line = true := by
  cases depth with
  | zero =>
      have remembers : within = true ↔ previous.any missesEnd = true :=
        tracks.trans ⟨fun both => both.2.resolve_left (Nat.lt_irrefl 0),
          fun missed => ⟨not_seen_of_missed missed, .inr missed⟩⟩
      have same : keepsTogether 0 previous line = true ↔ (opensProcedure line = true ↔
          procedureStart.startsText line = true ∨ previous.any missesEnd = true) := by
        rw [keepsTogether, if_pos rfl, beq_iff_eq, Bool.eq_iff_iff, Bool.or_eq_true]
      rw [remembers, same, or_comm]
      simp only [Nat.lt_irrefl, false_or]
      exact Iff.comm
  | succ depth =>
      have remembers : within = true ↔ previous.any procedureEnd.startsText = false :=
        tracks.trans ⟨And.left, fun unseen => ⟨unseen, .inl depth.succ_pos⟩⟩
      rw [remembers, keepsTogether, if_neg depth.succ_ne_zero, Bool.or_eq_true, Bool.not_eq_true',
        or_comm]
      simp only [depth.succ_pos, true_or, iff_true]

theorem tracks_step (tracks : Tracks depth previous within) {line : Text}
    (agrees : (within = true ∨ procedureStart.startsText line = true) ↔
      (0 < depth ∨ opensProcedure line = true))
    (opened : closesProcedure line = true → 0 < depth) :
    Tracks (openBehind depth line) (some line)
      (if within then !procedureEnd.startsText line else procedureStart.startsText line) := by
  rw [Tracks, Option.any_some, Option.any_some, missesEnd, openBehind]
  cases opens : opensProcedure line with
  | true =>
      have stays : procedureEnd.startsText line = false := not_ends_of_opens opens
      have begun := agrees.mpr (.inr opens)
      cases within <;> simp_all
  | false =>
      cases closes : closesProcedure line with
      | true =>
          -- A closer begins no procedure, so flow control was in one.
          have begins : ¬procedureStart.startsText line = true := fun begins => by
            rw [begins_not_closes begins] at closes
            cases closes
          have inside := (agrees.mpr (.inl (opened closes))).resolve_right begins
          rw [if_pos inside]
          cases procedureEnd.startsText line <;> simp
      | false =>
          have stays : procedureEnd.startsText line = false := not_ends_of_not_closes closes
          rw [opens] at agrees
          cases within <;> simp_all

end Step

/-- Flow control takes a line of code for part of a procedure exactly when the checks do. -/
def AgreeOn (blocks : OpenBlocks) (sections : Sections) (line : SourceLine) : Prop :=
  line.isCode = true →
    ((sections.inProcedure = true ∨ procedureStart.startsText line.text = true) ↔
      (0 < blocks.procedures.length ∨ opensProcedure line.text = true))

def AgreeThrough (blocks : OpenBlocks) (sections : Sections) (lines : List SourceLine) : Prop :=
  ∀ above line below, lines = above ++ line :: below →
    AgreeOn (above.foldl OpenBlocks.step blocks) (sections.run (above.map (·.text))) line

theorem agree_through_cons (blocks : OpenBlocks) (sections : Sections) (line : SourceLine)
    (rest : List SourceLine) :
    AgreeThrough blocks sections (line :: rest) ↔ AgreeOn blocks sections line ∧
      AgreeThrough (blocks.step line) (sections.add line.text false) rest := by
  constructor
  · exact fun all => ⟨all [] line rest rfl, fun above other below split =>
      all (line :: above) other below (congrArg (line :: ·) split)⟩
  · rintro ⟨here, later⟩ above other below split
    cases above with
    | nil =>
        obtain ⟨rfl, -⟩ := List.cons.inj split
        exact here
    | cons first above =>
        rw [List.cons_append, List.cons.injEq] at split
        obtain ⟨rfl, split⟩ := split
        exact later above other below split

/-- From a place where flow control remembers what it should, both agree on every line of code
exactly when all lines keep them together. -/
theorem agree_through_iff (lines : List SourceLine) {blocks : OpenBlocks} {sections : Sections}
    {previous : Option Text} (completes : blocks.Completes lines)
    (tracks : Tracks blocks.procedures.length previous sections.inProcedure) :
    AgreeThrough blocks sections lines ↔
      keepTogether blocks.procedures.length previous
        ((lines.filter (·.isCode)).map (·.text)) = true := by
  induction lines generalizing blocks sections previous with
  | nil => exact iff_of_true (fun above line below split => by simp at split) rfl
  | cons line rest induction =>
      have next := (OpenBlocks.completes_step blocks line rest).mpr completes
      have depth := OpenBlocks.open_behind_step completes
      rw [agree_through_cons]
      cases code : line.isCode with
      | false =>
          have idle : isCodeText line.text = false := code
          have still : (sections.add line.text false).inProcedure = sections.inProcedure := by
            rw [Sections.in_procedure_add, not_begins_of_idle idle, not_ends_of_idle idle]
            cases sections.inProcedure <;> rfl
          rw [open_behind_idle idle] at depth
          rw [List.filter_cons_of_neg (by simp [code]), ← depth, AgreeOn, code,
            and_iff_right (fun code => absurd code (by decide))]
          refine induction next ?_
          rwa [depth, still]
      | true =>
          have agrees : AgreeOn blocks sections line ↔
              keepsTogether blocks.procedures.length previous line.text = true := by
            rw [← agrees_iff tracks, AgreeOn]
            exact ⟨fun agree => agree code, fun agree _ => agree⟩
          rw [List.filter_cons_of_pos code, List.map_cons, keepTogether, Bool.and_eq_true, agrees]
          refine and_congr_right fun together => ?_
          have tracked := tracks_step tracks ((agrees_iff tracks line.text).mpr together)
            (OpenBlocks.open_of_closes completes)
          rw [← depth, ← Sections.in_procedure_add] at tracked
          rw [← depth]
          exact induction next tracked

/-! Procedures without line numbers. -/

/-- Every line that stands for a procedure is without a line number, what begins one has a name,
and none begins in another. -/
structure PlainProcedures (blocks : OpenBlocks) (lines : List SourceLine) : Prop where
  unlabelled : ∀ line ∈ lines,
    opensProcedure line.text = true ∨ closesProcedure line.text = true → isUnlabelled line.text = true
  named : ∀ line ∈ lines, procedureStart.startsText line.text = true →
    opensProcedure line.text = true
  flat : ∀ above line below, lines = above ++ line :: below → opensProcedure line.text = true →
    (above.foldl OpenBlocks.step blocks).procedures = []

theorem plain_step {blocks : OpenBlocks} {line : SourceLine} {rest : List SourceLine}
    (plain : PlainProcedures blocks (line :: rest)) : PlainProcedures (blocks.step line) rest where
  unlabelled other member := plain.unlabelled other (List.mem_cons_of_mem line member)
  named other member := plain.named other (List.mem_cons_of_mem line member)
  flat above other below split :=
    plain.flat (line :: above) other below (congrArg (line :: ·) split)

/-- Flow control is in a procedure exactly when one is open, and then no other is. -/
theorem plain_agree (lines : List SourceLine) {blocks : OpenBlocks} {sections : Sections}
    (completes : blocks.Completes lines) (plain : PlainProcedures blocks lines)
    (single : blocks.procedures.length ≤ 1)
    (within : sections.inProcedure = true ↔ 0 < blocks.procedures.length) :
    AgreeThrough blocks sections lines := by
  induction lines generalizing blocks sections with
  | nil => exact fun above line below split => by simp at split
  | cons line rest induction =>
      have next := (OpenBlocks.completes_step blocks line rest).mpr completes
      have depth := OpenBlocks.open_behind_step completes
      have member : line ∈ line :: rest := List.mem_cons_self
      have begins : procedureStart.startsText line.text = true ↔ opensProcedure line.text = true :=
        ⟨plain.named line member, fun opens =>
          begins_of_opens opens (plain.unlabelled line member (.inl opens))⟩
      refine (agree_through_cons ..).mpr ⟨fun _ => or_congr within begins, ?_⟩
      have remembered := Sections.in_procedure_add sections line.text
      suffices state : openBehind blocks.procedures.length line.text ≤ 1 ∧
          ((sections.add line.text false).inProcedure = true ↔
            0 < openBehind blocks.procedures.length line.text) by
        rw [← depth] at state
        exact induction next (plain_step plain) state.1 state.2
      rw [remembered, openBehind]
      cases opens : opensProcedure line.text with
      | true =>
          have alone : blocks.procedures = [] := plain.flat [] line rest rfl opens
          have begun := begins.mpr opens
          simp_all
      | false =>
          cases closes : closesProcedure line.text with
          | true =>
              have ends := ends_of_closes closes (plain.unlabelled line member (.inr closes))
              have opened := OpenBlocks.open_of_closes completes closes
              simp [within.mpr opened, ends, single]
          | false =>
              have stays := not_ends_of_not_closes closes
              cases memory : sections.inProcedure <;> simp_all

/-! Whole programs. -/

theorem completes_of_valid {lines : List SourceLine} (valid : blockFindings lines = []) :
    ({} : OpenBlocks).Completes lines :=
  ⟨rfl, (block_findings_nil_iff lines).mp valid⟩

theorem tracks_at_start : Tracks 0 none false := by simp [Tracks]

/-- On every line of code flow control and the checks agree about whether it is in a procedure. -/
def ProceduresAgree (source : Text) : Prop :=
  ∀ above line below, SourceLine.ofText source = above ++ line :: below → line.isCode = true →
    (Sections.KeptWithProcedures (above.map (·.text)) line.text ↔ InsideProcedure above line)

theorem agree_through_source {source : Text}
    (unmarked : ∀ line ∈ splitLines source, markerKind? line = none) :
    AgreeThrough {} {} (SourceLine.ofText source) ↔ ProceduresAgree source := by
  refine forall_congr' fun above => forall_congr' fun line => forall_congr' fun below =>
    forall_congr' fun split => forall_congr' fun _ => ?_
  have texts : splitLines source = above.map (·.text) ++ line.text :: below.map (·.text) := by
    rw [← SourceLine.number_from_text 1 (splitLines source)]
    exact (congrArg (List.map (·.text)) split).trans List.map_append
  have part : ∀ other ∈ above.map (·.text) ++ [line.text], markerKind? other = none := by
    intro other member
    refine unmarked other ?_
    rw [texts, ← List.singleton_append, ← List.append_assoc]
    exact List.mem_append_left _ member
  rw [Sections.kept_iff part, InsideProcedure, List.length_pos_iff]

/-- Where procedures are written plainly, flow control and the checks agree. -/
theorem plain_procedures_agree {source : Text}
    (unmarked : ∀ line ∈ splitLines source, markerKind? line = none)
    (valid : blockFindings (SourceLine.ofText source) = [])
    (plain : PlainProcedures {} (SourceLine.ofText source)) : ProceduresAgree source :=
  (agree_through_source unmarked).mp
    (plain_agree _ (completes_of_valid valid) plain (Nat.zero_le 1) (by simp))

/-- The lines of code of a program. -/
def codeLines (source : Text) : List Text :=
  ((SourceLine.ofText source).filter (·.isCode)).map (·.text)

/-- Flow control puts exactly the lines of code with the procedures that are in a procedure for the
checks, when and only when every line of code keeps the two together. -/
theorem procedures_agree_iff (source : Text)
    (unmarked : ∀ line ∈ splitLines source, markerKind? line = none)
    (valid : blockFindings (SourceLine.ofText source) = []) :
    ProceduresAgree source ↔ keepTogether 0 none (codeLines source) = true := by
  rw [← agree_through_source unmarked]
  exact agree_through_iff _ (completes_of_valid valid) tracks_at_start

/-- A procedure whose end has a line number, with another one behind it. -/
def numberedEnd : Text := "SUB A\n10 END SUB\nSUB B\nEND SUB\nPRINT x".toList

/-- The line behind the missed end opens a procedure, and so nothing is lost. -/
theorem numbered_end_agrees :
    (∀ line ∈ splitLines numberedEnd, markerKind? line = none) ∧
    blockFindings (SourceLine.ofText numberedEnd) = [] ∧ ProceduresAgree numberedEnd := by
  have unmarked : ∀ line ∈ splitLines numberedEnd, markerKind? line = none := by decide +kernel
  have valid : blockFindings (SourceLine.ofText numberedEnd) = [] :=
    (block_findings_nil_iff _).mpr (by decide +kernel)
  exact ⟨unmarked, valid, (procedures_agree_iff numberedEnd unmarked valid).mpr (by decide +kernel)⟩

/-- The same with a statement of the main program behind the missed end. -/
def swallowedMain : Text := "SUB A\nx = 1\n10 END SUB\nPRINT x".toList

/-- No procedure is open at the last line, and flow control keeps it with the procedures. -/
theorem main_swallowed_behind_numbered_end :
    (∀ line ∈ splitLines swallowedMain,
      markerKind? line = none ∧ wrapperHead.startsText line = false) ∧
    blockFindings (SourceLine.ofText swallowedMain) = [] ∧ ¬ProceduresAgree swallowedMain := by
  refine ⟨by decide +kernel, (block_findings_nil_iff _).mpr (by decide +kernel), fun agree => ?_⟩
  let lines := SourceLine.ofText swallowedMain
  have last := agree (lines.take 3) ⟨4, "PRINT x".toList⟩ [] (by rfl) (by decide +kernel)
  have kept : Sections.KeptWithProcedures ((lines.take 3).map (·.text)) "PRINT x".toList := by
    unfold Sections.KeptWithProcedures
    decide +kernel
  have outside : ¬InsideProcedure (lines.take 3) ⟨4, "PRINT x".toList⟩ := by
    unfold InsideProcedure
    decide +kernel
  exact outside (last.mp kept)

end BasicBench.Check
