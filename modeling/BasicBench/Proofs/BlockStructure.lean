import BasicBench.Check.Blocks
import BasicBench.Proofs.Brackets

/-!
A program has no finding on its block structure exactly when its loops and its procedures are
words of matching brackets, each family on its own. The two stacks never look at each other, so
how loops and procedures lie between one another makes no difference.
-/

set_option autoImplicit false

namespace BasicBench.Check

open Text

/-- What a line does to the open blocks. Blank lines and comments do nothing. -/
def blockEvent? (line : SourceLine) : Option BlockEvent :=
  if line.isCode then BlockEvent.ofStatement? line.statement else none

/-- An event without the name of what it opens. -/
def BlockEvent.bracket : BlockEvent → Bracket BlockKind
  | .opens kind _ => .opens kind
  | .closes kind => .closes kind

/-- The brackets of one family, in the order of their lines. -/
def blockBrackets (family : BlockKind → Bool) (lines : List SourceLine) :
    List (Bracket BlockKind) :=
  ((lines.filterMap blockEvent?).map (·.bracket)).filter fun bracket => family bracket.kind

def loopBrackets (lines : List SourceLine) : List (Bracket BlockKind) :=
  blockBrackets (·.isLoop) lines

def procedureBrackets (lines : List SourceLine) : List (Bracket BlockKind) :=
  blockBrackets (fun kind => !kind.isLoop) lines

theorem block_brackets_quiet (family : BlockKind → Bool) (line : SourceLine)
    (rest : List SourceLine) (quiet : blockEvent? line = none) :
    blockBrackets family (line :: rest) = blockBrackets family rest := by
  rw [blockBrackets, List.filterMap_cons_none quiet, blockBrackets]

theorem block_brackets_event (family : BlockKind → Bool) (line : SourceLine)
    (rest : List SourceLine) (event : BlockEvent) (read : blockEvent? line = some event) :
    blockBrackets family (line :: rest) =
      if family event.bracket.kind then event.bracket :: blockBrackets family rest
      else blockBrackets family rest := by
  rw [blockBrackets, List.filterMap_cons_some read, List.map_cons, List.filter_cons, blockBrackets]

theorem step_quiet (blocks : OpenBlocks) (line : SourceLine) (quiet : blockEvent? line = none) :
    blocks.step line = blocks := by
  unfold blockEvent? at quiet
  unfold OpenBlocks.step
  split
  · next code => rw [if_pos code] at quiet; rw [quiet]
  · rfl

theorem step_event (blocks : OpenBlocks) (line : SourceLine) (event : BlockEvent)
    (read : blockEvent? line = some event) : blocks.step line = blocks.apply line.number event := by
  unfold blockEvent? at read
  unfold OpenBlocks.step
  split
  · next code => rw [if_pos code] at read; rw [read]
  · next noCode => rw [if_neg noCode] at read; cases read

/-- The kinds of the open blocks of a family, the innermost first. -/
def BlockStack.kinds (stack : BlockStack) : List BlockKind := stack.map (·.kind)

theorem close_none_iff (kind : BlockKind) (stack : BlockStack) :
    stack.close? kind = none ↔ ¬∃ outer, stack.kinds = kind :: outer := by
  cases stack with
  | nil => simp [BlockStack.close?, BlockStack.kinds]
  | cons frame others =>
      by_cases same : frame.kind = kind <;> simp [BlockStack.close?, BlockStack.kinds, same]

theorem kinds_of_close (kind : BlockKind) (stack outer : BlockStack)
    (closed : stack.close? kind = some outer) : stack.kinds = kind :: outer.kinds := by
  cases stack with
  | nil => cases closed
  | cons frame others =>
      by_cases same : frame.kind = kind
      · rw [BlockStack.close?, if_pos same, Option.some.injEq] at closed
        rw [BlockStack.kinds, List.map_cons, same, closed, BlockStack.kinds]
      · rw [BlockStack.close?, if_neg same] at closed
        cases closed

namespace OpenBlocks

/-- The rest of a program closes what is open, and no closer has gone astray before. -/
def Completes (blocks : OpenBlocks) (rest : List SourceLine) : Prop :=
  blocks.stray = [] ∧ Closing blocks.loops.kinds (loopBrackets rest) ∧
    Closing blocks.procedures.kinds (procedureBrackets rest)

/-- What one bracket of a family does is seen by its own stack and by no other. -/
theorem completes_event (blocks : OpenBlocks) (line : SourceLine) (rest : List SourceLine)
    (event : BlockEvent) (read : blockEvent? line = some event) :
    blocks.Completes (line :: rest) ↔ blocks.stray = [] ∧
      if event.bracket.kind.isLoop then
        Closing blocks.loops.kinds (event.bracket :: loopBrackets rest) ∧
          Closing blocks.procedures.kinds (procedureBrackets rest)
      else
        Closing blocks.loops.kinds (loopBrackets rest) ∧
          Closing blocks.procedures.kinds (event.bracket :: procedureBrackets rest) := by
  rw [Completes, loopBrackets, procedureBrackets, block_brackets_event _ line rest event read,
    block_brackets_event _ line rest event read]
  by_cases loop : event.bracket.kind.isLoop = true <;> simp [loop, loopBrackets, procedureBrackets]

theorem completes_opens (blocks : OpenBlocks) (line : SourceLine) (rest : List SourceLine)
    (kind : BlockKind) (name : Option Text) (read : blockEvent? line = some (.opens kind name)) :
    (blocks.apply line.number (.opens kind name)).Completes rest ↔
      blocks.Completes (line :: rest) := by
  rw [completes_event blocks line rest _ read]
  simp only [BlockEvent.bracket, Bracket.kind, closing_opens]
  by_cases loop : kind.isLoop = true <;>
    simp [Completes, apply, setStack, stack, loop, BlockStack.kinds]

theorem completes_closes (blocks : OpenBlocks) (line : SourceLine) (rest : List SourceLine)
    (kind : BlockKind) (read : blockEvent? line = some (.closes kind)) :
    (blocks.apply line.number (.closes kind)).Completes rest ↔
      blocks.Completes (line :: rest) := by
  rw [completes_event blocks line rest _ read]
  simp only [BlockEvent.bracket, Bracket.kind, closing_closes]
  cases closed : (blocks.stack kind).close? kind with
  | none =>
      have nothing := (close_none_iff kind _).mp closed
      have lost : ¬(blocks.apply line.number (.closes kind)).Completes rest := by
        simp [Completes, apply, closed]
      refine iff_of_false lost ?_
      by_cases loop : kind.isLoop = true
      · rw [stack, if_pos loop] at nothing
        rw [if_pos loop]
        rintro ⟨-, ⟨outer, top, -⟩, -⟩
        exact nothing ⟨outer, top⟩
      · rw [stack, if_neg loop] at nothing
        rw [if_neg loop]
        rintro ⟨-, -, outer, top, -⟩
        exact nothing ⟨outer, top⟩
  | some outer =>
      have top := kinds_of_close kind _ outer closed
      by_cases loop : kind.isLoop = true
      · rw [stack, if_pos loop] at top
        simp [Completes, apply, closed, setStack, loop, top]
      · rw [stack, if_neg loop] at top
        simp [Completes, apply, closed, setStack, loop, top]

theorem completes_step (blocks : OpenBlocks) (line : SourceLine) (rest : List SourceLine) :
    (blocks.step line).Completes rest ↔ blocks.Completes (line :: rest) := by
  cases read : blockEvent? line with
  | none =>
      rw [step_quiet blocks line read, Completes, Completes, loopBrackets, procedureBrackets,
        loopBrackets, procedureBrackets, block_brackets_quiet _ line rest read,
        block_brackets_quiet _ line rest read]
  | some event =>
      rw [step_event blocks line event read]
      cases event with
      | opens kind name => exact completes_opens blocks line rest kind name read
      | closes kind => exact completes_closes blocks line rest kind read

theorem completes_run (blocks : OpenBlocks) (lines : List SourceLine) :
    (lines.foldl step blocks).Completes [] ↔ blocks.Completes lines := by
  induction lines generalizing blocks with
  | nil => rfl
  | cons line rest induction => rw [List.foldl_cons, induction, completes_step]

theorem report_nil_iff (blocks : OpenBlocks) : blocks.report = [] ↔ blocks.Completes [] := by
  simp [report, Completes, loopBrackets, procedureBrackets, blockBrackets, closing_empty,
    BlockStack.kinds]

end OpenBlocks

theorem block_findings_nil_iff (lines : List SourceLine) :
    blockFindings lines = [] ↔
      Balanced (loopBrackets lines) ∧ Balanced (procedureBrackets lines) := by
  have sorted : blockFindings lines = [] ↔ (lines.foldl OpenBlocks.step {}).report = [] := by
    rw [← List.length_eq_zero_iff, blockFindings, List.length_mergeSort, List.length_eq_zero_iff]
  rw [sorted, OpenBlocks.report_nil_iff, OpenBlocks.completes_run]
  exact and_iff_right rfl

/-- Acceptance is membership in two bracket languages, so two programs with the same loops and the
same procedures are accepted alike, however loops and procedures lie between one another. -/
theorem no_block_findings_iff (source : Text) :
    (blockFindings (SourceLine.ofText source) = [] ↔
      Balanced (loopBrackets (SourceLine.ofText source)) ∧
        Balanced (procedureBrackets (SourceLine.ofText source))) ∧
    ∀ other : Text,
      loopBrackets (SourceLine.ofText other) = loopBrackets (SourceLine.ofText source) →
      procedureBrackets (SourceLine.ofText other) = procedureBrackets (SourceLine.ofText source) →
      (blockFindings (SourceLine.ofText other) = [] ↔
        blockFindings (SourceLine.ofText source) = []) := by
  refine ⟨block_findings_nil_iff _, fun other loops procedures => ?_⟩
  rw [block_findings_nil_iff, block_findings_nil_iff, loops, procedures]

/-- A loop that begins above a procedure and ends in it. -/
def overlappingProgram : Text := "10 FOR i = 1 TO 3\nSUB A\nNEXT i\nEND SUB".toList

/-- The same loop and the same procedure one after the other. -/
def separateProgram : Text := "10 FOR i = 1 TO 3\nNEXT i\nSUB A\nEND SUB".toList

/-- Where the loop ends makes no difference to the procedure. -/
theorem overlapping_program_accepted :
    loopBrackets (SourceLine.ofText overlappingProgram) =
      loopBrackets (SourceLine.ofText separateProgram) ∧
    procedureBrackets (SourceLine.ofText overlappingProgram) =
      procedureBrackets (SourceLine.ofText separateProgram) ∧
    blockFindings (SourceLine.ofText overlappingProgram) = [] := by
  have loops : loopBrackets (SourceLine.ofText overlappingProgram) =
      loopBrackets (SourceLine.ofText separateProgram) := by decide +kernel
  have procedures : procedureBrackets (SourceLine.ofText overlappingProgram) =
      procedureBrackets (SourceLine.ofText separateProgram) := by decide +kernel
  obtain ⟨accepted, alike⟩ := no_block_findings_iff separateProgram
  refine ⟨loops, procedures, (alike _ loops procedures).mpr (accepted.mpr ⟨?_, ?_⟩)⟩
  · exact .pair BlockKind.forLoop .empty .empty
  · exact .pair BlockKind.procedure .empty .empty

end BasicBench.Check
