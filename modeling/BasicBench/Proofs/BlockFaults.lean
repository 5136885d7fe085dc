import BasicBench.Proofs.Soundness
import Mathlib.Data.List.Forall2

/-!
The findings on the block structure of two programs with the same brackets. Only the brackets and
their order decide which of them are at fault: line numbers and names are carried along. Brackets
that match among themselves leave what is open as it was, wherever they are put in, so they add
and remove no fault.
-/

set_option autoImplicit false

namespace BasicBench.Check

open Text

/-- Two findings on the block structure that differ in the line and the name at most. -/
def SameFault (one other : Finding) : Prop :=
  (∃ kind here there, one = strayCloser kind here ∧ other = strayCloser kind there) ∨
    ∃ here there : Frame, here.kind = there.kind ∧ one = unclosedBlock here ∧
      other = unclosedBlock there

theorem SameFault.category_eq {one other : Finding} (same : SameFault one other) :
    one.category = other.category := by
  rcases same with ⟨kind, here, there, rfl, rfl⟩ | ⟨here, there, kinds, rfl, rfl⟩
  · rfl
  · simp only [unclosedBlock, kinds]

/-! Programs as events. -/

/-- The events of a program with the numbers of their lines. -/
def numberedEvents (lines : List SourceLine) : List (Nat × BlockEvent) :=
  lines.filterMap fun line => (blockEvent? line).map (line.number, ·)

def wordOf (events : List (Nat × BlockEvent)) : List (Bracket BlockKind) :=
  events.map (·.2.bracket)

namespace OpenBlocks

/-- What is open behind some events. -/
def follow (blocks : OpenBlocks) (events : List (Nat × BlockEvent)) : OpenBlocks :=
  events.foldl (fun blocks event => blocks.apply event.1 event.2) blocks

theorem follow_append (blocks : OpenBlocks) (first second : List (Nat × BlockEvent)) :
    blocks.follow (first ++ second) = (blocks.follow first).follow second :=
  List.foldl_append

theorem run_eq_follow (blocks : OpenBlocks) (lines : List SourceLine) :
    lines.foldl step blocks = blocks.follow (numberedEvents lines) := by
  induction lines generalizing blocks with
  | nil => rfl
  | cons line rest induction =>
      rw [List.foldl_cons, induction, numberedEvents, numberedEvents, List.filterMap_cons]
      cases read : blockEvent? line with
      | none => rw [step_quiet blocks line read]; rfl
      | some event => rw [step_event blocks line event read]; rfl

/-- Events that close what is open on the stacks leave what lies below. -/
theorem follow_closing (events : List (Nat × BlockEvent)) :
    ∀ loops procedures : BlockStack,
      Closing loops.kinds ((wordOf events).filter (·.kind.isLoop)) →
      Closing procedures.kinds ((wordOf events).filter fun bracket => !bracket.kind.isLoop) →
      ∀ blocks : OpenBlocks, OpenBlocks.follow
        ⟨loops ++ blocks.loops, procedures ++ blocks.procedures, blocks.stray⟩ events = blocks := by
  induction events with
  | nil =>
      intro loops procedures loopsClose proceduresClose blocks
      have noLoops := (closing_empty _).mp loopsClose
      have noProcedures := (closing_empty _).mp proceduresClose
      rw [BlockStack.kinds, List.map_eq_nil_iff] at noLoops noProcedures
      rw [noLoops, noProcedures]
      rfl
  | cons first events induction =>
      intro loops procedures loopsClose proceduresClose blocks
      rcases first with ⟨line, event⟩
      cases event with
      | opens kind name =>
          cases loop : kind.isLoop with
          | true =>
              simp only [wordOf, List.map_cons, BlockEvent.bracket, List.filter_cons, Bracket.kind,
                loop, if_true, Bool.not_true, Bool.false_eq_true, if_false,
                closing_opens] at loopsClose proceduresClose
              have next := induction (⟨kind, name, line⟩ :: loops) procedures loopsClose
                proceduresClose blocks
              simpa [follow, apply, setStack, stack, loop] using next
          | false =>
              simp only [wordOf, List.map_cons, BlockEvent.bracket, List.filter_cons, Bracket.kind,
                loop, if_true, Bool.not_false, Bool.false_eq_true, if_false,
                closing_opens] at loopsClose proceduresClose
              have next := induction loops (⟨kind, name, line⟩ :: procedures) loopsClose
                proceduresClose blocks
              simpa [follow, apply, setStack, stack, loop] using next
      | closes kind =>
          cases loop : kind.isLoop with
          | true =>
              simp only [wordOf, List.map_cons, BlockEvent.bracket, List.filter_cons, Bracket.kind,
                loop, if_true, Bool.not_true, Bool.false_eq_true, if_false,
                closing_closes] at loopsClose proceduresClose
              rcases loopsClose with ⟨outer, open', closing⟩
              cases loops with
              | nil => cases open'
              | cons frame loops =>
                  have same := List.cons.inj open'
                  rw [← same.2] at closing
                  have next := induction loops procedures closing proceduresClose blocks
                  simpa [follow, apply, setStack, stack, loop, BlockStack.close?, same.1] using next
          | false =>
              simp only [wordOf, List.map_cons, BlockEvent.bracket, List.filter_cons, Bracket.kind,
                loop, if_true, Bool.not_false, Bool.false_eq_true, if_false,
                closing_closes] at loopsClose proceduresClose
              rcases proceduresClose with ⟨outer, open', closing⟩
              cases procedures with
              | nil => cases open'
              | cons frame procedures =>
                  have same := List.cons.inj open'
                  rw [← same.2] at closing
                  have next := induction loops procedures loopsClose closing blocks
                  simpa [follow, apply, setStack, stack, loop, BlockStack.close?, same.1] using next

/-- Events that match among themselves change nothing. -/
theorem follow_matched (blocks : OpenBlocks) {events : List (Nat × BlockEvent)}
    (matched : Matched (wordOf events)) : blocks.follow events = blocks :=
  follow_closing events [] [] matched.1 matched.2 blocks

end OpenBlocks

/-! Two programs side by side. -/

section SideBySide

variable {places : Nat → Nat → Prop}

def SameEvent (places : Nat → Nat → Prop) (one other : Nat × BlockEvent) : Prop :=
  places one.1 other.1 ∧ one.2.bracket = other.2.bracket

def SameFrame (places : Nat → Nat → Prop) (one other : Frame) : Prop :=
  places one.line other.line ∧ one.kind = other.kind

/-- Findings with the same fault in corresponding places. -/
def SameFinding (places : Nat → Nat → Prop) (one other : Finding) : Prop :=
  places one.line other.line ∧ SameFault one other

structure SameBlocks (places : Nat → Nat → Prop) (one other : OpenBlocks) : Prop where
  loops : List.Forall₂ (SameFrame places) one.loops other.loops
  procedures : List.Forall₂ (SameFrame places) one.procedures other.procedures
  stray : List.Forall₂ (SameFinding places) one.stray other.stray

theorem same_stack {one other : OpenBlocks} (same : SameBlocks places one other)
    (kind : BlockKind) : List.Forall₂ (SameFrame places) (one.stack kind) (other.stack kind) := by
  rw [OpenBlocks.stack, OpenBlocks.stack]
  split
  · exact same.loops
  · exact same.procedures

theorem same_set_stack {one other : OpenBlocks} (same : SameBlocks places one other)
    (kind : BlockKind) {left right : BlockStack}
    (alike : List.Forall₂ (SameFrame places) left right) :
    SameBlocks places (one.setStack kind left) (other.setStack kind right) := by
  rw [OpenBlocks.setStack, OpenBlocks.setStack]
  split
  · exact ⟨alike, same.procedures, same.stray⟩
  · exact ⟨same.loops, alike, same.stray⟩

theorem same_close {left right : BlockStack} (alike : List.Forall₂ (SameFrame places) left right)
    (kind : BlockKind) :
    (left.close? kind = none ∧ right.close? kind = none) ∨
      ∃ one other, left.close? kind = some one ∧ right.close? kind = some other ∧
        List.Forall₂ (SameFrame places) one other := by
  cases alike with
  | nil => exact .inl ⟨rfl, rfl⟩
  | cons top below =>
      rw [BlockStack.close?, BlockStack.close?, ← top.2]
      split
      · exact .inr ⟨_, _, rfl, rfl, below⟩
      · exact .inl ⟨rfl, rfl⟩

theorem same_apply {one other : OpenBlocks} (same : SameBlocks places one other)
    {left right : Nat × BlockEvent} (event : SameEvent places left right) :
    SameBlocks places (one.apply left.1 left.2) (other.apply right.1 right.2) := by
  rcases left with ⟨here, left⟩
  rcases right with ⟨there, right⟩
  rcases event with ⟨place, bracket⟩
  cases left with
  | opens kind name =>
      cases right with
      | closes => cases bracket
      | opens kind' name' =>
          cases bracket
          exact same_set_stack same kind (.cons ⟨place, rfl⟩ (same_stack same kind))
  | closes kind =>
      cases right with
      | opens => cases bracket
      | closes kind' =>
          cases bracket
          simp only [OpenBlocks.apply]
          rcases same_close (same_stack same kind) kind with ⟨none, none'⟩ |
            ⟨outer, outer', some, some', alike⟩
          · rw [none, none']
            have fault : SameFinding places (strayCloser kind here) (strayCloser kind there) :=
              ⟨place, .inl ⟨kind, here, there, rfl, rfl⟩⟩
            exact ⟨same.loops, same.procedures, .cons fault same.stray⟩
          · rw [some, some']
            exact same_set_stack same kind alike

theorem same_follow {left right : List (Nat × BlockEvent)}
    (events : List.Forall₂ (SameEvent places) left right) {one other : OpenBlocks}
    (same : SameBlocks places one other) :
    SameBlocks places (one.follow left) (other.follow right) := by
  induction events generalizing one other with
  | nil => exact same
  | cons first _ induction => exact induction (same_apply same first)

theorem same_report {one other : OpenBlocks} (same : SameBlocks places one other) :
    List.Forall₂ (SameFinding places) one.report other.report := by
  have unclosed : ∀ {left right : BlockStack}, List.Forall₂ (SameFrame places) left right →
      List.Forall₂ (SameFinding places) (left.reverse.map unclosedBlock)
        (right.reverse.map unclosedBlock) := by
    intro left right alike
    rw [List.forall₂_map_left_iff, List.forall₂_map_right_iff]
    refine (List.forall₂_reverse_iff.mpr alike).imp fun here there frames => ?_
    exact ⟨frames.1, .inr ⟨here, there, frames.2, rfl, rfl⟩⟩
  exact List.rel_append (List.rel_append (List.forall₂_reverse_iff.mpr same.stray)
    (unclosed same.loops)) (unclosed same.procedures)

/-- Sorting keeps a correspondence under which the order is the same on both sides. -/
theorem forall_merge_sort {Left Right : Type} {related : Left → Right → Prop}
    {before : Left → Left → Bool} {before' : Right → Right → Bool}
    (ordered : ∀ a a' b b', related a a' → related b b' → before a b = before' a' b')
    {left : List Left} {right : List Right} (pairs : List.Forall₂ related left right) :
    List.Forall₂ related (left.mergeSort before) (right.mergeSort before') := by
  rcases List.forall₂_iff_zip.mp pairs with ⟨length, zipped⟩
  have all : ∀ pair ∈ left.zip right, related pair.1 pair.2 := fun pair member => zipped member
  have lefts : (left.zip right).map (·.1) = left := List.map_fst_zip (by omega)
  have rights : (left.zip right).map (·.2) = right := List.map_snd_zip (by omega)
  have sortedLeft : ((left.zip right).mergeSort fun a b => before a.1 b.1).map (·.1) =
      left.mergeSort before := by
    rw [List.map_mergeSort (s := before) (fun _ _ _ _ => rfl), lefts]
  have sortedRight : ((left.zip right).mergeSort fun a b => before a.1 b.1).map (·.2) =
      right.mergeSort before' := by
    rw [List.map_mergeSort (s := before'), rights]
    intro a here b there
    exact ordered a.1 a.2 b.1 b.2 (all a here) (all b there)
  rw [← sortedLeft, ← sortedRight, List.forall₂_map_left_iff, List.forall₂_map_right_iff,
    List.forall₂_same]
  intro pair member
  exact all pair ((List.mergeSort_perm _ _).mem_iff.mp member)

end SideBySide

/-! The same brackets. -/

/-- Events on lines in the order of the lines, each line with one at most. -/
def Ascending (events : List (Nat × BlockEvent)) : Prop := (events.map (·.1)).Pairwise (· < ·)

/-- The findings on events, in the order of their lines. -/
def eventFindings (events : List (Nat × BlockEvent)) : List Finding :=
  (OpenBlocks.follow {} events).report.mergeSort fun a b => a.line ≤ b.line

theorem block_findings_eq (lines : List SourceLine) :
    blockFindings lines = eventFindings (numberedEvents lines) := by
  rw [blockFindings, OpenBlocks.run_eq_follow, eventFindings]

/-- Two ascending sequences have the same order. -/
theorem zip_ordered {left right : List Nat} (ascends : left.Pairwise (· < ·))
    (ascends' : right.Pairwise (· < ·)) {a a' b b' : Nat} (here : (a, a') ∈ left.zip right)
    (there : (b, b') ∈ left.zip right) : a ≤ b ↔ a' ≤ b' := by
  rcases List.mem_iff_getElem.mp here with ⟨i, bound, first⟩
  rcases List.mem_iff_getElem.mp there with ⟨j, bound', second⟩
  rw [List.length_zip] at bound bound'
  rw [List.getElem_zip, Prod.mk.injEq] at first second
  rw [List.pairwise_iff_getElem] at ascends ascends'
  rw [← first.1, ← first.2, ← second.1, ← second.2]
  rcases Nat.lt_trichotomy i j with less | rfl | more
  · have lower := ascends i j (by omega) (by omega) less
    have lower' := ascends' i j (by omega) (by omega) less
    omega
  · omega
  · have higher := ascends j i (by omega) (by omega) more
    have higher' := ascends' j i (by omega) (by omega) more
    omega

theorem same_faults_of_word {left right : List (Nat × BlockEvent)} (ascends : Ascending left)
    (ascends' : Ascending right) (word : wordOf left = wordOf right) :
    List.Forall₂ SameFault (eventFindings left) (eventFindings right) := by
  let places (here there : Nat) : Prop := (here, there) ∈ (left.map (·.1)).zip (right.map (·.1))
  have words : List.Forall₂ (fun one other : Nat × BlockEvent => one.2.bracket = other.2.bracket)
      left right := by
    rw [wordOf, wordOf, ← List.forall₂_eq_eq_eq, List.forall₂_map_left_iff,
      List.forall₂_map_right_iff] at word
    exact word
  have events : List.Forall₂ (SameEvent places) left right := by
    rcases List.forall₂_iff_zip.mp words with ⟨length, brackets⟩
    refine List.forall₂_iff_zip.mpr ⟨length, fun {one other} member => ⟨?_, brackets member⟩⟩
    change (one.1, other.1) ∈ (left.map (·.1)).zip (right.map (·.1))
    rw [List.zip_map]
    exact List.mem_map_of_mem (f := Prod.map Prod.fst Prod.fst) member
  have open' : SameBlocks places {} {} := ⟨.nil, .nil, .nil⟩
  have report := same_report (same_follow events open')
  refine (forall_merge_sort (fun a a' b b' first second => ?_) report).imp fun _ _ same => same.2
  have ordered := zip_ordered ascends ascends' first.1 second.1
  simpa using ordered

/-- A word into which words that match among themselves have been put. -/
inductive Grows (word : List (Bracket BlockKind)) : List (Bracket BlockKind) → Prop
  | same : Grows word word
  | insert (above inserted below : List (Bracket BlockKind)) (matched : Matched inserted)
      (grows : Grows word (above ++ below)) : Grows word (above ++ (inserted ++ below))

theorem same_faults_of_events {left right : List (Nat × BlockEvent)} (ascends : Ascending left)
    (ascends' : Ascending right) (grows : Grows (wordOf left) (wordOf right)) :
    List.Forall₂ SameFault (eventFindings left) (eventFindings right) := by
  generalize spelled : wordOf right = word at grows
  induction grows generalizing right with
  | same => exact same_faults_of_word ascends ascends' spelled.symm
  | insert above inserted below matched _ induction =>
      rcases List.map_eq_append_iff.mp spelled with ⟨first, rest, rfl, firstWord, restWord⟩
      rcases List.map_eq_append_iff.mp restWord with ⟨middle, last, rfl, middleWord, lastWord⟩
      -- The events that were put in leave what is open as it was.
      have without : eventFindings (first ++ (middle ++ last)) = eventFindings (first ++ last) := by
        have middleMatched : Matched (wordOf middle) := by
          rw [wordOf, middleWord]
          exact matched
        have unchanged := OpenBlocks.follow_matched (OpenBlocks.follow {} first) middleMatched
        rw [eventFindings, eventFindings, OpenBlocks.follow_append, OpenBlocks.follow_append,
          OpenBlocks.follow_append, unchanged]
      rw [without]
      apply induction
      · have fewer : (first ++ last).Sublist (first ++ (middle ++ last)) :=
          (List.Sublist.refl first).append (List.sublist_append_right middle last)
        exact ascends'.sublist (fewer.map _)
      · rw [wordOf, List.map_append, firstWord, lastWord]

/-! Numbered lines. -/

theorem word_of_numbered (number : Nat) (lines : List Text) :
    wordOf (numberedEvents (SourceLine.numberFrom number lines)) = brackets lines := by
  have texts := SourceLine.number_from_text number lines
  conv => rhs; rw [← texts]
  rw [wordOf, numberedEvents, List.map_filterMap, brackets, List.filterMap_map]
  apply List.filterMap_congr
  intro line _
  change ((blockEvent? line).map (line.number, ·)).map (·.2.bracket) =
    (blockEvent? line).map (·.bracket)
  rw [Option.map_map]
  rfl

theorem ascending_numbered (number : Nat) (lines : List Text) :
    Ascending (numberedEvents (SourceLine.numberFrom number lines)) := by
  have later : ∀ (lines : List Text) (number : Nat),
      ∀ event ∈ numberedEvents (SourceLine.numberFrom number lines), number ≤ event.1 := by
    intro lines
    induction lines with
    | nil => exact fun _ _ member => absurd member List.not_mem_nil
    | cons line rest induction =>
        intro number event member
        rcases List.mem_filterMap.mp member with ⟨source, listed, read⟩
        rcases List.mem_cons.mp listed with rfl | below
        · rcases Option.map_eq_some_iff.mp read with ⟨_, -, rfl⟩
          exact Nat.le_refl number
        · have behind := induction (number + 1) event (List.mem_filterMap.mpr ⟨source, below, read⟩)
          omega
  induction lines generalizing number with
  | nil => exact List.Pairwise.nil
  | cons line rest induction =>
      have rested := induction (number + 1)
      rw [SourceLine.numberFrom, numberedEvents, List.filterMap_cons]
      cases read : blockEvent? ⟨number, line⟩ with
      | none => exact rested
      | some event =>
          rw [Ascending]
          simp only [Option.map_some, List.map_cons, List.pairwise_cons]
          refine ⟨?_, rested⟩
          intro place member
          rcases List.mem_map.mp member with ⟨other, listed, rfl⟩
          exact later rest (number + 1) other listed

/-- Programs whose brackets differ by words that match among themselves have the same faults, in
the same order. -/
theorem same_faults_of_grows {source other : Text}
    (grows : Grows (brackets (splitLines source)) (brackets (splitLines other))) :
    List.Forall₂ SameFault (blockFindings (SourceLine.ofText source))
      (blockFindings (SourceLine.ofText other)) := by
  rw [block_findings_eq, block_findings_eq]
  apply same_faults_of_events
  · exact ascending_numbered 1 _
  · exact ascending_numbered 1 _
  · rw [SourceLine.ofText, SourceLine.ofText, word_of_numbered, word_of_numbered]
    exact grows

end BasicBench.Check
