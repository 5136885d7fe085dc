import BasicBench.Proofs.BlockTallies
import Mathlib.Data.List.Nodup

/-!
What becomes of each line that opens or closes a block. Every such line has one partner or one
finding, never both and never neither: an open block is closed by one closer of its kind or reported
where it was opened, and a closer that closes nothing is reported where it stands. The partners of
one family lie side by side or inside one another, and the findings on one family are those of its
own lines.
-/

set_option autoImplicit false

namespace BasicBench.Check

open Text

/-! What is reported. -/

/-- The blocks that were closed. -/
def closedIn (events : List (Nat × BlockEvent)) : List ClosedBlock :=
  (tallyOf true events).closed ++ (tallyOf false events).closed

/-- The events that have no partner. -/
def faultyIn (events : List (Nat × BlockEvent)) : List (Nat × BlockEvent) :=
  (tallyOf true events).faulty ++ (tallyOf false events).faulty

/-- Sorting changes nothing about what is reported. -/
theorem findings_perm (events : List (Nat × BlockEvent)) :
    (eventFindings events).Perm ((faultyIn events).map fault) := by
  have start : OpenBlocks.Splits {} fun _ => {} := ⟨fun kind => by cases kind <;> rfl, .nil⟩
  obtain ⟨stack, stray⟩ := OpenBlocks.splits_follow events start
  have loops : (OpenBlocks.follow {} events).loops = (tallyOf true events).standing :=
    stack .forLoop
  have procedures : (OpenBlocks.follow {} events).procedures = (tallyOf false events).standing :=
    stack .procedure
  have unclosed (standing : BlockStack) : (standing.reverse.map unclosedBlock).Perm
      ((standing.map Frame.event).map fault) := by
    rw [List.map_map]
    exact (List.reverse_perm standing).map unclosedBlock
  have report : (OpenBlocks.follow {} events).report.Perm
      (((tallyOf true events).stray ++ (tallyOf false events).stray).map fault ++
        ((tallyOf true events).standing.map Frame.event).map fault ++
          ((tallyOf false events).standing.map Frame.event).map fault) := by
    rw [OpenBlocks.report, loops, procedures]
    exact (((List.reverse_perm _).trans stray).append (unclosed _)).append (unclosed _)
  refine ((List.mergeSort_perm _ _).trans report).trans ?_
  refine List.perm_iff_count.mpr fun finding => ?_
  simp only [faultyIn, Tally.faulty, List.map_append, List.count_append]
  omega

theorem mem_findings {events : List (Nat × BlockEvent)} {finding : Finding} :
    finding ∈ eventFindings events ↔ ∃ event ∈ faultyIn events, fault event = finding := by
  rw [(findings_perm events).mem_iff, List.mem_map]

theorem filter_eq_singleton {Item : Type} {items : List Item} {keep : Item → Bool} {item : Item}
    (member : item ∈ items) (kept : keep item = true)
    (others : items.Pairwise fun first second => ¬(keep first = true ∧ keep second = true)) :
    items.filter keep = [item] := by
  obtain ⟨before, after, rfl⟩ := List.append_of_mem member
  obtain ⟨-, behind, front⟩ := List.pairwise_append.mp others
  have first : before.filter keep = [] := List.filter_eq_nil_iff.mpr fun other here kept' =>
    front other here item List.mem_cons_self ⟨kept', kept⟩
  have last : after.filter keep = [] := List.filter_eq_nil_iff.mpr fun other here kept' =>
    (List.pairwise_cons.mp behind).1 other here ⟨kept, kept'⟩
  rw [List.filter_append, List.filter_cons_of_pos kept, first, last]
  rfl

section Ascending

variable {events : List (Nat × BlockEvent)} (ascends : Ascending events)

include ascends

theorem tally_accounts (loop : Bool) :
    (tallyOf loop events).Accounts (familyEvents loop events) := by
  have empty : Tally.Accounts [] {} :=
    ⟨.nil, .nil, fun _ member => absurd member List.not_mem_nil,
      fun _ member => absurd member List.not_mem_nil, fun _ member => absurd member List.not_mem_nil⟩
  exact Tally.accounts_follow _ empty (ascends.sublist (List.filter_sublist.map _))

/-- Each event is at fault or belongs to a closed block, and no event does both or occurs twice. -/
theorem events_perm :
    events.Perm (faultyIn events ++ (closedIn events).flatMap ClosedBlock.events) := by
  have loops := List.perm_iff_count.mp (tally_accounts ascends true).conserved
  have procedures := List.perm_iff_count.mp (tally_accounts ascends false).conserved
  have families : (familyEvents true events ++ familyEvents false events).Perm events := by
    have others : familyEvents false events =
        events.filter fun event => !(event.2.bracket.kind.isLoop == true) :=
      List.filter_congr fun event _ => by cases event.2.bracket.kind.isLoop <;> rfl
    rw [others]
    exact List.filter_append_perm _ events
  refine families.symm.trans (List.perm_iff_count.mpr fun event => ?_)
  have loop := loops event
  have procedure := procedures event
  simp only [faultyIn, closedIn, List.flatMap_append, List.count_append] at loop procedure ⊢
  omega

theorem family_of_faulty {loop : Bool} {event : Nat × BlockEvent}
    (member : event ∈ (tallyOf loop events).faulty) : event.2.bracket.kind.isLoop = loop := by
  have past := (tally_accounts ascends loop).conserved.mem_iff.mpr (List.mem_append_left _ member)
  exact beq_iff_eq.mp (List.mem_filter.mp past).2

theorem family_of_closed {loop : Bool} {block : ClosedBlock}
    (member : block ∈ (tallyOf loop events).closed) : block.frame.kind.isLoop = loop := by
  have past := (Tally.events_of_closed (tally_accounts ascends loop) member).1
  exact beq_iff_eq.mp (List.mem_filter.mp past).2

/-- A line has one event at most. -/
theorem event_unique {event other : Nat × BlockEvent} (member : event ∈ events)
    (member' : other ∈ events) (same : event.1 = other.1) : event = other := by
  have distinct : (events.map (·.1)).Nodup := ascends.imp Nat.ne_of_lt
  exact List.inj_on_of_nodup_map distinct member member' same

theorem findings_ascend : (eventFindings events).Pairwise fun first second =>
    first.line < second.line := by
  have lines : ((eventFindings events).map (·.line)).Perm ((faultyIn events).map (·.1)) := by
    refine ((findings_perm events).map _).trans ?_
    rw [List.map_map]
    exact .of_eq (List.map_congr_left fun event _ => fault_line event)
  have distinct : ((eventFindings events).map (·.line)).Nodup := by
    rw [lines.nodup_iff]
    have all : (events.map (·.1)).Nodup := ascends.imp Nat.ne_of_lt
    rw [((events_perm ascends).map _).nodup_iff, List.map_append] at all
    exact (List.nodup_append.mp all).1
  have trans (a b c : Finding) (first : decide (a.line ≤ b.line) = true)
      (second : decide (b.line ≤ c.line) = true) : decide (a.line ≤ c.line) = true := by
    rw [decide_eq_true_eq] at first second ⊢
    exact Nat.le_trans first second
  have total (a b : Finding) : (decide (a.line ≤ b.line) || decide (b.line ≤ a.line)) = true := by
    simpa using Nat.le_total a.line b.line
  have sorted : (eventFindings events).Pairwise fun first second => first.line ≤ second.line := by
    rw [eventFindings]
    simpa using List.pairwise_mergeSort trans total (OpenBlocks.follow {} events).report
  rw [List.Nodup, List.pairwise_map] at distinct
  exact sorted.imp₂ (fun _ _ order differs => Nat.lt_of_le_of_ne order differs) distinct

/-- An event belongs to one closed block and has no finding, or to none and has one. -/
theorem event_accounted {event : Nat × BlockEvent} (member : event ∈ events) :
    (∃ block, (closedIn events).filter (fun block => event ∈ block.events) = [block] ∧
      (eventFindings events).filter (·.line = event.1) = []) ∨
    ((closedIn events).filter (fun block => event ∈ block.events) = [] ∧
      (eventFindings events).filter (·.line = event.1) = [fault event]) := by
  have once : (faultyIn events ++ (closedIn events).flatMap ClosedBlock.events).Nodup :=
    (events_perm ascends).nodup_iff.mp (List.Nodup.of_map _ (ascends.imp Nat.ne_of_lt))
  obtain ⟨-, blocks, disjoint⟩ := List.nodup_append.mp once
  have here {other : Nat × BlockEvent} (faulty : other ∈ faultyIn events) : other ∈ events :=
    (events_perm ascends).mem_iff.mpr (List.mem_append_left _ faulty)
  rcases List.mem_append.mp ((events_perm ascends).mem_iff.mp member) with faulty | closed
  · refine .inr ⟨List.filter_eq_nil_iff.mpr fun block listed part => ?_, ?_⟩
    · have closed := List.mem_flatMap.mpr ⟨block, listed, of_decide_eq_true part⟩
      exact disjoint event faulty event closed rfl
    · refine filter_eq_singleton (mem_findings.mpr ⟨event, faulty, rfl⟩)
        (decide_eq_true (fault_line event)) ?_
      refine (findings_ascend ascends).imp fun order both => ?_
      have first := of_decide_eq_true both.1
      have second := of_decide_eq_true both.2
      omega
  · obtain ⟨block, listed, part⟩ := List.mem_flatMap.mp closed
    refine .inl ⟨block, ?_, List.filter_eq_nil_iff.mpr fun finding found there => ?_⟩
    · refine filter_eq_singleton listed (decide_eq_true part) ?_
      refine (List.nodup_flatMap.mp blocks).2.imp fun apart both => ?_
      exact apart (of_decide_eq_true both.1) (of_decide_eq_true both.2)
    · obtain ⟨other, faulty, rfl⟩ := mem_findings.mp found
      rw [decide_eq_true_eq, fault_line] at there
      obtain rfl := event_unique ascends (here faulty) member there
      exact disjoint other faulty other closed rfl

theorem uncrossed_in {block other : ClosedBlock} (member : block ∈ closedIn events)
    (member' : other ∈ closedIn events)
    (family : block.frame.kind.isLoop = other.frame.kind.isLoop) : ¬block.Crosses other := by
  have own {block : ClosedBlock} (member : block ∈ closedIn events) :
      block ∈ (tallyOf block.frame.kind.isLoop events).closed := by
    rcases List.mem_append.mp member with loop | procedure
    · rwa [family_of_closed ascends loop]
    · rwa [family_of_closed ascends procedure]
  exact (tally_accounts ascends _).uncrossed block (own member) other (family ▸ own member')

/-! The findings on one family. -/

/-- A finding on a loop, told by its category. -/
def onLoop (finding : Finding) : Bool :=
  ["unclosed-loop", "unmatched-next", "unmatched-wend", "unmatched-loop"].contains finding.category

omit ascends in
theorem on_loop_fault (event : Nat × BlockEvent) :
    onLoop (fault event) = event.2.bracket.kind.isLoop := by
  obtain ⟨line, event⟩ := event
  cases event with
  | opens kind name => cases kind <;> rfl
  | closes kind => cases kind <;> rfl

omit ascends in
theorem faulty_in_family (loop : Bool) :
    faultyIn (familyEvents loop events) = (tallyOf loop events).faulty := by
  have same : familyEvents loop (familyEvents loop events) = familyEvents loop events :=
    List.filter_eq_self.mpr fun event member => (List.mem_filter.mp member).2
  have none : familyEvents (!loop) (familyEvents loop events) = [] := by
    refine List.filter_eq_nil_iff.mpr fun event member other => ?_
    have own := beq_iff_eq.mp (List.mem_filter.mp member).2
    rw [own] at other
    cases loop <;> cases other
  have own : tallyOf loop (familyEvents loop events) = tallyOf loop events := by
    rw [tallyOf, same, tallyOf]
  have other : tallyOf (!loop) (familyEvents loop events) = {} := by
    rw [tallyOf, none]
    rfl
  cases loop with
  | true =>
      rw [faultyIn, own]
      exact (congrArg (_ ++ ·) (congrArg Tally.faulty other)).trans (List.append_nil _)
  | false =>
      rw [faultyIn, own]
      exact congrArg (· ++ _) (congrArg Tally.faulty other)

theorem findings_of_family (loop : Bool) :
    (eventFindings events).filter (fun finding => onLoop finding == loop) =
      eventFindings (familyEvents loop events) := by
  have split (family : Bool) : (tallyOf family events).faulty.filter
      (fun event => event.2.bracket.kind.isLoop == loop) =
        if family = loop then (tallyOf family events).faulty else [] := by
    split
    · next same =>
        refine List.filter_eq_self.mpr fun event member => ?_
        rw [family_of_faulty ascends member, same, beq_self_eq_true]
    · next differs =>
        refine List.filter_eq_nil_iff.mpr fun event member own => differs ?_
        rw [← family_of_faulty ascends member, beq_iff_eq.mp own]
  have kept : (faultyIn events).filter (fun event => event.2.bracket.kind.isLoop == loop) =
      faultyIn (familyEvents loop events) := by
    rw [faulty_in_family, faultyIn, List.filter_append, split, split]
    cases loop with
    | true => exact List.append_nil _
    | false => rfl
  have same : ((eventFindings events).filter fun finding => onLoop finding == loop).Perm
      (eventFindings (familyEvents loop events)) := by
    have told : (fun finding => onLoop finding == loop) ∘ fault =
        fun event => event.2.bracket.kind.isLoop == loop :=
      funext fun event => congrArg (· == loop) (on_loop_fault event)
    refine ((findings_perm events).filter _).trans ?_
    rw [List.filter_map, told, kept]
    exact (findings_perm _).symm
  refine List.Perm.eq_of_pairwise (fun first second _ _ order back => ?_)
    ((findings_ascend ascends).filter _)
    (findings_ascend (ascends.sublist (List.filter_sublist.map _))) same
  exact absurd order (Nat.lt_asymm back)

end Ascending

/-! Lines. -/

/-- A line that opens or closes a loop, or one that does so for a procedure. -/
def inFamily (loop : Bool) (line : SourceLine) : Bool :=
  (blockEvent? line).any fun event => event.bracket.kind.isLoop == loop

theorem numbered_events_family (loop : Bool) (lines : List SourceLine) :
    numberedEvents (lines.filter (inFamily loop)) = familyEvents loop (numberedEvents lines) := by
  rw [numberedEvents, familyEvents, numberedEvents, List.filterMap_filter, List.filter_filterMap]
  refine List.filterMap_congr fun line _ => ?_
  cases read : blockEvent? line with
  | none => simp [inFamily, read]
  | some event => simp [inFamily, read, Option.filter]

theorem mem_numbered_events {lines : List SourceLine} {number : Nat} {event : BlockEvent} :
    (number, event) ∈ numberedEvents lines ↔
      ∃ line ∈ lines, line.number = number ∧ blockEvent? line = some event := by
  simp only [numberedEvents, List.mem_filterMap, Option.map_eq_some_iff, Prod.mk.injEq]
  constructor
  · rintro ⟨line, member, _, read, rfl, rfl⟩
    exact ⟨line, member, rfl, read⟩
  · rintro ⟨line, member, rfl, read⟩
    exact ⟨line, member, event, read, rfl, rfl⟩

/-- The account of the lines of a program that open or close blocks. -/
structure Accounted (lines : List SourceLine) (closed : List ClosedBlock)
    (findings : List Finding) : Prop where
  /-- A line that opens or closes a block belongs to exactly one closed block, or it has exactly one
  finding, which is the one for its event. -/
  each : ∀ line ∈ lines, ∀ event, blockEvent? line = some event →
    (∃ block, closed.filter (fun block => (line.number, event) ∈ block.events) = [block] ∧
      findings.filter (·.line = line.number) = []) ∨
    (closed.filter (fun block => (line.number, event) ∈ block.events) = [] ∧
      findings.filter (·.line = line.number) = [fault (line.number, event)])
  /-- A closed block has a line that opens it and a later one that closes a block of its kind. -/
  partners : ∀ block ∈ closed, block.frame.line < block.closed ∧
    (∃ line ∈ lines, line.number = block.frame.line ∧
      blockEvent? line = some (.opens block.frame.kind block.frame.name)) ∧
    ∃ line ∈ lines, line.number = block.closed ∧ blockEvent? line = some (.closes block.frame.kind)
  /-- Nothing else is reported. -/
  only : ∀ finding ∈ findings, ∃ line ∈ lines, ∃ event, blockEvent? line = some event ∧
    finding = fault (line.number, event)
  uncrossed : ∀ block ∈ closed, ∀ other ∈ closed,
    block.frame.kind.isLoop = other.frame.kind.isLoop → ¬block.Crosses other
  ascending : findings.Pairwise fun first second => first.line < second.line
  /-- The findings on loops are those of the loop lines alone, and so are those on procedures. -/
  families : ∀ loop, findings.filter (fun finding => onLoop finding == loop) =
    blockFindings (lines.filter (inFamily loop))

/-- Each line that opens or closes a block is accounted for exactly once. -/
theorem structural_lines_accounted (source : Text) :
    Accounted (SourceLine.ofText source) (closedIn (numberedEvents (SourceLine.ofText source)))
      (blockFindings (SourceLine.ofText source)) := by
  have ascends : Ascending (numberedEvents (SourceLine.ofText source)) := ascending_numbered 1 _
  rw [block_findings_eq]
  constructor
  case each =>
    intro line member event read
    exact event_accounted ascends (mem_numbered_events.mpr ⟨line, member, rfl, read⟩)
  case partners =>
    intro block member
    have read {event : Nat × BlockEvent} (part : event ∈ block.events) :
        ∃ line ∈ SourceLine.ofText source, line.number = event.1 ∧
          blockEvent? line = some event.2 := by
      refine mem_numbered_events.mp ((events_perm ascends).mem_iff.mpr ?_)
      exact List.mem_append_right _ (List.mem_flatMap.mpr ⟨block, member, part⟩)
    refine ⟨?_, read List.mem_cons_self, read (List.mem_cons_of_mem _ List.mem_cons_self)⟩
    rcases List.mem_append.mp member with loop | procedure
    · exact (tally_accounts ascends true).forward block loop
    · exact (tally_accounts ascends false).forward block procedure
  case only =>
    intro finding member
    obtain ⟨event, faulty, rfl⟩ := mem_findings.mp member
    have listed := (events_perm ascends).mem_iff.mpr (List.mem_append_left _ faulty)
    obtain ⟨line, here, number, read⟩ := mem_numbered_events.mp listed
    exact ⟨line, here, event.2, read, by rw [number]⟩
  case uncrossed => exact fun _ member _ member' => uncrossed_in ascends member member'
  case ascending => exact findings_ascend ascends
  case families =>
    intro loop
    rw [block_findings_eq, numbered_events_family, findings_of_family ascends]

/-- A closer that does not fit is reported and leaves the loop to the next one. -/
example : closedIn (numberedEvents (SourceLine.ofText "FOR i = 1 TO 3\nWEND\nNEXT i".toList)) =
    [⟨⟨.forLoop, none, 1⟩, 3⟩] := by decide +kernel

end BasicBench.Check
