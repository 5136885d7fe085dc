import BasicBench.Proofs.BlockFaults

/-!
The loops of a program, and its procedures, each as an account of its own. A tally holds what has
become of the events of one family: every event has one place in it, the blocks that were closed lie
side by side or inside one another, and they do not reach into what is still open. The check of a
program keeps two tallies side by side, and neither looks at the other.
-/

set_option autoImplicit false

namespace BasicBench.Check

open Text

/-- What the opening of a block looks like in the program. -/
def Frame.event (frame : Frame) : Nat × BlockEvent := (frame.line, .opens frame.kind frame.name)

/-- The finding on a line that opens or closes a block and has no partner. -/
def fault : Nat × BlockEvent → Finding
  | (line, .opens kind name) => unclosedBlock ⟨kind, name, line⟩
  | (line, .closes kind) => strayCloser kind line

theorem fault_line (event : Nat × BlockEvent) : (fault event).line = event.1 := by
  obtain ⟨line, event⟩ := event
  cases event <;> rfl

/-- A block and the line that closed it. -/
structure ClosedBlock where
  frame : Frame
  closed : Nat
  deriving DecidableEq, Repr

namespace ClosedBlock

def closer (block : ClosedBlock) : Nat × BlockEvent := (block.closed, .closes block.frame.kind)

def events (block : ClosedBlock) : List (Nat × BlockEvent) := [block.frame.event, block.closer]

/-- The other block begins inside this one and ends behind it. -/
def Crosses (block other : ClosedBlock) : Prop :=
  block.frame.line < other.frame.line ∧ other.frame.line < block.closed ∧
    block.closed < other.closed

end ClosedBlock

/-! One family. -/

/-- What has become of the events of one family: the blocks that are open, the innermost first, the
closers that closed nothing, and the blocks that were closed. -/
structure Tally where
  standing : BlockStack := []
  stray : List (Nat × BlockEvent) := []
  closed : List ClosedBlock := []

namespace Tally

def apply (tally : Tally) : Nat × BlockEvent → Tally
  | (line, .opens kind name) => { tally with standing := ⟨kind, name, line⟩ :: tally.standing }
  | (line, .closes kind) =>
      match tally.standing with
      | [] => { tally with stray := (line, .closes kind) :: tally.stray }
      | frame :: outer =>
          if frame.kind = kind then
            { tally with standing := outer, closed := ⟨frame, line⟩ :: tally.closed }
          else { tally with stray := (line, .closes kind) :: tally.stray }

def follow (tally : Tally) (events : List (Nat × BlockEvent)) : Tally := events.foldl apply tally

/-- The events that have no partner. -/
def faulty (tally : Tally) : List (Nat × BlockEvent) :=
  tally.stray ++ tally.standing.map Frame.event

/-- A closer takes the innermost block, which is of its kind, or closes nothing. -/
theorem apply_closes (tally : Tally) (line : Nat) (kind : BlockKind) :
    (∃ frame outer, frame.kind = kind ∧ tally.standing = frame :: outer ∧
      tally.apply (line, .closes kind) =
        { tally with standing := outer, closed := ⟨frame, line⟩ :: tally.closed }) ∨
    (tally.standing.close? kind = none ∧ tally.apply (line, .closes kind) =
      { tally with stray := (line, .closes kind) :: tally.stray }) := by
  rw [apply]
  cases tally.standing with
  | nil => exact .inr ⟨rfl, rfl⟩
  | cons frame outer =>
      by_cases same : frame.kind = kind
      · exact .inl ⟨frame, outer, same, rfl, if_pos same⟩
      · exact .inr ⟨if_neg same, if_neg same⟩

/-- Every event of the past has its place in the tally, and closed blocks cross neither one another
nor what is open. -/
structure Accounts (past : List (Nat × BlockEvent)) (tally : Tally) : Prop where
  conserved : past.Perm (tally.faulty ++ tally.closed.flatMap ClosedBlock.events)
  nested : tally.standing.Pairwise fun inner outer => outer.line < inner.line
  forward : ∀ block ∈ tally.closed, block.frame.line < block.closed
  apart : ∀ block ∈ tally.closed, ∀ frame ∈ tally.standing,
    frame.line < block.frame.line ∨ block.closed < frame.line
  uncrossed : ∀ block ∈ tally.closed, ∀ other ∈ tally.closed, ¬block.Crosses other

section Step

variable {past : List (Nat × BlockEvent)} {tally : Tally} (accounts : Accounts past tally)

include accounts

theorem event_of_standing {frame : Frame} (member : frame ∈ tally.standing) :
    frame.event ∈ past := by
  refine accounts.conserved.mem_iff.mpr (List.mem_append_left _ ?_)
  exact List.mem_append_right _ (List.mem_map_of_mem member)

theorem events_of_closed {block : ClosedBlock} (member : block ∈ tally.closed) :
    block.frame.event ∈ past ∧ block.closer ∈ past := by
  have both (event : Nat × BlockEvent) (part : event ∈ block.events) : event ∈ past :=
    accounts.conserved.mem_iff.mpr
      (List.mem_append_right _ (List.mem_flatMap.mpr ⟨block, member, part⟩))
  exact ⟨both _ List.mem_cons_self, both _ (List.mem_cons_of_mem _ List.mem_cons_self)⟩

theorem accounts_opens {line : Nat} (later : ∀ event ∈ past, event.1 < line) (kind : BlockKind)
    (name : Option Text) : Accounts (past ++ [(line, .opens kind name)])
      (tally.apply (line, .opens kind name)) := by
  constructor
  case conserved =>
    have conserved := List.perm_iff_count.mp accounts.conserved
    refine List.perm_iff_count.mpr fun event => ?_
    have before := conserved event
    simp only [apply, faulty, List.map_cons, List.count_append, List.count_cons, List.count_nil,
      Frame.event] at before ⊢
    omega
  case nested =>
    exact List.pairwise_cons.mpr
      ⟨fun frame member => later _ (event_of_standing accounts member), accounts.nested⟩
  case forward => exact accounts.forward
  case apart =>
    intro block member frame standing
    rcases List.mem_cons.mp standing with rfl | below
    · exact .inr (later _ (events_of_closed accounts member).2)
    · exact accounts.apart block member frame below
  case uncrossed => exact accounts.uncrossed

/-- A block that was closed before lies inside the innermost open one or in front of it. -/
theorem uncrossed_innermost {line : Nat} (later : ∀ event ∈ past, event.1 < line) {frame : Frame}
    (innermost : frame ∈ tally.standing) {block : ClosedBlock} (member : block ∈ tally.closed) :
    ¬block.Crosses ⟨frame, line⟩ ∧ ¬ClosedBlock.Crosses ⟨frame, line⟩ block := by
  have ended : block.closed < line := later _ (events_of_closed accounts member).2
  have sides := accounts.apart block member frame innermost
  simp only [ClosedBlock.Crosses]
  omega

theorem accounts_taken {line : Nat} (later : ∀ event ∈ past, event.1 < line) {frame : Frame}
    {outer : BlockStack} (top : tally.standing = frame :: outer) :
    Accounts (past ++ [(line, .closes frame.kind)])
      { tally with standing := outer, closed := ⟨frame, line⟩ :: tally.closed } := by
  have innermost : frame ∈ tally.standing := top ▸ List.mem_cons_self
  have nested := accounts.nested
  rw [top, List.pairwise_cons] at nested
  constructor
  case conserved =>
    have conserved := List.perm_iff_count.mp accounts.conserved
    refine List.perm_iff_count.mpr fun event => ?_
    have before := conserved event
    simp only [faulty, top, List.map_cons, List.count_append, List.count_cons, List.count_nil,
      List.flatMap_cons, ClosedBlock.events, ClosedBlock.closer] at before ⊢
    omega
  case nested => exact nested.2
  case forward =>
    intro block member
    rcases List.mem_cons.mp member with rfl | before
    · exact later _ (event_of_standing accounts innermost)
    · exact accounts.forward block before
  case apart =>
    intro block member below standing
    rcases List.mem_cons.mp member with rfl | before
    · exact .inl (nested.1 below standing)
    · exact accounts.apart block before below (top ▸ List.mem_cons_of_mem _ standing)
  case uncrossed =>
    intro block member other member'
    rcases List.mem_cons.mp member with rfl | before <;>
      rcases List.mem_cons.mp member' with rfl | before'
    · exact fun crosses => Nat.lt_irrefl _ crosses.1
    · exact (uncrossed_innermost accounts later innermost before').2
    · exact (uncrossed_innermost accounts later innermost before).1
    · exact accounts.uncrossed block before other before'

theorem accounts_stray (event : Nat × BlockEvent) :
    Accounts (past ++ [event]) { tally with stray := event :: tally.stray } := by
  refine ⟨?_, accounts.nested, accounts.forward, accounts.apart, accounts.uncrossed⟩
  have conserved := List.perm_iff_count.mp accounts.conserved
  refine List.perm_iff_count.mpr fun other => ?_
  have before := conserved other
  simp only [faulty, List.count_append, List.count_cons, List.count_nil] at before ⊢
  omega

theorem accounts_apply (event : Nat × BlockEvent) (later : ∀ earlier ∈ past, earlier.1 < event.1) :
    Accounts (past ++ [event]) (tally.apply event) := by
  obtain ⟨line, event⟩ := event
  cases event with
  | opens kind name => exact accounts_opens accounts later kind name
  | closes kind =>
      rcases apply_closes tally line kind with ⟨frame, outer, rfl, top, applied⟩ | ⟨-, applied⟩
      · rw [applied]
        exact accounts_taken accounts later top
      · rw [applied]
        exact accounts_stray accounts (line, .closes kind)

end Step

/-- Every run over ascending lines keeps account. -/
theorem accounts_follow (events : List (Nat × BlockEvent)) : ∀ {past : List (Nat × BlockEvent)}
    {tally : Tally}, Accounts past tally → Ascending (past ++ events) →
      Accounts (past ++ events) (tally.follow events) := by
  induction events with
  | nil =>
      intro past tally accounts _
      rwa [List.append_nil]
  | cons event events induction =>
      intro past tally accounts ascends
      have later : ∀ earlier ∈ past, earlier.1 < event.1 := by
        rw [Ascending, List.map_append, List.map_cons, List.pairwise_append] at ascends
        exact fun earlier member => ascends.2.2 _ (List.mem_map_of_mem member) _ List.mem_cons_self
      have rest := induction (accounts_apply accounts event later) (by simpa using ascends)
      rwa [List.append_assoc, List.singleton_append] at rest

end Tally

/-! Both families. -/

/-- The events of loops, or those of procedures. -/
def familyEvents (loop : Bool) (events : List (Nat × BlockEvent)) : List (Nat × BlockEvent) :=
  events.filter fun event => event.2.bracket.kind.isLoop == loop

/-- What has become of the loops of a program, or of its procedures. -/
def tallyOf (loop : Bool) (events : List (Nat × BlockEvent)) : Tally :=
  Tally.follow {} (familyEvents loop events)

namespace OpenBlocks

theorem set_stack_stack (blocks : OpenBlocks) (kind other : BlockKind) (standing : BlockStack) :
    (blocks.setStack kind standing).stack other =
      if other.isLoop = kind.isLoop then standing else blocks.stack other := by
  unfold setStack stack
  cases kind.isLoop <;> cases other.isLoop <;> rfl

theorem set_stack_stray (blocks : OpenBlocks) (kind : BlockKind) (standing : BlockStack) :
    (blocks.setStack kind standing).stray = blocks.stray := by
  unfold setStack
  split <;> rfl

/-- The open blocks and stray closers of a check are those of the two families. -/
structure Splits (blocks : OpenBlocks) (tallies : Bool → Tally) : Prop where
  stack : ∀ kind, blocks.stack kind = (tallies kind.isLoop).standing
  stray : blocks.stray.Perm (((tallies true).stray ++ (tallies false).stray).map fault)

section Step

variable {blocks : OpenBlocks} {tallies : Bool → Tally} (splits : blocks.Splits tallies)
  (kind : BlockKind) (next : Tally)

include splits

/-- A stack is changed in the tally of its own family alone. -/
theorem splits_set_stack (same : next.stray = (tallies kind.isLoop).stray) :
    (blocks.setStack kind next.standing).Splits (Function.update tallies kind.isLoop next) := by
  have stray (loop : Bool) :
      (Function.update tallies kind.isLoop next loop).stray = (tallies loop).stray := by
    rw [Function.update_apply]
    split
    · next family => rw [family, same]
    · rfl
  constructor
  case stack =>
    intro other
    rw [set_stack_stack, Function.update_apply]
    split
    · rfl
    · exact splits.stack other
  case stray =>
    rw [set_stack_stray, stray, stray]
    exact splits.stray

theorem splits_stray (event : Nat × BlockEvent)
    (same : next.standing = (tallies kind.isLoop).standing)
    (strays : next.stray = event :: (tallies kind.isLoop).stray) :
    Splits { blocks with stray := fault event :: blocks.stray }
      (Function.update tallies kind.isLoop next) := by
  constructor
  case stack =>
    intro other
    rw [Function.update_apply]
    split
    · next family => rw [same, ← family]; exact splits.stack other
    · exact splits.stack other
  case stray =>
    refine (splits.stray.cons _).trans ?_
    rw [← List.map_cons]
    refine List.Perm.map fault ?_
    cases family : kind.isLoop with
    | true =>
        rw [family] at strays
        rw [Function.update_self, Function.update_of_ne (by decide), strays, List.cons_append]
    | false =>
        rw [family] at strays
        rw [Function.update_self, Function.update_of_ne (by decide), strays]
        exact List.perm_middle.symm

omit kind next in
theorem splits_apply (event : Nat × BlockEvent) : (blocks.apply event.1 event.2).Splits
    (Function.update tallies event.2.bracket.kind.isLoop
      ((tallies event.2.bracket.kind.isLoop).apply event)) := by
  obtain ⟨line, event⟩ := event
  cases event with
  | opens kind name =>
      dsimp only [apply]
      rw [splits.stack kind]
      exact splits_set_stack splits kind ((tallies kind.isLoop).apply (line, .opens kind name)) rfl
  | closes kind =>
      have standing := splits.stack kind
      have set := splits_set_stack splits kind ((tallies kind.isLoop).apply (line, .closes kind))
      have stray := splits_stray splits kind ((tallies kind.isLoop).apply (line, .closes kind))
        (line, .closes kind)
      rcases Tally.apply_closes (tallies kind.isLoop) line kind with
        ⟨frame, outer, same, top, applied⟩ | ⟨stuck, applied⟩
      · have closes : (blocks.stack kind).close? kind = some outer := by
          rw [standing, top, BlockStack.close?, if_pos same]
        rw [applied] at set
        simp only [apply, closes, BlockEvent.bracket, Bracket.kind, applied]
        exact set rfl
      · rw [← standing] at stuck
        rw [applied] at stray
        simp only [apply, stuck, BlockEvent.bracket, Bracket.kind, applied]
        exact stray rfl rfl

end Step

/-- The check of a program keeps the two tallies side by side. -/
theorem splits_follow (events : List (Nat × BlockEvent)) : ∀ {blocks : OpenBlocks}
    {tallies : Bool → Tally}, blocks.Splits tallies →
      (blocks.follow events).Splits fun loop => (tallies loop).follow (familyEvents loop events) := by
  induction events with
  | nil => exact fun splits => splits
  | cons event events induction =>
      intro blocks tallies splits
      have rest := induction (splits_apply splits event)
      refine (congrArg (Splits _) (funext fun loop => ?_)).mp rest
      rw [Function.update_apply, familyEvents, familyEvents, List.filter_cons]
      by_cases own : loop = event.2.bracket.kind.isLoop
      · rw [if_pos own, ← own, if_pos (beq_self_eq_true loop)]
        rfl
      · rw [if_neg own, if_neg fun same => own (beq_iff_eq.mp same).symm]

end OpenBlocks

end BasicBench.Check
