import BasicBench.Proofs.Actions
import BasicBench.Proofs.SectionWords
import BasicBench.Proofs.Wrapping

/-!
What flow control does to the lines of a program. Each line belongs to one segment, which the lines
above it decide together with the line itself: whether a procedure has begun there and not ended, and
whether the main program has begun. The new program has the lines of a segment one after the other and
in their order, with the wrapper and the indented main program between the others. No line of the main
program stands in a block, and the blocks follow each other as before.
-/

set_option autoImplicit false

namespace BasicBench.Instrument

open Text Pattern

/-! Segments. -/

/-- Where the lines of a program go. -/
inductive Segment where
  | top | main | procedures
  deriving DecidableEq, Repr

/-- The segment of a line: `begun` tells whether the main program has begun above it, and `within`
whether it stands in a procedure. -/
def segmentOf (begun within : Bool) (line : Text) (inside : Bool) : Segment :=
  if inside then
    if begun then .procedures else .top
  else if within || procedureStart.startsText line then .procedures
  else if !begun && isTopLine line then .top
  else .main

theorem segment_main_iff (begun within : Bool) (line : Text) (inside : Bool) :
    segmentOf begun within line inside = .main ↔ inside = false ∧ within = false ∧
      procedureStart.startsText line = false ∧ (begun = true ∨ isTopLine line = false) := by
  rw [segmentOf]
  cases inside <;> cases within <;> cases begun <;> cases procedureStart.startsText line <;>
    cases isTopLine line <;> simp

theorem segment_procedures_iff (begun within : Bool) (line : Text) (inside : Bool) :
    segmentOf begun within line inside = .procedures ↔
      if inside = true then begun = true
      else within = true ∨ procedureStart.startsText line = true := by
  rw [segmentOf]
  cases inside <;> cases within <;> cases begun <;> cases procedureStart.startsText line <;>
    cases isTopLine line <;> simp

/-- Whether the line below stands in a procedure. -/
def withinBelow (within : Bool) (line : Text) (inside : Bool) : Bool :=
  if inside then within
  else if within then !procedureEnd.startsText line
  else procedureStart.startsText line

def segmentsFrom (begun within : Bool) : List (Text × Bool) → List Segment
  | [] => []
  | (line, inside) :: rest =>
      let segment := segmentOf begun within line inside
      segment :: segmentsFrom (begun || segment == .main) (withinBelow within line inside) rest

/-- The segments of the lines, each at the place of its line. -/
def segmentsOf (lines : List Text) : List Segment := segmentsFrom false false (masked lines)

def chosen (segment : Segment) (lines : List Text) (segments : List Segment) : List Text :=
  ((lines.zip segments).filter (·.2 == segment)).map (·.1)

/-- The lines of a segment, in their order. -/
def linesOf (segment : Segment) (lines : List Text) : List Text :=
  chosen segment lines (segmentsOf lines)

theorem length_segments_from (begun within : Bool) (tagged : List (Text × Bool)) :
    (segmentsFrom begun within tagged).length = tagged.length := by
  induction tagged generalizing begun within with
  | nil => rfl
  | cons entry rest induction =>
      rw [segmentsFrom, List.length_cons, induction, List.length_cons]

theorem length_segments (lines : List Text) : (segmentsOf lines).length = lines.length := by
  rw [segmentsOf, length_segments_from, masked, List.length_zip, mask, length_maskFrom, min_self]

/-- A line in a block is no line of the main program. -/
theorem inside_not_main (begun within : Bool) (tagged : List (Text × Bool)) :
    ∀ entry ∈ tagged.zip (segmentsFrom begun within tagged),
      entry.1.2 = true → entry.2 ≠ .main := by
  induction tagged generalizing begun within with
  | nil => simp
  | cons entry rest induction =>
      obtain ⟨line, inside⟩ := entry
      rw [segmentsFrom, List.zip_cons_cons, List.forall_mem_cons]
      refine ⟨?_, induction _ _⟩
      intro isInside main
      have outside := ((segment_main_iff begun within line inside).mp main).1
      exact absurd (outside.symm.trans isInside) (by decide)

/-! Which lines go where. -/

/-- A procedure has begun above, and none has ended since. Lines in blocks do neither. -/
def InProcedure (above : List (Text × Bool)) : Prop :=
  ∃ before head behind, above = before ++ head :: behind ∧ head.2 = false ∧
    procedureStart.startsText head.1 = true ∧
    ∀ line, (line, false) ∈ behind → procedureEnd.startsText line = false

/-- The main program has begun above, with a line outside blocks and procedures that may not stay
on top. -/
def MainBegun (above : List (Text × Bool)) : Prop :=
  ∃ before head behind, above = before ++ head :: behind ∧ head.2 = false ∧ ¬InProcedure before ∧
    procedureStart.startsText head.1 = false ∧ isTopLine head.1 = false

/-- An entry of a row is the last one or one of those before it. -/
theorem entry_of_concat {α : Type} {entries : List α} {last : α}
    {fits : List α → α → List α → Prop} :
    (∃ before entry behind, entries ++ [last] = before ++ entry :: behind ∧
        fits before entry behind) ↔
      fits entries last [] ∨ ∃ before entry behind, entries = before ++ entry :: behind ∧
        fits before entry (behind ++ [last]) := by
  constructor
  · rintro ⟨before, entry, behind, split, fitting⟩
    rcases List.eq_nil_or_concat behind with rfl | ⟨behind, other, rfl⟩
    · obtain ⟨rfl, same⟩ := List.append_inj' split rfl
      obtain rfl := List.singleton_inj.mp same
      exact .inl fitting
    · rw [List.concat_eq_append, ← List.cons_append, ← List.append_assoc] at split
      obtain ⟨rfl, same⟩ := List.append_inj' split rfl
      obtain rfl := List.singleton_inj.mp same
      exact .inr ⟨before, entry, behind, rfl, by rwa [List.concat_eq_append] at fitting⟩
  · rintro (fitting | ⟨before, entry, behind, rfl, fitting⟩)
    · exact ⟨entries, last, [], rfl, fitting⟩
    · exact ⟨before, entry, behind ++ [last], by simp, fitting⟩

theorem in_procedure_concat (above : List (Text × Bool)) (line : Text) (inside : Bool) :
    InProcedure (above ++ [(line, inside)]) ↔
      inside = false ∧ procedureStart.startsText line = true ∨
        InProcedure above ∧ (inside = false → procedureEnd.startsText line = false) := by
  rw [InProcedure, entry_of_concat]
  constructor
  · rintro (⟨outside, starts, -⟩ | ⟨before, head, behind, split, outside, starts, stays⟩)
    · exact .inl ⟨outside, starts⟩
    · refine .inr ⟨⟨before, head, behind, split, outside, starts, fun other member =>
        stays other (List.mem_append_left _ member)⟩, ?_⟩
      rintro rfl
      exact stays line (by simp)
  · rintro (⟨outside, starts⟩ | ⟨⟨before, head, behind, split, outside, starts, stays⟩, last⟩)
    · exact .inl ⟨outside, starts, by simp⟩
    · refine .inr ⟨before, head, behind, split, outside, starts, fun other member => ?_⟩
      rcases List.mem_append.mp member with earlier | here
      · exact stays other earlier
      · obtain ⟨rfl, side⟩ := Prod.mk.inj (List.mem_singleton.mp here)
        exact last side.symm

theorem main_begun_concat (above : List (Text × Bool)) (line : Text) (inside : Bool) :
    MainBegun (above ++ [(line, inside)]) ↔ MainBegun above ∨ inside = false ∧
      ¬InProcedure above ∧ procedureStart.startsText line = false ∧ isTopLine line = false := by
  rw [MainBegun, entry_of_concat, or_comm]
  rfl

/-- Whether the line below all of these stands in a procedure. -/
def withinAfter (tagged : List (Text × Bool)) : Bool :=
  tagged.foldl (fun within entry => withinBelow within entry.1 entry.2) false

theorem within_after_iff (above : List (Text × Bool)) :
    withinAfter above = true ↔ InProcedure above := by
  induction above using List.reverseRecOn with
  | nil => simp [withinAfter, InProcedure]
  | append_singleton above entry induction =>
      obtain ⟨line, inside⟩ := entry
      have step : withinAfter (above ++ [(line, inside)]) =
          withinBelow (withinAfter above) line inside := by
        rw [withinAfter, List.foldl_append]
        rfl
      have apart : procedureStart.startsText line = true → procedureEnd.startsText line = false :=
        no_end_of_procedure_start
      rw [step, in_procedure_concat, ← induction, withinBelow]
      cases inside with
      | true => simp
      | false =>
          cases withinAfter above with
          | false => simp
          | true => simpa using apart

theorem not_within_after_iff (above : List (Text × Bool)) :
    withinAfter above = false ↔ ¬InProcedure above := by
  rw [← within_after_iff, Bool.not_eq_true]

theorem segments_from_append (begun within : Bool) (above rest : List (Text × Bool)) :
    segmentsFrom begun within (above ++ rest) = segmentsFrom begun within above ++
      segmentsFrom (begun || (segmentsFrom begun within above).contains .main)
        (above.foldl (fun within entry => withinBelow within entry.1 entry.2) within) rest := by
  induction above generalizing begun within with
  | nil => simp [segmentsFrom]
  | cons entry above induction =>
      obtain ⟨line, inside⟩ := entry
      rw [List.cons_append, segmentsFrom, segmentsFrom, induction, List.foldl_cons,
        List.contains_cons, Bool.or_assoc, BEq.comm (a := Segment.main)]
      rfl

theorem main_begun_iff (above : List (Text × Bool)) :
    (segmentsFrom false false above).contains .main = true ↔ MainBegun above := by
  induction above using List.reverseRecOn with
  | nil => simp [segmentsFrom, MainBegun]
  | append_singleton above entry induction =>
      obtain ⟨line, inside⟩ := entry
      have step : (segmentsFrom false false (above ++ [(line, inside)])).contains .main = true ↔
          MainBegun above ∨ segmentOf ((segmentsFrom false false above).contains .main)
            (withinAfter above) line inside = .main := by
        rw [segments_from_append, List.contains_append, Bool.or_eq_true, induction, Bool.false_or,
          segmentsFrom, segmentsFrom, List.contains_cons, List.contains_nil, Bool.or_false,
          beq_iff_eq, eq_comm (a := Segment.main), withinAfter]
      rw [step, main_begun_concat, segment_main_iff, not_within_after_iff, induction]
      by_cases begun : MainBegun above
      · simp only [begun, true_or]
      · simp only [begun, false_or]

/-- The line below some others belongs to the main program when it stands outside blocks and
procedures, and the main program has begun or begins with it; it goes to the procedures when it
stands in one or begins one, or in a block below the beginning of the main program; and it stays on
top otherwise. -/
theorem segment_of_line {lines : List Text} {above below : List (Text × Bool)} {line : Text}
    {inside : Bool} (split : masked lines = above ++ (line, inside) :: below) :
    ∃ segment, (segmentsOf lines)[above.length]? = some segment ∧
      (segment = .main ↔ inside = false ∧ ¬InProcedure above ∧
        procedureStart.startsText line = false ∧ (MainBegun above ∨ isTopLine line = false)) ∧
      (segment = .procedures ↔ if inside = true then MainBegun above
        else InProcedure above ∨ procedureStart.startsText line = true) := by
  rw [segmentsOf, split, segments_from_append, ← withinAfter, Bool.false_or,
    List.getElem?_append_right (length_segments_from ..).le, length_segments_from, Nat.sub_self,
    segmentsFrom]
  refine ⟨_, List.getElem?_cons_zero, ?_, ?_⟩
  · rw [segment_main_iff, main_begun_iff, not_within_after_iff]
  · rw [segment_procedures_iff, main_begun_iff, within_after_iff]

theorem chosen_cons (segment other : Segment) (line : Text) (lines : List Text)
    (segments : List Segment) : chosen segment (line :: lines) (other :: segments) =
      (if other = segment then [line] else []) ++ chosen segment lines segments := by
  rw [chosen, List.zip_cons_cons, List.filter_cons]
  by_cases same : other = segment
  · simp [same, chosen]
  · simp [same, chosen]

theorem mem_chosen {segment : Segment} {lines : List Text} {segments : List Segment}
    (length : segments.length = lines.length) : segment ∈ segments ↔
      chosen segment lines segments ≠ [] := by
  induction lines generalizing segments with
  | nil =>
      rw [List.length_eq_zero_iff.mp length]
      simp [chosen]
  | cons line lines induction =>
      cases segments with
      | nil => simp at length
      | cons other segments =>
          rw [chosen_cons, List.mem_cons, induction (by simpa using length)]
          by_cases same : other = segment
          · simp [same]
          · simp [same, Ne.symm same]

/-- The lines that stand in blocks. -/
def blockLines (tagged : List (Text × Bool)) : List (Text × Bool) := tagged.filter (·.2)

namespace Sections

/-- The lines that have gone to a segment. -/
def segment (sections : Sections) : Segment → List Text
  | .top => sections.top
  | .main => sections.main
  | .procedures => sections.procedures

theorem segment_add (sections : Sections) (line : Text) (inside : Bool) (segment : Segment) :
    (sections.add line inside).segment segment = sections.segment segment ++
      if segmentOf (!sections.main.isEmpty) sections.inProcedure line inside = segment then [line]
      else [] := by
  unfold add segmentOf
  cases inside <;> cases begun : sections.main.isEmpty <;> cases within : sections.inProcedure <;>
    cases starts : procedureStart.startsText line <;> cases top : isTopLine line <;>
    cases segment <;> simp [Sections.segment]

theorem within_add (sections : Sections) (line : Text) (inside : Bool) :
    (sections.add line inside).inProcedure = withinBelow sections.inProcedure line inside := by
  unfold add withinBelow
  cases inside <;> cases begun : sections.main.isEmpty <;> cases within : sections.inProcedure <;>
    cases starts : procedureStart.startsText line <;> cases top : isTopLine line <;> simp

theorem begun_add (sections : Sections) (line : Text) (inside : Bool) :
    (!(sections.add line inside).main.isEmpty) = (!sections.main.isEmpty ||
      segmentOf (!sections.main.isEmpty) sections.inProcedure line inside == .main) := by
  have grown : (sections.add line inside).main = sections.main ++ _ :=
    segment_add sections line inside .main
  rw [grown]
  by_cases main : segmentOf (!sections.main.isEmpty) sections.inProcedure line inside = .main
  · simp [main]
  · rw [if_neg main, List.append_nil, beq_eq_false_iff_ne.mpr main, Bool.or_false]

theorem segment_fold (segment : Segment) (tagged : List (Text × Bool)) (sections : Sections) :
    (tagged.foldl (fun sections (line, inside) => sections.add line inside) sections).segment
      segment = sections.segment segment ++ chosen segment (tagged.map (·.1))
        (segmentsFrom (!sections.main.isEmpty) sections.inProcedure tagged) := by
  induction tagged generalizing sections with
  | nil => simp [segmentsFrom, chosen]
  | cons entry rest induction =>
      obtain ⟨line, inside⟩ := entry
      rw [List.foldl_cons, induction, segment_add, begun_add, within_add, segmentsFrom,
        List.map_cons, chosen_cons, List.append_assoc]

/-- The three parts of a program are its segments. -/
theorem segment_of_lines (segment : Segment) (lines : List Text) :
    (ofLines lines).segment segment = linesOf segment lines := by
  have fold := segment_fold segment (masked lines) {}
  rw [lines_of_masked] at fold
  rw [ofLines, fold]
  cases segment <;> rfl

/-! The main program. -/

theorem not_top_of_main {within inside : Bool} {line : Text}
    (main : segmentOf false within line inside = .main) : isTopLine line = false :=
  ((segment_main_iff ..).mp main).2.2.2.resolve_left (by decide)

theorem not_blank_of_not_top {line : Text} (other : isTopLine line = false) : ¬Blank line := by
  intro blank
  rw [(is_top_line_iff line).mpr (.inl blank)] at other
  cases other

/-- Nothing opens the main program but a line that could not stay on top. -/
theorem main_head_fold (tagged : List (Text × Bool)) (sections : Sections)
    (opened : ∀ line, sections.main.head? = some line → isTopLine line = false) :
    ∀ line, (tagged.foldl (fun sections (line, inside) => sections.add line inside)
      sections).main.head? = some line → isTopLine line = false := by
  induction tagged generalizing sections with
  | nil => exact opened
  | cons entry rest induction =>
      obtain ⟨line, inside⟩ := entry
      rw [List.foldl_cons]
      apply induction
      intro first head
      have grown : (sections.add line inside).main = sections.main ++ _ :=
        segment_add sections line inside .main
      rw [grown] at head
      cases begun : sections.main with
      | cons other main =>
          rw [begun, List.cons_append, List.head?_cons] at head
          apply opened
          rw [begun, List.head?_cons, head]
      | nil =>
          rw [begun, List.nil_append] at head
          split at head
          next isMain =>
            rw [List.head?_cons, Option.some.injEq] at head
            rw [← head]
            exact not_top_of_main isMain
          next => simp at head

theorem main_head_of_lines (lines : List Text) :
    ∀ line, (ofLines lines).main.head? = some line → ¬Blank line := by
  intro line head
  apply not_blank_of_not_top
  exact main_head_fold (masked lines) {} (by simp) line head

/-- A main program that begins with a line that is not blank has a body that begins with it and ends
with another such line. -/
theorem body_ends {sections : Sections} (filled : sections.main ≠ [])
    (head : ∀ line, sections.main.head? = some line → ¬Blank line) :
    (∃ line, sections.mainBody.head? = some line ∧ ¬Blank line) ∧
      ∃ line, sections.mainBody.getLast? = some line ∧ ¬Blank line := by
  obtain ⟨blanks, split, empty⟩ := sections.main_split
  have nonempty : sections.mainBody ≠ [] := by
    intro none
    rw [none, List.nil_append] at split
    cases blanks with
    | nil => exact filled split
    | cons line blanks =>
        apply head line (by rw [split, List.head?_cons])
        exact empty line List.mem_cons_self
  constructor
  · cases body : sections.mainBody with
    | nil => exact absurd body nonempty
    | cons line rest =>
        refine ⟨line, rfl, head line ?_⟩
        rw [split, body, List.cons_append, List.head?_cons]
  · rw [mainBody] at nonempty ⊢
    rw [List.getLast?_reverse]
    have kept := List.head?_dropWhile_not (fun line => (trim line).isEmpty) sections.main.reverse
    cases rest : sections.main.reverse.dropWhile fun line => (trim line).isEmpty with
    | nil =>
        rw [rest] at nonempty
        exact absurd List.reverse_nil nonempty
    | cons line others =>
        rw [rest] at kept
        refine ⟨line, rfl, ?_⟩
        intro blank
        have shown : (trim line).isEmpty = false := kept
        rw [(trim_eq_nil_iff line).mpr blank] at shown
        exact absurd shown (by decide)

/-! Blocks. -/

/-- The lines in blocks among the lines `before` are those on top and then those of the procedures,
which have none before the main program begins. -/
structure BlocksKept (before : List (Text × Bool)) (sections : Sections) : Prop where
  all : blockLines before =
    blockLines (tagFrom 0 sections.top) ++ blockLines (tagFrom 0 sections.procedures)
  early : sections.main.isEmpty = true → blockLines (tagFrom 0 sections.procedures) = []

theorem block_lines_concat (tagged : List (Text × Bool)) (line : Text) (inside : Bool) :
    blockLines (tagged ++ [(line, inside)]) =
      blockLines tagged ++ if inside then [(line, true)] else [] := by
  rw [blockLines, List.filter_append]
  cases inside <;> rfl

theorem block_lines_grown {part : List Text} {line : Text} {inside : Bool}
    (side : isInside (depthThrough 0 part) line = inside) : blockLines (tagFrom 0 (part ++ [line])) =
      blockLines (tagFrom 0 part) ++ if inside then [(line, true)] else [] := by
  rw [tag_from_concat, block_lines_concat, side]

section Blocks

variable {before : List (Text × Bool)} {sections : Sections}
  (distributed : Distributed before sections) (kept : BlocksKept before sections) {line : Text}

include distributed kept

theorem blocks_add_inside (side : isInside (depthThrough 0 (before.map (·.1))) line = true) :
    BlocksKept (before ++ [(line, true)]) (sections.add line true) := by
  have depths := distributed.depths
  rw [add, if_pos rfl]
  split
  next empty =>
    rw [if_pos empty] at depths
    have onTop : isInside (depthThrough 0 sections.top) line = true := by rwa [depths.1]
    refine ⟨?_, fun _ => kept.early empty⟩
    rw [block_lines_concat, kept.all, block_lines_grown onTop, kept.early empty]
    simp
  next filled =>
    rw [if_neg filled] at depths
    have below : isInside (depthThrough 0 sections.procedures) line = true := by rwa [depths.2]
    refine ⟨?_, fun empty => absurd empty filled⟩
    rw [block_lines_concat, kept.all, block_lines_grown below, List.append_assoc]

/-- A line outside blocks adds nothing to them, whatever part it goes to. -/
theorem blocks_add_outside (side : isInside (depthThrough 0 (before.map (·.1))) line = false) :
    BlocksKept (before ++ [(line, false)]) (sections.add line false) := by
  obtain ⟨flat, -⟩ := (outside_iff _ line).mp side
  obtain ⟨topDepth, procedureDepth⟩ := distributed.closed flat
  rw [flat] at side
  have onTop : blockLines (tagFrom 0 (sections.top ++ [line])) =
      blockLines (tagFrom 0 sections.top) := by
    have outside : isInside (depthThrough 0 sections.top) line = false := by rwa [topDepth]
    rw [block_lines_grown outside, if_neg (by decide), List.append_nil]
  have below : blockLines (tagFrom 0 (sections.procedures ++ [line])) =
      blockLines (tagFrom 0 sections.procedures) := by
    have outside : isInside (depthThrough 0 sections.procedures) line = false := by
      rwa [procedureDepth]
    rw [block_lines_grown outside, if_neg (by decide), List.append_nil]
  have whole : ∀ next : Sections,
      blockLines (tagFrom 0 next.top) = blockLines (tagFrom 0 sections.top) →
      blockLines (tagFrom 0 next.procedures) = blockLines (tagFrom 0 sections.procedures) →
      (next.main.isEmpty = true → sections.main.isEmpty = true) →
      BlocksKept (before ++ [(line, false)]) next := by
    intro next top procedures main
    constructor
    · rw [block_lines_concat, if_neg (by decide), List.append_nil, kept.all, top, procedures]
    · intro empty
      rw [procedures]
      exact kept.early (main empty)
  rw [add, if_neg (by decide)]
  split
  · exact whole _ rfl below id
  · split
    · exact whole _ rfl below id
    · split
      · exact whole _ onTop rfl id
      · exact whole _ rfl rfl (by simp)

theorem blocks_add (line : Text) :
    BlocksKept (before ++ [(line, isInside (depthThrough 0 (before.map (·.1))) line)])
      (sections.add line (isInside (depthThrough 0 (before.map (·.1))) line)) := by
  cases side : isInside (depthThrough 0 (before.map (·.1))) line with
  | true => exact blocks_add_inside distributed kept side
  | false => exact blocks_add_outside distributed kept side

end Blocks

theorem blocks_of_lines (lines : List Text) : BlocksKept (masked lines) (ofLines lines) := by
  have both : Distributed (masked lines) (ofLines lines) ∧
      BlocksKept (masked lines) (ofLines lines) := by
    refine of_lines_induction
      (motive := fun before sections => Distributed before sections ∧ BlocksKept before sections)
      ⟨distributed_nil, rfl, fun _ => rfl⟩ ?_ lines
    rintro before sections line ⟨distributed, kept⟩
    exact ⟨distributed_add distributed line, blocks_add distributed kept line⟩
  exact both.2

end Sections

/-! The new program. -/

/-- The lines of a program around its wrapper. -/
structure Rearranged (options : Options) (lines body rearranged : List Text) : Prop where
  shape : rearranged = linesOf .top lines ++ asLines ["CALL AutoTestWrapper", ""] ++
    asLines (wrapper (hasBlock .console lines) options.autoExit ++ [""]) ++
    asLines ["SUB OriginalMainProgram"] ++
    body.map (fun line => if isBlank line then [] else "    ".toList ++ line) ++
    asLines ["END SUB"] ++
    if linesOf .procedures lines = [] then [] else [] :: linesOf .procedures lines
  main : ∃ blanks, linesOf .main lines = body ++ blanks ∧ ∀ line ∈ blanks, Blank line
  first : ∃ line, body.head? = some line ∧ ¬Blank line
  last : ∃ line, body.getLast? = some line ∧ ¬Blank line
  blocks : blockLines (masked rearranged) = blockLines (masked lines)

theorem indent_line_eq (line : Text) :
    indentLine line = if isBlank line then [] else "    ".toList ++ line := by
  have same : (trim line).isEmpty = isBlank line := by
    rw [Bool.eq_iff_iff, List.isEmpty_iff, trim_eq_nil_iff, isBlank, List.all_eq_true]
  rw [indentLine, same]

theorem wraps_iff_begun (lines : List Text) : wraps lines = true ↔
    ¬(lines.any wrapperHead.startsText = true ∨ Segment.main ∉ segmentsOf lines) := by
  have main : (Sections.ofLines lines).main = linesOf .main lines :=
    Sections.segment_of_lines .main lines
  have begun : Segment.main ∉ segmentsOf lines ↔ (Sections.ofLines lines).main.isEmpty = true := by
    rw [mem_chosen (length_segments lines), not_ne_iff, List.isEmpty_iff, main, linesOf]
  rw [wraps, begun, Bool.not_eq_true', ← Bool.not_eq_true, Bool.or_eq_true]

theorem flow_control_draft (options : Options) (lines : List Text) :
    if wraps lines = true
    then (flowControlLines options lines).changes = [.wrappedMain, .addedFlowControl]
    else flowControlLines options lines = ⟨lines, []⟩ := by
  unfold flowControlLines wraps
  simp only []
  split
  next wrapping =>
    rw [Bool.not_eq_true'] at wrapping
    rw [wrapping, if_neg (by decide)]
  next idle =>
    rw [Bool.not_eq_true, Bool.not_eq_false'] at idle
    rw [idle, if_pos rfl]

theorem rearranged_of_wraps (options : Options) {lines : List Text}
    (wrapping : wraps lines = true) :
    Rearranged options lines (Sections.ofLines lines).mainBody
      (flowControlLines options lines).lines := by
  have segments := fun segment => Sections.segment_of_lines segment lines
  have top : (Sections.ofLines lines).top = linesOf .top lines := segments .top
  have main : (Sections.ofLines lines).main = linesOf .main lines := segments .main
  have procedures : (Sections.ofLines lines).procedures = linesOf .procedures lines :=
    segments .procedures
  have filled : (Sections.ofLines lines).main ≠ [] := by
    rw [wraps, Bool.not_eq_true', Bool.or_eq_false_iff, List.isEmpty_eq_false_iff] at wrapping
    exact wrapping.2
  obtain ⟨first, last⟩ := Sections.body_ends filled (Sections.main_head_of_lines lines)
  have arranged := flow_control_eq options lines
  rw [if_pos wrapping] at arranged
  refine ⟨?_, ?_, first, last, ?_⟩
  · have indents : indentLine = fun line => if isBlank line then [] else "    ".toList ++ line :=
      funext indent_line_eq
    rw [arranged, arrange, frontLines, backLines, top, procedures, ← indents]
    by_cases none : linesOf .procedures lines = []
    · simp [none, asLines, List.append_assoc]
    · simp [none, asLines, List.append_assoc]
  · rw [← main]
    exact (Sections.ofLines lines).main_split
  · rw [arranged, masked_arrange _ _ wrapping, (Sections.blocks_of_lines lines).all]
    have outside : blockLines ((middleLines (Sections.ofLines lines) (hasBlock .console lines)
        options.autoExit).map (·, false)) = [] := by
      rw [blockLines, List.filter_eq_nil_iff]
      simp
    rw [blockLines, List.filter_append, List.filter_append, ← blockLines, ← blockLines,
      ← blockLines, outside, List.nil_append]

/-- Flow control leaves a program alone when it has a wrapper or no main program; otherwise it takes
every line over, but for blank lines behind the main program: each in its segment, in its order and
on its side. -/
theorem main_program_rearranged (options : Options) (stamp source : Text) :
    (segmentsOf (splitLines source)).length = (splitLines source).length ∧
    (∀ entry ∈ (masked (splitLines source)).zip (segmentsOf (splitLines source)),
      entry.1.2 = true → entry.2 ≠ .main) ∧
    ∃ revision, runPass? options stamp .flowControl source = some revision ∧
      if (splitLines source).any wrapperHead.startsText = true ∨
          Segment.main ∉ segmentsOf (splitLines source)
      then revision = ⟨source, []⟩
      else ∃ body rearranged, Rearranged options (splitLines source) body rearranged ∧
        revision = ⟨joinLines rearranged (endsWithNewline source),
          [.wrappedMain, .addedFlowControl]⟩ := by
  refine ⟨length_segments _, inside_not_main _ _ _, ?_⟩
  have ran : runPass? options stamp .flowControl source =
      some (if (flowControlLines options (splitLines source)).changes.isEmpty then ⟨source, []⟩
        else (flowControlLines options (splitLines source)).toProgram source) := rfl
  have draft := flow_control_draft options (splitLines source)
  have begun := wraps_iff_begun (splitLines source)
  refine ⟨_, ran, ?_⟩
  split
  next idle =>
    rw [if_neg (fun wrapping => begun.mp wrapping idle)] at draft
    rw [draft]
    exact if_pos rfl
  next active =>
    have wrapping := begun.mpr active
    rw [if_pos wrapping] at draft
    refine ⟨_, _, rearranged_of_wraps options wrapping, ?_⟩
    rw [Draft.toProgram, draft, if_neg (by decide)]

example : segmentsOf (asLines ["CONST a = 1", "x = a", "SUB p", "END SUB", "", "PRINT x"]) =
    [.top, .main, .procedures, .procedures, .main, .main] := by decide +kernel

end BasicBench.Instrument
