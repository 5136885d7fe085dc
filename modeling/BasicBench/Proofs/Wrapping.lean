import BasicBench.Proofs.SupportLines
import Mathlib.Data.List.Induction
import Mathlib.Data.List.Perm.Basic

/-!
The rearrangement of a program around its wrapper. The three parts of a program hold its lines
between them, each line once, and where the main program is not empty the nesting is closed
behind every part but the last. So every line keeps its side in the new order.
-/

set_option autoImplicit false

namespace BasicBench.Instrument

open Text Pattern

namespace Sections

theorem tag_from_concat (lines : List Text) (line : Text) :
    tagFrom 0 (lines ++ [line]) = tagFrom 0 lines ++ [(line, isInside (depthThrough 0 lines) line)] :=
  tag_from_append 0 lines [line]

theorem depth_through_concat (lines : List Text) (line : Text) :
    depthThrough 0 (lines ++ [line]) = depthAfter (depthThrough 0 lines) line :=
  depth_through_append 0 lines [line]

/-- What holds before any line is distributed, and with each line for one more, holds of a whole
program and its parts. -/
theorem of_lines_induction {motive : List (Text × Bool) → Sections → Prop} (start : motive [] {})
    (step : ∀ before sections line, motive before sections →
      motive (before ++ [(line, isInside (depthThrough 0 (before.map (·.1))) line)])
        (sections.add line (isInside (depthThrough 0 (before.map (·.1))) line)))
    (lines : List Text) : motive (masked lines) (ofLines lines) := by
  induction lines using List.reverseRecOn with
  | nil => exact start
  | append_singleton lines line induction =>
      have next := step (masked lines) (ofLines lines) line induction
      rw [lines_of_masked] at next
      rwa [ofLines, masked_eq, tag_from_concat, ← masked_eq, List.foldl_append]

/-- The parts in the order of the new program. -/
def parts (sections : Sections) : List Text :=
  sections.top ++ (sections.main ++ sections.procedures)

/-- Each line goes to the end of one part. -/
theorem parts_add (sections : Sections) (line : Text) (inside : Bool) :
    (sections.add line inside).parts.Perm (line :: sections.parts) := by
  have onTop : (sections.top ++ [line] ++ (sections.main ++ sections.procedures)).Perm
      (line :: sections.parts) := by
    rw [parts, List.append_assoc]
    exact List.perm_middle
  have inMain : (sections.top ++ (sections.main ++ [line] ++ sections.procedures)).Perm
      (line :: sections.parts) := by
    rw [parts, List.append_assoc, ← List.append_assoc sections.top, ← List.append_assoc sections.top]
    exact List.perm_middle
  have below : (sections.top ++ (sections.main ++ (sections.procedures ++ [line]))).Perm
      (line :: sections.parts) := by
    rw [parts, ← List.append_assoc, ← List.append_assoc, ← List.append_assoc]
    exact List.perm_append_singleton ..
  unfold add
  split
  · split
    · exact onTop
    · exact below
  · split
    · exact below
    · split
      · exact below
      · split
        · exact onTop
        · exact inMain

/-- The parts hold the lines of the program, each once. -/
theorem parts_of_lines (lines : List Text) : (ofLines lines).parts.Perm lines := by
  have all : (ofLines lines).parts.Perm ((masked lines).map (·.1)) := by
    refine of_lines_induction
      (motive := fun before sections => sections.parts.Perm (before.map (·.1))) (.refl []) ?_ lines
    intro before sections line known
    rw [List.map_append]
    exact (parts_add sections line _).trans
      ((known.cons line).trans (List.perm_append_singleton line _).symm)
  rwa [lines_of_masked] at all

/-- The main program is its body and blank lines. -/
theorem main_split (sections : Sections) :
    ∃ blanks, sections.main = sections.mainBody ++ blanks ∧ ∀ line ∈ blanks, Blank line := by
  have split := List.takeWhile_append_dropWhile (p := fun line : Text => (trim line).isEmpty)
    (l := sections.main.reverse)
  refine ⟨(sections.main.reverse.takeWhile fun line => (trim line).isEmpty).reverse, ?_, ?_⟩
  · rw [mainBody, ← List.reverse_append, split, List.reverse_reverse]
  · intro line member
    have empty := List.mem_takeWhile_imp (List.mem_reverse.mp member)
    exact (trim_eq_nil_iff line).mp (List.isEmpty_iff.mp empty)

/-! Sides. -/

/-- What is known of the parts once the lines `before` have been distributed. -/
structure Distributed (before : List (Text × Bool)) (sections : Sections) : Prop where
  main : ∀ line ∈ sections.main, (line, false) ∈ before
  top : ∀ line, (line, false) ∈ tagFrom 0 sections.top → (line, false) ∈ before
  procedures : ∀ line, (line, false) ∈ tagFrom 0 sections.procedures → (line, false) ∈ before
  depths : if sections.main.isEmpty
    then depthThrough 0 sections.top = depthThrough 0 (before.map (·.1)) ∧
      depthThrough 0 sections.procedures = 0
    else depthThrough 0 sections.top = 0 ∧
      depthThrough 0 sections.procedures = depthThrough 0 (before.map (·.1))

/-- Where no block is open, none is open behind the top and behind the procedures. -/
theorem Distributed.closed {before : List (Text × Bool)} {sections : Sections}
    (distributed : Distributed before sections) (flat : depthThrough 0 (before.map (·.1)) = 0) :
    depthThrough 0 sections.top = 0 ∧ depthThrough 0 sections.procedures = 0 := by
  have depths := distributed.depths
  rw [flat] at depths
  split at depths
  · exact depths
  · exact depths

theorem depth_through_known (before : List (Text × Bool)) (line : Text) (inside : Bool) :
    depthThrough 0 ((before ++ [(line, inside)]).map (·.1)) =
      depthAfter (depthThrough 0 (before.map (·.1))) line := by
  rw [List.map_append]
  exact depth_through_concat (before.map (·.1)) line

/-- A line goes where the nesting is the same as where it came from. -/
theorem outside_of_concat {before : List (Text × Bool)} {part : List Text} {line : Text}
    {inside : Bool} (side : isInside (depthThrough 0 part) line = inside)
    (known : ∀ line, (line, false) ∈ tagFrom 0 part → (line, false) ∈ before) (other : Text)
    (member : (other, false) ∈ tagFrom 0 (part ++ [line])) :
    (other, false) ∈ before ++ [(line, inside)] := by
  rw [tag_from_concat, side, List.mem_append] at member
  rw [List.mem_append]
  exact member.imp (known other) id

theorem distributed_nil : Distributed [] {} :=
  ⟨by simp, by simp [tagFrom], by simp [tagFrom], by simp [depthThrough]⟩

theorem distributed_add_inside {before : List (Text × Bool)} {sections : Sections}
    (distributed : Distributed before sections) {line : Text}
    (side : isInside (depthThrough 0 (before.map (·.1))) line = true) :
    Distributed (before ++ [(line, true)]) (sections.add line true) := by
  obtain ⟨main, top, procedures, depths⟩ := distributed
  have stillMain : ∀ other ∈ sections.main, (other, false) ∈ before ++ [(line, true)] :=
    fun other member => List.mem_append_left _ (main other member)
  rw [add, if_pos rfl]
  split
  next empty =>
    rw [if_pos empty] at depths
    have onTop : isInside (depthThrough 0 sections.top) line = true := by rwa [depths.1]
    refine ⟨stillMain, outside_of_concat onTop top,
      fun other member => List.mem_append_left _ (procedures other member), ?_⟩
    rw [if_pos empty, depth_through_known, depth_through_concat, depths.1]
    exact ⟨rfl, depths.2⟩
  next filled =>
    rw [if_neg filled] at depths
    have below : isInside (depthThrough 0 sections.procedures) line = true := by rwa [depths.2]
    refine ⟨stillMain, fun other member => List.mem_append_left _ (top other member),
      outside_of_concat below procedures, ?_⟩
    rw [if_neg filled, depth_through_known, depth_through_concat, depths.2]
    exact ⟨depths.1, rfl⟩

/-- The nesting is closed in front of a line outside blocks, and stays so whatever part the line
goes to. -/
theorem distributed_add_outside {before : List (Text × Bool)} {sections : Sections}
    (distributed : Distributed before sections) {line : Text}
    (side : isInside (depthThrough 0 (before.map (·.1))) line = false) :
    Distributed (before ++ [(line, false)]) (sections.add line false) := by
  obtain ⟨flat, -⟩ := (outside_iff _ line).mp side
  obtain ⟨topDepth, procedureDepth⟩ := distributed.closed flat
  obtain ⟨main, top, procedures, -⟩ := distributed
  rw [flat] at side
  have closed : depthAfter 0 line = 0 := depth_after_outside 0 line side
  have onTop : isInside (depthThrough 0 sections.top) line = false := by rwa [topDepth]
  have below : isInside (depthThrough 0 sections.procedures) line = false := by
    rwa [procedureDepth]
  have stillMain : ∀ other ∈ sections.main, (other, false) ∈ before ++ [(line, false)] :=
    fun other member => List.mem_append_left _ (main other member)
  have stillTop : ∀ other, (other, false) ∈ tagFrom 0 sections.top →
      (other, false) ∈ before ++ [(line, false)] :=
    fun other member => List.mem_append_left _ (top other member)
  have inProcedures := outside_of_concat below procedures
  rw [add, if_neg (by decide)]
  split
  · refine ⟨stillMain, stillTop, inProcedures, ?_⟩
    simp only [depth_through_known, flat, depth_through_concat, topDepth, procedureDepth, closed,
      and_self, ite_self]
  · split
    · refine ⟨stillMain, stillTop, inProcedures, ?_⟩
      simp only [depth_through_known, flat, depth_through_concat, topDepth, procedureDepth, closed,
        and_self, ite_self]
    · have stillProcedures : ∀ other, (other, false) ∈ tagFrom 0 sections.procedures →
          (other, false) ∈ before ++ [(line, false)] :=
        fun other member => List.mem_append_left _ (procedures other member)
      split
      · refine ⟨stillMain, outside_of_concat onTop top, stillProcedures, ?_⟩
        simp only [depth_through_known, flat, depth_through_concat, topDepth, procedureDepth, closed,
          and_self, ite_self]
      · refine ⟨?_, stillTop, stillProcedures, ?_⟩
        · intro other member
          rcases List.mem_append.mp member with old | new
          · exact stillMain other old
          · exact List.mem_append_right _ (by rw [List.mem_singleton.mp new]; exact List.mem_cons_self)
        · simp only [depth_through_known, flat, topDepth, procedureDepth, closed, and_self, ite_self]

theorem distributed_add {before : List (Text × Bool)} {sections : Sections}
    (distributed : Distributed before sections) (line : Text) :
    Distributed (before ++ [(line, isInside (depthThrough 0 (before.map (·.1))) line)])
      (sections.add line (isInside (depthThrough 0 (before.map (·.1))) line)) := by
  cases side : isInside (depthThrough 0 (before.map (·.1))) line with
  | true => exact distributed_add_inside distributed side
  | false => exact distributed_add_outside distributed side

theorem distributed_of_lines (lines : List Text) : Distributed (masked lines) (ofLines lines) :=
  of_lines_induction distributed_nil (fun _ _ line known => distributed_add known line) lines

end Sections

/-! The new program. -/

/-- The lines between what stays on top and the main program. -/
def frontLines (hasConsole autoExit : Bool) : List String :=
  ["CALL AutoTestWrapper", ""] ++ wrapper hasConsole autoExit ++ ["", "SUB OriginalMainProgram"]

/-- The lines behind the main program. -/
def backLines (procedures : List Text) : List Text :=
  if procedures.isEmpty then ["END SUB".toList] else "END SUB".toList :: [] :: procedures

/-- The program around a wrapper. -/
def arrange (sections : Sections) (hasConsole autoExit : Bool) : List Text :=
  sections.top ++ (asLines (frontLines hasConsole autoExit) ++
    (sections.mainBody.map indentLine ++ backLines sections.procedures))

/-- Whether there is a main program and no wrapper for it yet. -/
def wraps (lines : List Text) : Bool :=
  !(lines.any wrapperHead.startsText || (Sections.ofLines lines).main.isEmpty)

theorem flow_control_eq (options : Options) (lines : List Text) :
    (flowControlLines options lines).lines =
      if wraps lines then arrange (Sections.ofLines lines) (hasBlock .console lines) options.autoExit
      else lines := by
  unfold flowControlLines wraps
  simp only []
  split
  next idle => rw [idle]; rfl
  next active =>
    rw [Bool.not_eq_true] at active
    rw [active, Bool.not_false, if_pos rfl, arrange, frontLines, backLines]
    by_cases none : (Sections.ofLines lines).procedures.isEmpty = true <;>
      simp [none, asLines, List.append_assoc]

/-- The words that lead the lines of the wrapper. -/
def wrapperWords : List String := ["CALL", "SUB", "PRINT", "SYSTEM", "END"]

/-- Lines that are led by such a word or blank, and neither broken nor a bare end. -/
def isWrapperLine (line : Text) : Bool :=
  (isBlank line ||
    wrapperWords.any fun word => (textStart ++ blanks ++ anyCase word).startsText line) &&
    (!bareEnd.startsText line && line.all fun c => !isLineEnd c)

theorem wrapper_line_leads (line : Text) (shown : isWrapperLine line = true) :
    Blank line ∨ ∃ word ∈ wrapperWords, Leads word.toList line := by
  simp only [isWrapperLine, Bool.and_eq_true, Bool.or_eq_true, List.any_eq_true] at shown
  rcases shown.1 with blank | ⟨word, listed, starts⟩
  · exact .inl (List.all_eq_true.mp blank)
  · exact .inr ⟨word, listed, leads_of_starts (led_by_of_takes_word (takes_word_start word)) starts⟩

theorem wrapper_line_unbroken (line : Text) (shown : isWrapperLine line = true) :
    Unbroken line := by
  simp only [isWrapperLine, Bool.and_eq_true] at shown
  exact fun c member => by simpa using List.all_eq_true.mp shown.2.2 c member

theorem wrapper_line_no_end (line : Text) (shown : isWrapperLine line = true) :
    bareEnd.startsText line = false := by
  simp only [isWrapperLine, Bool.and_eq_true, Bool.not_eq_true'] at shown
  exact shown.2.1

theorem front_lines_pass (hasConsole autoExit : Bool) :
    AllPass isWrapperLine (frontLines hasConsole autoExit) := by
  cases hasConsole <;> cases autoExit <;>
    simp only [frontLines, wrapper, Bool.false_eq_true, if_true, if_false, List.cons_append,
      List.nil_append] <;>
    repeat refine all_pass_cons (by decide) ?_
  all_goals exact all_pass_nil _

theorem end_sub_passes : isWrapperLine "END SUB".toList = true := by decide

/-- No word that leads a line of the wrapper is a marker or a directive. -/
theorem wrapper_word_apart (word : String) (listed : word ∈ wrapperWords) :
    isHeaded word.toList = true ∧ word.toList.head? ≠ some '\'' := by
  simp only [wrapperWords, List.mem_cons, List.not_mem_nil, or_false] at listed
  rcases listed with rfl | rfl | rfl | rfl | rfl <;> decide

theorem wrapper_line_no_marker (line : Text) (shown : isWrapperLine line = true) :
    markerKind? line = none := by
  rcases wrapper_line_leads line shown with blank | ⟨word, listed, leads⟩
  · exact marker_kind_of_blank line blank
  · exact marker_kind_of_leads leads (wrapper_word_apart word listed)

theorem blank_indent : Blank "    ".toList :=
  List.all_eq_true.mp (by decide)

theorem indent_line_cases (line : Text) :
    (Blank line ∧ indentLine line = []) ∨ indentLine line = "    ".toList ++ line := by
  unfold indentLine
  split
  next empty => exact .inl ⟨(trim_eq_nil_iff line).mp (List.isEmpty_iff.mp empty), rfl⟩
  next => exact .inr rfl

theorem not_opening_indent_line (line : Text) (plain : ¬OpeningShape line) :
    ¬OpeningShape (indentLine line) := by
  rcases indent_line_cases line with ⟨-, same⟩ | same
  · rw [same]
    exact not_opening_of_blank [] blank_nil
  · rw [same, opening_shape_indent _ _ blank_indent]
    exact plain

theorem mem_main_of_mem_body {sections : Sections} {line : Text}
    (member : line ∈ sections.mainBody) : line ∈ sections.main := by
  obtain ⟨blanks, split, -⟩ := sections.main_split
  rw [split]
  exact List.mem_append_left _ member

/-- The lines between the top and the procedures. They stand outside blocks. -/
def middleLines (sections : Sections) (hasConsole autoExit : Bool) : List Text :=
  asLines (frontLines hasConsole autoExit) ++ (sections.mainBody.map indentLine ++
    ("END SUB".toList :: if sections.procedures.isEmpty then [] else [[]]))

theorem arrange_eq (sections : Sections) (hasConsole autoExit : Bool) :
    arrange sections hasConsole autoExit =
      sections.top ++ (middleLines sections hasConsole autoExit ++ sections.procedures) := by
  rw [arrange, middleLines, backLines]
  by_cases none : sections.procedures.isEmpty = true
  · simp [List.isEmpty_iff.mp none]
  · simp [none]

theorem mem_middle_lines {sections : Sections} {hasConsole autoExit : Bool} {line : Text}
    (member : line ∈ middleLines sections hasConsole autoExit) :
    isWrapperLine line = true ∨ ∃ other ∈ sections.main, line = indentLine other := by
  simp only [middleLines, List.mem_append, List.mem_map, List.mem_cons] at member
  rcases member with front | ⟨other, body, rfl⟩ | rfl | empty
  · exact .inl (front_lines_pass hasConsole autoExit line front)
  · exact .inr ⟨other, mem_main_of_mem_body body, rfl⟩
  · exact .inl end_sub_passes
  · split at empty
    · exact absurd empty List.not_mem_nil
    · rw [List.mem_singleton.mp empty]
      exact .inl (by decide)

theorem middle_lines_plain (lines : List Text) (hasConsole autoExit : Bool) :
    ∀ line ∈ middleLines (Sections.ofLines lines) hasConsole autoExit, ¬OpeningShape line := by
  intro line member
  rcases mem_middle_lines member with shown | ⟨other, main, rfl⟩
  · rw [← opening_iff, wrapper_line_no_marker line shown]
    simp
  · have outside := (Sections.distributed_of_lines lines).main other main
    exact not_opening_indent_line other (not_opening_of_outside outside)

/-- Around the wrapper every line keeps its side. -/
theorem masked_arrange {lines : List Text} (hasConsole autoExit : Bool)
    (wrapping : wraps lines = true) :
    masked (arrange (Sections.ofLines lines) hasConsole autoExit) =
      tagFrom 0 (Sections.ofLines lines).top ++
        ((middleLines (Sections.ofLines lines) hasConsole autoExit).map (·, false) ++
          tagFrom 0 (Sections.ofLines lines).procedures) := by
  have depths := (Sections.distributed_of_lines lines).depths
  have nonempty : (Sections.ofLines lines).main.isEmpty = false := by
    rw [wraps, Bool.not_eq_true', Bool.or_eq_false_iff] at wrapping
    exact wrapping.2
  rw [nonempty, if_neg (by decide)] at depths
  rw [masked_eq, arrange_eq, tag_from_append, depths.1,
    tag_from_plain_lines _ _ (middle_lines_plain lines hasConsole autoExit)]

/-- Where a line outside blocks of the new program comes from. -/
theorem outside_of_arrange (lines : List Text) (hasConsole autoExit : Bool)
    (wrapping : wraps lines = true) (line : Text)
    (outside : (line, false) ∈ masked (arrange (Sections.ofLines lines) hasConsole autoExit)) :
    (line, false) ∈ masked lines ∨ isWrapperLine line = true ∨
      ∃ other, (other, false) ∈ masked lines ∧ line = indentLine other := by
  obtain ⟨main, top, procedures, -⟩ := Sections.distributed_of_lines lines
  rw [masked_arrange _ _ wrapping, List.mem_append, List.mem_append] at outside
  rcases outside with onTop | between | below
  · exact .inl (top line onTop)
  · obtain ⟨other, member, same⟩ := List.mem_map.mp between
    obtain rfl := (Prod.mk.inj same).1
    rcases mem_middle_lines member with shown | ⟨source, body, rfl⟩
    · exact .inr (.inl shown)
    · exact .inr (.inr ⟨source, main source body, rfl⟩)
  · exact .inl (procedures line below)

end BasicBench.Instrument
