import BasicBench.Proofs.Keeping

/-!
Lines that are counted: the opening markers and the console directives. The actions that put a
block or the directive in add one where there is none, and every other action, whatever it edits,
moves, takes out or puts in, leaves their number as it is. So no sequence of passes repeats or
loses one.
-/

set_option autoImplicit false

namespace BasicBench.Instrument

open Text Pattern

/-- The words of the lines that actions put in and take out. -/
def quietWords : List String := ["PRINT", "SLEEP", "CALL", "END", "SUB", "SYSTEM"]

/-- A kind of line that no editing makes, unmakes or disguises, but for directives. -/
structure Standing (check : Text → Bool) : Prop where
  blank : ∀ line, Blank line → check line = false
  led : ∀ word ∈ quietWords, ∀ line, Leads word.toList line → check line = false
  indent : ∀ left line, Blank left → check (left ++ line) = check line
  exchange : ∀ (edit : Edit) line, Unbroken line → ¬OpeningShape line →
    check (edit.apply line) = check line

/-- A kind of line that no editing makes, unmakes or disguises. -/
structure Landmark (check : Text → Bool) : Prop extends Standing check where
  normalize : ∀ line, check (normalizeLine line) = check line

/-- A mark for each line that passes a check. -/
def mark? (check : Text → Bool) (line : Text) : Option Unit :=
  if check line then some () else none

theorem mark_none {check : Text → Bool} {line : Text} (fails : check line = false) :
    mark? check line = none := by
  rw [mark?, fails]
  rfl

theorem mark_congr {check : Text → Bool} {line other : Text} (same : check line = check other) :
    mark? check line = mark? check other := by
  rw [mark?, mark?, same]

/-- Lines with the same marks are equally many that pass the check. -/
theorem count_of_marks {check : Text → Bool} {before after : List Text}
    (same : after.filterMap (mark? check) = before.filterMap (mark? check)) :
    after.countP check = before.countP check := by
  have counted : ∀ lines : List Text, lines.countP check = (lines.filterMap (mark? check)).length := by
    intro lines
    rw [List.length_filterMap_eq_countP]
    refine List.countP_congr fun line _ => ?_
    rw [mark?]
    cases check line <;> simp
  rw [counted, counted, same]

namespace Standing

variable {check : Text → Bool} (standing : Standing check)
include standing

theorem calls (name line : Text) (calls : Calls name line) : check line = false :=
  standing.led "CALL" (by simp [quietWords]) line (leads_of_calls calls)

theorem wrapper (line : Text) (shown : isWrapperLine line = true) : check line = false := by
  rcases wrapper_line_leads line shown with blank | ⟨word, listed, leads⟩
  · exact standing.blank line blank
  · refine standing.led word ?_ line leads
    simp only [wrapperWords, List.mem_cons, List.not_mem_nil, or_false] at listed
    rcases listed with rfl | rfl | rfl | rfl | rfl <;> simp [quietWords]

theorem indent_line (line : Text) : check (indentLine line) = check line := by
  rcases indent_line_cases line with ⟨blank, same⟩ | same
  · rw [same, standing.blank line blank, standing.blank [] blank_nil]
  · rw [same, standing.indent _ line blank_indent]

theorem count_insert (added lines : List Text) :
    (insertBlock added lines).countP check = lines.countP check + added.countP check := by
  have split := congrArg (List.countP check) (List.take_append_drop (headerLength lines) lines)
  rw [List.countP_append] at split
  have empty := standing.blank [] blank_nil
  simp only [insertBlock, List.countP_append, List.countP_cons, List.countP_nil, empty]
  rw [← split]
  simp only [Bool.false_eq_true, if_false]
  omega

theorem count_blank_lines (lines : List Text) (empty : ∀ line ∈ lines, Blank line) :
    lines.countP check = 0 := by
  rw [List.countP_eq_zero]
  intro line member
  rw [standing.blank line (empty line member)]
  decide

theorem count_wrapper_lines (lines : List Text) (shown : ∀ line ∈ lines, isWrapperLine line = true) :
    lines.countP check = 0 := by
  rw [List.countP_eq_zero]
  intro line member
  rw [standing.wrapper line (shown line member)]
  decide

theorem count_arrange (lines : List Text) (hasConsole autoExit : Bool) :
    (arrange (Sections.ofLines lines) hasConsole autoExit).countP check = lines.countP check := by
  obtain ⟨blanks, split, empty⟩ := (Sections.ofLines lines).main_split
  have whole := (Sections.parts_of_lines lines).countP_eq check
  rw [Sections.parts, List.countP_append, List.countP_append, split, List.countP_append,
    standing.count_blank_lines blanks empty] at whole
  have front := standing.count_wrapper_lines _ (front_lines_pass hasConsole autoExit)
  have body : ((Sections.ofLines lines).mainBody.map indentLine).countP check =
      (Sections.ofLines lines).mainBody.countP check := by
    rw [List.countP_map]
    exact List.countP_congr fun line _ => by simp [standing.indent_line line]
  have closing : check "END SUB".toList = false := standing.wrapper _ end_sub_passes
  have gap : (if (Sections.ofLines lines).procedures.isEmpty then [] else
      [([] : Text)]).countP check = 0 := by
    refine standing.count_blank_lines _ fun line member => ?_
    split at member
    · exact absurd member List.not_mem_nil
    · rw [List.mem_singleton.mp member]
      exact blank_nil
  rw [arrange_eq, middleLines, List.countP_append, List.countP_append, List.countP_append,
    List.countP_append, List.countP_cons, front, body, closing, gap, ← whole]
  simp only [Bool.false_eq_true, if_false]
  omega

/-- Only the actions that deal with a block or the directive change the number. -/
theorem count_perform (options : Options) (stamp : Text) (lines : List Text)
    (unbroken : AllUnbroken lines) (action : Action)
    (quiet : ∀ feature, action ≠ .support feature) (quiet' : action ≠ .direct)
    (normal : action = .normalize → ∀ line, check (normalizeLine line) = check line) :
    (action.perform options stamp lines).countP check = lines.countP check := by
  have texts := lines_of_masked lines
  cases action with
  | normalize =>
      rw [Action.perform, List.countP_map]
      exact List.countP_congr fun line _ => by simp [normal rfl line]
  | direct => exact absurd rfl quiet'
  | support feature => exact absurd rfl (quiet feature)
  | pause =>
      have marks := readings_pauses (masked_replace_waits lines)
        (fun line blank => mark_none (standing.blank line blank))
        (fun line prompts => mark_none (standing.led "PRINT" (by simp [quietWords]) line
          (leads_of_starts led_prompt prompts)))
        (fun line waits => mark_none (standing.led "SLEEP" (by simp [quietWords]) line
          (leads_of_starts led_sleep waits)))
        (fun left blank => mark_none (standing.calls _ _ (calls_pause left blank)))
      rw [texts, lines_of_masked] at marks
      exact count_of_marks marks
  | exit =>
      refine count_of_marks (readings_edit_outside fun line member => mark_congr ?_)
      rcases replace_end_cases line (unbroken line (mem_of_mem_masked member)) with
        ⟨-, same⟩ | ⟨ends, left, more, blank, -, same⟩
      · rw [same]
      · rw [same, standing.calls _ _ (calls_exit left blank),
          standing.led "END" (by simp [quietWords]) line (leads_of_starts led_bare_end ends)]
  | wrap =>
      rw [Action.perform, flow_control_eq]
      split
      · exact standing.count_arrange lines _ _
      · rfl
  | exchange edit =>
      refine count_of_marks (readings_edit_outside fun line member => mark_congr ?_)
      exact standing.exchange edit line (unbroken line (mem_of_mem_masked member))
        (not_opening_of_outside member)
  | cleanUp =>
      have marks := readings_guard
        (fun left blank => mark_none (standing.calls _ _ (calls_cleanup left blank))) none
        (masked lines)
      rw [texts] at marks
      exact count_of_marks marks
  | logFiles =>
      have marks := readings_follow fileLog? isFileLog
        (fun _ _ added => mark_none (standing.calls _ _ (calls_file_log added))) (masked lines)
      rw [texts] at marks
      exact count_of_marks marks
  | takeShots =>
      have marks := readings_follow screenshot? isScreenshot
        (fun _ _ added => mark_none (standing.calls _ _ (calls_screenshot added))) (masked lines)
      rw [texts] at marks
      exact count_of_marks marks

end Standing

/-- Only the actions that add a block or the directive change the number of a landmark. -/
theorem Landmark.count_perform {check : Text → Bool} (landmark : Landmark check) (options : Options)
    (stamp : Text) (lines : List Text) (unbroken : AllUnbroken lines) (action : Action)
    (quiet : ∀ feature, action ≠ .support feature) (quiet' : action ≠ .direct) :
    (action.perform options stamp lines).countP check = lines.countP check :=
  landmark.toStanding.count_perform options stamp lines unbroken action quiet quiet'
    fun _ => landmark.normalize

/-! Opening markers. -/

def isMarkerOf (feature : Feature) (line : Text) : Bool := trim line == openingMarker feature

theorem opening_shape_of_marker (feature : Feature) (line : Text)
    (marks : isMarkerOf feature line = true) : OpeningShape line := by
  obtain ⟨left, right, blankLeft, blankRight, split⟩ := trim_split line
  rw [beq_iff_eq.mp marks, opening_marker_split feature] at split
  refine ⟨left, feature.title.toList, right, blankLeft, blankRight, (title_in_line feature).1,
    (title_in_line feature).2, ?_⟩
  rw [split]
  simp only [List.append_assoc]

theorem not_marker_of_kind {feature : Feature} {line : Text}
    (other : markerKind? line ≠ some .opening) : isMarkerOf feature line = false := by
  cases marks : isMarkerOf feature line with
  | false => rfl
  | true => exact absurd ((opening_iff line).mpr (opening_shape_of_marker feature line marks)) other

theorem quiet_word_apart (word : String) (listed : word ∈ quietWords) :
    areApart word.toList "$CONSOLE".toList = true ∧ isHeaded word.toList = true ∧
      word.toList.head? ≠ some '\'' := by
  simp only [quietWords, List.mem_cons, List.not_mem_nil, or_false] at listed
  rcases listed with rfl | rfl | rfl | rfl | rfl | rfl <;> decide

theorem console_off_no_marker {line : Text} (off : consoleOff.startsText line = true) :
    markerKind? line = none :=
  marker_kind_of_leads (leads_of_starts led_console_off off) (by decide)

theorem landmark_marker (feature : Feature) : Landmark (isMarkerOf feature) where
  blank line blank := not_marker_of_kind (by rw [marker_kind_of_blank line blank]; simp)
  led word listed line leads := not_marker_of_kind (by
    rw [marker_kind_of_leads leads (quiet_word_apart word listed).2]
    simp)
  indent left line blank := by rw [isMarkerOf, isMarkerOf, trim_append_left left line blank]
  exchange edit line unbroken plain := by
    have before : isMarkerOf feature line = false :=
      not_marker_of_kind (mt (opening_iff line).mp plain)
    have after : isMarkerOf feature (edit.apply line) = false :=
      not_marker_of_kind fun opening => plain
        (opening_shape_of_apply edit line unbroken ((opening_iff _).mp opening))
    rw [before, after]
  normalize line := by
    rw [normalizeLine]
    split
    next off =>
      have before : isMarkerOf feature line = false :=
        not_marker_of_kind (by rw [console_off_no_marker off]; simp)
      rw [before]
      exact not_marker_of_kind (by decide)
    next => rfl

/-- The block of a feature opens with the marker of that feature and holds no other. -/
theorem count_marker_in_support {feature other : Feature} {added : List Text}
    (support : IsSupport feature added) :
    added.countP (isMarkerOf other) = if other = feature then 1 else 0 := by
  obtain ⟨body, rfl, all⟩ := support
  have inside : body.countP (isMarkerOf other) = 0 := by
    rw [List.countP_eq_zero]
    intro line member
    rw [not_marker_of_kind (by rw [((support_line_iff line).mp (all line member)).1]; simp)]
    decide
  have closing : isMarkerOf other (closingMarker feature) = false :=
    not_marker_of_kind (by rw [marker_kind_of_closing feature]; simp)
  have opening : isMarkerOf other (openingMarker feature) = decide (other = feature) := by
    cases feature <;> cases other <;> decide
  rw [block, List.countP_append, List.countP_append, inside, List.countP_singleton,
    List.countP_singleton, opening, closing]
  by_cases same : other = feature <;> simp [same]

theorem has_block_iff (feature : Feature) (lines : List Text) :
    hasBlock feature lines = true ↔ 0 < lines.countP (isMarkerOf feature) := by
  rw [hasBlock, List.any_eq_true, List.countP_pos_iff]
  rfl

/-! Console directives. -/

theorem floating_console_directive : Floats consoleDirective ∧ Reaches consoleDirective :=
  floating_append (floating_of_takes_word (by decide) (takes_word_start "$CONSOLE")) _

theorem floating_console_off : Floats consoleOff ∧ Reaches consoleOff :=
  floating_append (floating_append (floating_append (floating_append (floating_append
    (floating_append (floating_of_takes_word (by decide) (takes_word_start "$CONSOLE"))
      _) _) _) _) _) _

/-- A directive that switches the console off is a console directive. -/
theorem directive_of_console_off {line : Text} (off : consoleOff.startsText line = true) :
    consoleDirective.startsText line = true := by
  obtain ⟨piece, rest, rfl, taken⟩ := (starts_text_iff ..).mp off
  simp only [consoleOff, takes_append, takes_text_start, takes_blanks, takes_any_case, takes_one,
    takes_text_end, beq_iff_eq] at taken
  obtain ⟨_, _, rfl, ⟨_, gap₃, rfl, ⟨_, word, rfl, ⟨_, gap₂, rfl, ⟨_, _, rfl, ⟨_, gap₁, rfl,
    ⟨_, form, rfl, ⟨_, left, rfl, ⟨rfl, -⟩, blank⟩, same⟩, blankGap⟩, _, rfl, rfl⟩, -⟩, -⟩, -⟩,
    rfl, -⟩ := taken
  refine (starts_text_iff ..).mpr ⟨left ++ form, gap₁ ++ ':' :: (gap₂ ++ word ++ gap₃ ++ rest),
    by simp, ?_⟩
  simp only [consoleDirective, takes_append, takes_text_start, takes_blanks, takes_any_case,
    takes_word_edge]
  refine ⟨left ++ form, [], by simp, ⟨left, form, rfl, ⟨[], left, rfl, ⟨rfl, trivial⟩, blank⟩, same⟩,
    rfl, ?_⟩
  have inWord : (lastOf none (left ++ form)).any isWordChar = true := by
    have last : ∀ before, lastOf before "$CONSOLE".toList = some 'E' := fun before => by simp
    rw [last_of_append, ← same_text_last same, last]
    decide
  have colon : (':' :: (gap₂ ++ word ++ gap₃ ++ rest)).head?.any isWordChar = false := by
    rw [List.head?_cons, Option.any_some]
    decide
  rw [inWord, Edit.not_word_head_of_blanks gap₁ _ blankGap colon]
  decide

theorem landmark_directive : Landmark consoleDirective.startsText where
  blank line blank := by
    cases starts : consoleDirective.startsText line with
    | false => rfl
    | true =>
        have leads := leads_of_starts led_console_directive starts
        exact absurd blank (not_blank_of_leads (by decide) leads)
  led word listed line leads :=
    not_starts_of_leads led_console_directive (quiet_word_apart word listed).1 leads
  indent left line blank :=
    starts_text_indent floating_console_directive left line blank
  exchange edit line _ _ := Edit.starts_text_apply steady_console_directive edit line
  normalize line := by
    rw [normalizeLine]
    split
    next off =>
      rw [directive_of_console_off off]
      decide
    next => rfl

/-- Directives that switch the console off are no landmark: the console pass removes them. -/
theorem standing_console_off : Standing consoleOff.startsText where
  blank line blank := by
    cases starts : consoleOff.startsText line with
    | false => rfl
    | true =>
        have leads := leads_of_starts led_console_off starts
        exact absurd blank (not_blank_of_leads (by decide) leads)
  led word listed line leads :=
    not_starts_of_leads led_console_off (quiet_word_apart word listed).1 leads
  indent left line blank := starts_text_indent floating_console_off left line blank
  exchange edit line _ _ := Edit.starts_text_apply steady_console_off edit line

theorem count_directive_in_support {feature : Feature} {added : List Text}
    (support : IsSupport feature added) : added.countP consoleDirective.startsText = 0 := by
  obtain ⟨body, rfl, all⟩ := support
  have marks : consoleDirective.startsText (openingMarker feature) = false ∧
      consoleDirective.startsText (closingMarker feature) = false := by
    cases feature <;> decide
  rw [List.countP_eq_zero]
  intro line member
  simp only [block, List.mem_append, List.mem_singleton] at member
  rcases member with (rfl | inside) | rfl
  · simp [marks.1]
  · simp [((support_line_iff line).mp (all line inside)).2.1]
  · simp [marks.2]

end BasicBench.Instrument
