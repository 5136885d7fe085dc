import BasicBench.Proofs.Keeping
import BasicBench.Proofs.WordRuns

/-!
The lines outside blocks after an action: lines that stood outside before, an edit of such a line,
or one of the few lines that actions add. What none of these is, no action brings in, so what one
pass removes stays away.
-/

set_option autoImplicit false

namespace BasicBench.Instrument

open Text Pattern

/-- The lines outside blocks. -/
def Outside (lines : List Text) (line : Text) : Prop := (line, false) ∈ masked lines

/-- Where a line outside blocks comes from once an action has been performed. -/
inductive OutsideOrigin (lines : List Text) (action : Action) (line : Text) : Prop
  | kept (old : Outside lines line)
  | blank (empty : Blank line)
  | wrapper (wraps : action = .wrap) (shown : isWrapperLine line = true)
  | indented (other : Text) (old : Outside lines other) (same : line = indentLine other)
  | edited (edit : Edit) (edits : action = .exchange edit) (other : Text) (old : Outside lines other)
      (same : line = edit.apply other)
  | cleanup (left : Text) (blank : Blank left) (same : line = left ++ cleanupCall)
  | logged (other : Text) (old : Outside lines other) (added : fileLog? other = some line)
  | shot (other : Text) (old : Outside lines other) (added : screenshot? other = some line)

theorem contained_support (options : Options) (stamp : Text) (plain : Unbroken stamp)
    (lines : List Text) (feature : Feature) :
    SelfContained (supportBlock options stamp lines feature) := by
  rcases support_block_cases options stamp lines feature plain with ⟨body, split, all⟩ | ⟨none, -⟩
  · rw [split]
    exact contained_block feature body fun line member => ((support_line_iff line).mp (all line member)).1
  · rw [none]
    exact fun depth => ⟨rfl, rfl⟩

theorem outside_edit {edit : Text → Text} {lines : List Text}
    (plain : ∀ line, Outside lines line → ¬OpeningShape (edit line)) {line : Text}
    (outside : Outside (editOutside edit lines) line) :
    ∃ other, Outside lines other ∧ line = edit other := by
  rw [Outside, masked_edit_outside edit lines plain] at outside
  obtain ⟨⟨other, inside⟩, member, same⟩ := List.mem_map.mp outside
  cases inside with
  | true => simp at same
  | false =>
      rw [Prod.mk.injEq] at same
      exact ⟨other, member, same.1.symm⟩

theorem not_opening_of_replace_end {line : Text} (unbroken : Unbroken line)
    (plain : ¬OpeningShape line) : ¬OpeningShape (replaceEnd line) := by
  rcases replace_end_cases line unbroken with ⟨-, same⟩ | ⟨-, left, more, blank, -, same⟩
  · rwa [same]
  · rw [same]
    exact not_opening_of_calls (calls_exit left blank)

theorem plain_replaced_end {lines : List Text} (unbroken : AllUnbroken lines) (line : Text)
    (outside : Outside lines line) : ¬OpeningShape (replaceEnd line) :=
  not_opening_of_replace_end (unbroken line (mem_of_mem_masked outside))
    (not_opening_of_outside outside)

theorem plain_exchanged (edit : Edit) {lines : List Text} (unbroken : AllUnbroken lines)
    (line : Text) (outside : Outside lines line) : ¬OpeningShape (edit.apply line) :=
  mt (opening_shape_of_apply edit line (unbroken line (mem_of_mem_masked outside)))
    (not_opening_of_outside outside)

theorem masked_exchange (edit : Edit) (lines : List Text) (unbroken : AllUnbroken lines) :
    masked (editOutside edit.apply lines) = (masked lines).map fun (line, inside) =>
      (if inside then line else edit.apply line, inside) :=
  masked_edit_outside edit.apply lines (plain_exchanged edit unbroken)

theorem masked_log_files (lines : List Text) :
    masked (followOutside fileLog? isFileLog (masked lines)) =
      followTagged fileLog? isFileLog (masked lines) :=
  masked_follow_outside fileLog? isFileLog lines fun _ _ added =>
    not_opening_of_calls (calls_file_log added)

theorem masked_take_shots (lines : List Text) :
    masked (followOutside screenshot? isScreenshot (masked lines)) =
      followTagged screenshot? isScreenshot (masked lines) :=
  masked_follow_outside screenshot? isScreenshot lines fun _ _ added =>
    not_opening_of_calls (calls_screenshot added)

theorem outside_insert {added lines : List Text} (contained : SelfContained added) {line : Text}
    (outside : Outside (insertBlock added lines) line) : Outside lines line ∨ Blank line := by
  obtain ⟨above, below, inside, before, after, -, -⟩ := masked_insert_block contained lines
  rw [Outside, after, List.mem_append, List.mem_append, List.mem_cons] at outside
  rw [Outside, before, List.mem_append]
  rcases outside with old | new | empty | old
  · exact .inl (.inl old)
  · simp at new
  · rw [(Prod.mk.inj empty).1]
    exact .inr blank_nil
  · exact .inl (.inr old)

/-- The actions after which every line outside blocks has such an origin. -/
def IsLater (action : Action) : Prop :=
  action ≠ .normalize ∧ action ≠ .direct ∧ action ≠ .pause ∧ action ≠ .exit

theorem origin_of_outside (options : Options) (stamp : Text) (plain : Unbroken stamp)
    (lines : List Text) (unbroken : AllUnbroken lines) (action : Action) (later : IsLater action)
    (line : Text) (outside : Outside (action.perform options stamp lines) line) :
    OutsideOrigin lines action line := by
  obtain ⟨notNormalize, notDirect, notPause, notExit⟩ := later
  cases action with
  | normalize => exact absurd rfl notNormalize
  | direct => exact absurd rfl notDirect
  | pause => exact absurd rfl notPause
  | exit => exact absurd rfl notExit
  | support feature =>
      rw [Action.perform] at outside
      split at outside
      · exact .kept outside
      · exact (outside_insert (contained_support options stamp plain lines feature) outside).elim
          .kept .blank
  | wrap =>
      rw [Action.perform, flow_control_eq] at outside
      split at outside
      next wrapping =>
        rcases outside_of_arrange lines _ _ wrapping line outside with old | shown |
          ⟨other, old, same⟩
        · exact .kept old
        · exact .wrapper rfl shown
        · exact .indented other old same
      next => exact .kept outside
  | exchange edit =>
      obtain ⟨other, old, same⟩ := outside_edit (plain_exchanged edit unbroken) outside
      exact .edited edit rfl other old same
  | cleanUp =>
      rw [Outside, Action.perform, masked_insert_cleanup] at outside
      rcases guard_tagged_cases none outside with old | ⟨other, -, same⟩
      · exact .kept old
      · exact .cleanup _ (blank_indentation other.1) (Prod.mk.inj same).1
  | logFiles =>
      rw [Outside, Action.perform, masked_log_files] at outside
      rcases follow_tagged_cases _ _ outside with old | ⟨other, old, added⟩
      · exact .kept old
      · exact .logged other old added
  | takeShots =>
      rw [Outside, Action.perform, masked_take_shots] at outside
      rcases follow_tagged_cases _ _ outside with old | ⟨other, old, added⟩
      · exact .kept old
      · exact .shot other old added

/-! Lines that stay away. -/

/-- No line outside blocks passes the check. -/
def NoneOutside (check : Text → Bool) (lines : List Text) : Prop :=
  ∀ line, Outside lines line → check line = false

/-- What holds of each line outside blocks goes by those lines, where it holds of an empty one. -/
theorem outside_ignores_end {property : Text → Prop} (empty : property []) :
    IgnoresEnd fun lines => ∀ line, Outside lines line → property line := by
  intro lines
  have split := tag_from_append 0 lines [[]]
  simp only [Outside, masked_eq, split, List.mem_append]
  constructor
  · exact fun all line old => all line (.inl old)
  · rintro all line (old | new)
    · exact all line old
    · simp only [tagFrom, List.mem_singleton, Prod.mk.injEq] at new
      rw [new.1]
      exact empty

theorem none_outside_ignores_end {check : Text → Bool} (empty : check [] = false) :
    IgnoresEnd (NoneOutside check) :=
  @outside_ignores_end (check · = false) empty

theorem floating_bare_end : Floats bareEnd ∧ Reaches bareEnd :=
  floating_append (floating_append
    (floating_of_takes_word (by decide) (takes_word_captured_start "END")) _) _

theorem no_end_of_blank (line : Text) (blank : Blank line) : bareEnd.startsText line = false := by
  cases ends : bareEnd.startsText line with
  | false => rfl
  | true =>
      exact absurd blank (not_blank_of_leads (by decide) (leads_of_starts led_bare_end ends))

/-- An end stays away once it is replaced. -/
theorem no_end_kept {options : Options} {stamp : Text} (plain : Unbroken stamp) (action : Action)
    (later : IsLater action) : KeptBy options stamp (NoneOutside bareEnd.startsText) action := by
  intro lines unbroken none line outside
  have quiet : ∀ name, Calls name line → bareEnd.startsText line = false := fun name calls =>
    not_starts_of_leads led_bare_end (by decide) (leads_of_calls calls)
  rcases origin_of_outside options stamp plain lines unbroken action later line outside with
    old | blank | ⟨-, shown⟩ | ⟨other, old, rfl⟩ | ⟨edit, -, other, old, rfl⟩ | ⟨left, blank, rfl⟩ |
      ⟨other, old, added⟩ | ⟨other, old, added⟩
  · exact none line old
  · exact no_end_of_blank line blank
  · exact wrapper_line_no_end line shown
  · rcases indent_line_cases other with ⟨-, same⟩ | same
    · rw [same]
      exact no_end_of_blank [] blank_nil
    · rw [same, starts_text_indent floating_bare_end _ _ blank_indent]
      exact none other old
  · rw [Edit.starts_text_apply steady_bare_end]
    exact none other old
  · exact quiet _ (calls_cleanup left blank)
  · exact quiet _ (calls_file_log added)
  · exact quiet _ (calls_screenshot added)

theorem no_end_after_exit {options : Options} {stamp : Text} (lines : List Text)
    (unbroken : AllUnbroken lines) :
    NoneOutside bareEnd.startsText (Action.exit.perform options stamp lines) := by
  intro line outside
  obtain ⟨other, old, rfl⟩ := outside_edit (plain_replaced_end unbroken) outside
  rcases replace_end_cases other (unbroken other (mem_of_mem_masked old)) with
    ⟨stays, same⟩ | ⟨-, left, more, blank, -, same⟩
  · rw [same]
    exact stays
  · rw [same]
    exact not_starts_of_leads led_bare_end (by decide)
      (leads_of_calls (calls_exit left blank))

/-! Requests for a file number. -/

theorem lacks_freefile_blank (line : Text) (blank : Blank line) : lacksFreefile [] line = true := by
  have same : lacksFreefile [] (line ++ []) = lacksFreefile [] [] := lacks_freefile_blanks blank
  rw [List.append_nil] at same
  rw [same]
  decide

/-- The file name in an open statement stands between blanks, so its words are words of the
statement. -/
theorem lacks_freefile_file_log {line other : Text} (added : fileLog? line = some other)
    (lacks : lacksFreefile [] line = true) : lacksFreefile [] other = true := by
  obtain ⟨-, left, form, gap, name, c, more, rfl, blank, -, nonempty, blankGap, space, rfl⟩ :=
    file_log_some added
  have stop := not_word_char_of_space c space
  have nameLacks : lacksFreefile [] name = true := by
    obtain ⟨others, d, rfl⟩ := List.eq_nil_or_concat gap |>.resolve_left nonempty
    have break' := not_word_char_of_space d (blankGap d (by simp))
    have shape : left ++ (form ++ (others.concat d ++ (name ++ c :: more))) =
        (left ++ (form ++ others)) ++ d :: (name ++ c :: more) := by simp
    rw [shape] at lacks
    exact (lacks_word_behind stop (lacks_word_behind break' lacks).2).1
  have shape : left ++ fileLogCall ++ ", \"Opened file: \" + ".toList ++ name ++ [')'] =
      left ++ ("CALL LogMessage(\"FILE\", \"Opened file: \" +".toList ++ ' ' :: (name ++ ')' :: [])) := by
    have front : fileLogCall ++ ", \"Opened file: \" + ".toList =
        "CALL LogMessage(\"FILE\", \"Opened file: \" +".toList ++ [' '] := by decide
    rw [List.append_assoc left, front]
    simp
  rw [shape, lacks_freefile_blanks blank]
  refine lacks_freefile_break ' ' _ _ (by decide) (by decide) ?_
  exact lacks_freefile_break ')' _ _ (by decide) nameLacks (by decide)

/-- Whether a line may ask for a file number. -/
def asksForFile (line : Text) : Bool := !lacksFreefile [] line

/-- No request for a file number comes back once all are replaced. -/
theorem no_request_kept {options : Options} {stamp : Text} (plain : Unbroken stamp)
    (action : Action) (later : IsLater action) (moves : action ≠ .wrap)
    (other : action ≠ .exchange .freefile) :
    KeptBy options stamp (NoneOutside asksForFile) action := by
  intro lines unbroken none line outside
  have known : ∀ line, Outside lines line → lacksFreefile [] line = true := fun line old => by
    simpa [asksForFile] using none line old
  rw [asksForFile, Bool.not_eq_false']
  rcases origin_of_outside options stamp plain lines unbroken action later line outside with
    old | blank | ⟨wraps, -⟩ | ⟨other, old, rfl⟩ | ⟨edit, edits, source, old, rfl⟩ |
      ⟨left, blank, rfl⟩ | ⟨source, old, added⟩ | ⟨source, old, added⟩
  · exact known line old
  · exact lacks_freefile_blank line blank
  · exact absurd wraps moves
  · rcases indent_line_cases other with ⟨-, same⟩ | same
    · rw [same]
      exact lacks_freefile_blank [] blank_nil
    · rw [same, lacks_freefile_blanks blank_indent]
      exact known other old
  · refine lacks_freefile_apply edit ?_ source (known source old)
    rintro rfl
    exact other edits
  · rw [lacks_freefile_blanks blank]
    decide
  · exact lacks_freefile_file_log added (known source old)
  · obtain ⟨-, left, more, blank, -, rfl⟩ := screenshot_some added
    rw [lacks_freefile_blanks blank]
    decide

theorem no_request_after_exchange {options : Options} {stamp : Text} (lines : List Text)
    (unbroken : AllUnbroken lines) :
    NoneOutside asksForFile ((Action.exchange .freefile).perform options stamp lines) := by
  intro line outside
  obtain ⟨other, old, rfl⟩ := outside_edit (plain_exchanged .freefile unbroken) outside
  rw [asksForFile, lacks_freefile_tracked]
  rfl

end BasicBench.Instrument
