import BasicBench.Proofs.BracketEdits
import BasicBench.Proofs.Keeping
import BasicBench.Proofs.Outside
import BasicBench.Proofs.Regrouping

/-!
What the actions do to the brackets of a program. The statements that are put in, taken out or
exchanged have no brackets, and those of a block match among themselves. So every action but the
wrapping leaves the loops and procedures of a program as they are.
-/

set_option autoImplicit false

namespace BasicBench.Check

open Text Pattern Instrument

/-! Lines without brackets. -/

theorem quiet_of_calls {name line : Text} (calls : Calls name line) : bracket? line = none :=
  quiet_of_leads (by decide) (leads_of_calls calls)

theorem quiet_of_starts {word : String} {pattern : Pattern} (led : LedBy word pattern)
    (apart : isQuietWord word.toList = true) {line : Text}
    (starts : pattern.startsText line = true) : bracket? line = none :=
  quiet_of_leads apart (leads_of_starts led starts)

theorem directive_quiet : bracket? "$CONSOLE".toList = none := by decide +kernel

theorem bracket_normalize_line (line : Text) :
    bracket? (normalizeLine line) = bracket? line := by
  rw [normalizeLine]
  split
  next switches =>
    rw [quiet_of_starts led_console_off (by decide) switches, directive_quiet]
  next => rfl

theorem bracket_replace_end {line : Text} (unbroken : Unbroken line) :
    bracket? (replaceEnd line) = bracket? line := by
  rcases replace_end_cases line unbroken with ⟨-, same⟩ | ⟨ends, left, more, blank, -, same⟩
  · rw [same]
  · rw [same, quiet_of_end ends, quiet_of_calls (calls_exit left blank)]

/-! Whole programs. -/

theorem matched_insert_block {added : List Text} (sound : Sound added) (lines : List Text) :
    Matched (brackets (insertBlock added lines)) ↔ Matched (brackets lines) := by
  rw [insertBlock, List.append_assoc, List.append_assoc, brackets_append, brackets_append,
    matched_insert _ sound.matched, List.singleton_append,
    brackets_cons_quiet (quiet_of_blank blank_nil), ← brackets_append, List.take_append_drop]

/-- Every action leaves the brackets alone, but the wrapping and the insertion of a block. -/
theorem brackets_perform (options : Options) (stamp : Text) {lines : List Text}
    (unbroken : AllUnbroken lines) {action : Action} (moves : action ≠ .wrap)
    (adds : ∀ feature, action ≠ .support feature) :
    brackets (action.perform options stamp lines) = brackets lines := by
  have texts := lines_of_masked lines
  cases action with
  | normalize => exact brackets_map fun line _ => bracket_normalize_line line
  | direct =>
      rw [Action.perform]
      split
      · rfl
      · exact brackets_cons_quiet directive_quiet lines
  | support feature => exact absurd rfl (adds feature)
  | pause =>
      have same := readings_pauses (masked_replace_waits lines) (fun _ => quiet_of_blank)
        (fun _ => quiet_of_starts led_prompt (by decide))
        (fun _ => quiet_of_starts led_sleep (by decide))
        (fun left blank => quiet_of_calls (calls_pause left blank))
      rwa [lines_of_masked, texts] at same
  | exit =>
      exact readings_edit_outside fun line outside =>
        bracket_replace_end (unbroken line (mem_of_mem_masked outside))
  | wrap => exact absurd rfl moves
  | exchange edit => exact readings_edit_outside fun line _ => bracket_apply edit line
  | cleanUp =>
      have same := readings_guard (fun left blank => quiet_of_calls (calls_cleanup left blank)) none
        (masked lines)
      rwa [texts] at same
  | logFiles =>
      have same := readings_follow fileLog? isFileLog
        (fun _ _ added => quiet_of_calls (calls_file_log added)) (masked lines)
      rwa [texts] at same
  | takeShots =>
      have same := readings_follow screenshot? isScreenshot
        (fun _ _ added => quiet_of_calls (calls_screenshot added)) (masked lines)
      rwa [texts] at same

/-- Every action but the wrapping leaves it open whether the brackets match. -/
theorem matched_perform (options : Options) {stamp : Text} (quoteless : '"' ∉ stamp)
    {lines : List Text} (unbroken : AllUnbroken lines) {action : Action}
    (other : action ≠ .wrap) :
    Matched (brackets (action.perform options stamp lines)) ↔ Matched (brackets lines) := by
  cases action with
  | support feature =>
      rw [Action.perform]
      split
      · rfl
      · exact matched_insert_block (sound_support_block options quoteless lines feature) lines
  | _ => rw [brackets_perform options stamp unbroken other (by simp)]

end BasicBench.Check
