import BasicBench.Proofs.OutputValidity
import BasicBench.Proofs.QuotedPrompts

/-!
What becomes of prompts and waits in a run. Where prompts stand by themselves, an action other than
those of the console and the flow control leaves them waiting as they do. The console's pass ends
every wait, and the wrapping is the only action that can bring one back.
-/

set_option autoImplicit false

namespace BasicBench.Instrument

open Text Pattern Check

/-- A prompt statement, from its indentation to the blanks behind its quoted text. -/
theorem prompt_shape {line : Text} (prompts : promptStatement.startsText line = true) :
    ∃ left word gap form more tail,
      line = left ++ (word ++ (gap ++ '"' :: (form ++ (more ++ '"' :: tail)))) ∧ Blank left ∧
      SameText "PRINT".toList word ∧ gap ≠ [] ∧ Blank gap ∧
      SameText "Press any key".toList form ∧ '"' ∉ more ∧ Blank tail := by
  rcases (starts_text_iff ..).mp prompts with ⟨piece, rest, rfl, taken⟩
  simp only [promptStatement, takes_append, takes_text_start, takes_capture, takes_blanks,
    takes_blanks1, takes_any_case, takes_one, takes_many, takes_text_end, beq_iff_eq, bne_iff_ne]
    at taken
  rcases taken with ⟨_, _, rfl, ⟨_, tail, rfl, ⟨_, _, rfl, ⟨_, more, rfl, ⟨_, form, rfl,
    ⟨_, _, rfl, ⟨_, gap, rfl, ⟨_, word, rfl, ⟨_, left, rfl, ⟨rfl, -⟩, blank⟩, same⟩, nonempty,
      blankGap⟩, _, rfl, rfl⟩, key⟩, closed⟩, _, rfl, rfl⟩, blankTail⟩, rfl, stop⟩
  refine ⟨left, word, gap, form, more, tail ++ rest, by simp, blank, same, nonempty, blankGap, key,
    fun member => closed _ member rfl, ?_⟩
  rw [blank_append]
  refine ⟨blankTail, ?_⟩
  rcases stop with rfl | rfl
  · exact blank_nil
  · exact List.all_eq_true.mp (by decide)

theorem quotes_of_prompt {line : Text} (prompts : promptStatement.startsText line = true) :
    Quotes line := by
  rcases prompt_shape prompts with ⟨left, word, gap, form, more, tail, rfl, -, -, -, -, key, -, -⟩
  refine ⟨'"' :: form, ?_, left ++ (word ++ gap), more ++ '"' :: tail, by simp⟩
  rw [show promptLetters = '"' :: "Press any key".toList by decide]
  exact .cons (by decide) key

/-! Edits. -/

theorem steady_sleep : Edit.Steady sleepStatement :=
  Edit.steady_append (Edit.steady_append (Edit.steady_append Edit.steady_text_start
    Edit.steady_blanks) (Edit.steady_any_case "SLEEP" (by decide))) Edit.steady_word_edge

/-- A line with a word in it is not blank. -/
theorem not_blank_of_name {front name tail : Text} (head : NameHead name) :
    ¬Blank (front ++ (name ++ tail)) := by
  rcases head with ⟨c, more, rfl, start⟩
  intro blank
  have space := blank c (by simp)
  rw [not_space_of_name_start c start] at space
  cases space

theorem blank_apply (edit : Edit) (line : Text) : Blank (edit.apply line) ↔ Blank line := by
  rcases edit.apply_exchanges line with same | ⟨kept, old, new, tail, exchange⟩
  · rw [same]
  · rw [exchange.after]
    conv => rhs; rw [exchange.before]
    apply iff_of_false
    · exact not_blank_of_name (edit.name_head_of_call exchange.opensNew)
    · exact not_blank_of_name (edit.name_head_of_key exchange.opensOld)

theorem role_apply (edit : Edit) {line : Text} (tame : Tame line) :
    role? (edit.apply line) = role? line := by
  by_cases quotes : Quotes line
  · rw [(apply_rests_iff edit line).mpr ((tame quotes).fixed edit)]
  · have before : promptStatement.startsText line = false := by
      rw [← Bool.not_eq_true]
      exact mt quotes_of_prompt quotes
    have after : promptStatement.startsText (edit.apply line) = false := by
      rw [← Bool.not_eq_true]
      exact mt quotes_of_prompt (not_quotes_apply edit quotes)
    have empty : isBlank (edit.apply line) = isBlank line := by
      rw [Bool.eq_iff_iff, isBlank, isBlank, List.all_eq_true, List.all_eq_true]
      exact blank_apply edit line
    rw [role?, role?, empty, before, after, Edit.starts_text_apply steady_sleep]

theorem role_normalize (line : Text) : role? (normalizeLine line) = role? line := by
  rw [normalizeLine]
  split
  next off =>
    have directive : role? "$CONSOLE".toList = some .other := by decide +kernel
    rw [directive, role_of_starts led_console_directive (by decide) (directive_of_console_off off)]
  next => rfl

theorem role_replace_end {line : Text} (unbroken : Unbroken line) :
    role? (replaceEnd line) = role? line := by
  rcases replace_end_cases line unbroken with ⟨-, same⟩ | ⟨ends, left, more, blank, -, same⟩
  · rw [same]
  · rw [same, role_of_calls (calls_exit left blank), role_of_starts led_bare_end (by decide) ends]

/-! Actions. -/

/-- The actions that neither replace waits nor wrap. -/
def LeavesWaits (action : Action) : Prop := action ≠ .pause ∧ action ≠ .wrap

/-- Such an action makes and ends no wait. -/
theorem stalls_perform {options : Options} {stamp : Text} (plain : Unbroken stamp) {action : Action}
    (leaves : LeavesWaits action) {lines : List Text} (unbroken : AllUnbroken lines)
    (tame : AllTame lines) :
    Stalls (outsideRoles (action.perform options stamp lines)) ↔ Stalls (outsideRoles lines) := by
  cases action with
  | pause => exact absurd rfl leaves.1
  | wrap => exact absurd rfl leaves.2
  | normalize =>
      rw [Action.perform, outsideRoles, outsideLines, masked_normalize,
        outer_map fun line _ => normalizeLine line, roles_map fun line _ => role_normalize line]
      rfl
  | direct =>
      rw [Action.perform]
      split
      · rfl
      · have directive : role? "$CONSOLE".toList = some .other := by decide +kernel
        rw [outsideRoles, outsideLines, masked_direct, outer_outside, roles_cons, directive,
          Option.toList_some, List.singleton_append, stalls_other]
        rfl
  | support feature =>
      rw [Action.perform]
      split
      · rfl
      · rw [outside_roles_insert (contained_support options stamp plain lines feature)]
  | exit =>
      rw [Action.perform, outside_roles_edit]
      · exact plain_replaced_end unbroken
      · exact fun line old => role_replace_end (unbroken line (mem_of_mem_masked old))
  | exchange edit =>
      rw [Action.perform, outside_roles_edit]
      · exact plain_exchanged edit unbroken
      · exact fun line old => role_apply edit (tame line old)
  | cleanUp =>
      rw [Action.perform, outsideRoles, outsideLines, masked_insert_cleanup]
      exact (stall_guard none (masked lines)).stalls
  | logFiles =>
      rw [Action.perform, outsideRoles, outsideLines, masked_log_files]
      apply (stall_follow isFileLog _ (masked lines)).stalls
      intro line added followed
      exact ⟨role_of_starts led_open (by decide) (file_log_some followed).1,
        role_of_calls (calls_file_log followed)⟩
  | takeShots =>
      rw [Action.perform, outsideRoles, outsideLines, masked_take_shots]
      apply (stall_follow isScreenshot _ (masked lines)).stalls
      intro line added followed
      exact ⟨role_of_draw (screenshot_some followed).1, role_of_calls (calls_screenshot followed)⟩

/-! Stages of a run. -/

section Stages

variable {options : Options} {mode : Mode} {stamp source : Text}

/-- The prompts stand by themselves, and one of them waits just in case. -/
def WaitsIf (condition : Prop) (lines : List Text) : Prop :=
  AllTame lines ∧ (Stalls (outsideRoles lines) ↔ condition)

theorem waits_if_ignores_end (condition : Prop) : IgnoresEnd (WaitsIf condition) := by
  intro lines
  rw [WaitsIf, WaitsIf, tame_ignores_end lines, outside_roles_end]

theorem waits_if_kept (plain : Unbroken stamp) {condition : Prop} {action : Action}
    (leaves : LeavesWaits action) : KeptBy options stamp (WaitsIf condition) action := by
  intro lines unbroken waits
  refine ⟨tame_kept plain action lines unbroken waits.1, ?_⟩
  rw [stalls_perform plain leaves unbroken waits.1]
  exact waits.2

/-- A pass that neither replaces waits nor wraps leaves the waits of a program as they are. -/
theorem waits_if_step (plain : Unbroken stamp) {condition : Prop} {feature : Feature}
    (leaves : ∀ action ∈ actionsOf options feature, LeavesWaits action) {program next : Text}
    (step : Step options mode stamp feature program next)
    (waits : WaitsIf condition (splitLines program)) : WaitsIf condition (splitLines next) := by
  rw [Step] at step
  split at step
  · rcases step with ⟨changes, ran⟩
    exact run_pass_keeps plain (waits_if_ignores_end condition)
      (fun action member => waits_if_kept plain (leaves action member)) ran waits
  · rwa [step]

theorem leaves_waits_behind (options : Options) :
    ∀ feature ∈ [Feature.resources, .graphics, .logging, .screenshots],
      ∀ action ∈ actionsOf options feature, LeavesWaits action := by
  intro feature listed action member
  simp only [List.mem_cons, List.not_mem_nil, or_false] at listed
  rcases listed with rfl | rfl | rfl | rfl <;>
    simp only [actionsOf, List.mem_cons, List.not_mem_nil, or_false] at member <;>
    rcases member with rfl | rfl | rfl <;> simp [LeavesWaits]

theorem unmarked_normalize {lines : List Text} (unmarked : ∀ line ∈ lines, markerKind? line = none) :
    ∀ line ∈ lines.map normalizeLine, markerKind? line = none := by
  intro line member
  rcases List.mem_map.mp member with ⟨other, source, rfl⟩
  rw [normalizeLine]
  split
  · decide
  · exact unmarked other source

theorem unmarked_direct (options : Options) (stamp : Text) {lines : List Text}
    (unmarked : ∀ line ∈ lines, markerKind? line = none) :
    ∀ line ∈ Action.direct.perform options stamp lines, markerKind? line = none := by
  rw [Action.perform]
  split
  · exact unmarked
  · rw [List.forall_mem_cons]
    exact ⟨by decide, unmarked⟩

/-- Behind the console's pass no prompt of an unmarked program waits. -/
theorem no_wait_shown (plain : Unbroken stamp) {lines : List Text} (unbroken : AllUnbroken lines)
    (unmarked : ∀ line ∈ lines, markerKind? line = none) (tame : AllTame lines) :
    WaitsIf False (performAll options stamp (actionsOf options .console) lines) := by
  have kept : ∀ actions : List Action, AllTame (performAll options stamp actions lines) :=
    fun actions => perform_all_keeps plain (fun action _ => tame_kept plain action) unbroken tame
  have whole : ∀ actions : List Action, AllUnbroken (performAll options stamp actions lines) :=
    fun actions => unbroken_perform_all plain actions lines unbroken
  have fronted : Fronted (performAll options stamp [.normalize, .direct, .support .console] lines) := by
    have directed : ∀ line ∈ performAll options stamp [.normalize, .direct] lines,
        markerKind? line = none := unmarked_direct options stamp (unmarked_normalize unmarked)
    change Fronted ((Action.support .console).perform options stamp
      (performAll options stamp [.normalize, .direct] lines))
    rw [Action.perform]
    split
    · exact fronted_of_unmarked directed
    · exact fronted_insert (contained_support options stamp plain _ .console) directed
  have replaced : ¬Stalls (outsideRoles (performAll options stamp
      [.normalize, .direct, .support .console, .pause] lines)) := replaced_waits fronted
  refine ⟨kept _, ?_⟩
  rw [iff_false, actionsOf]
  split
  · rw [perform_all_append]
    change ¬Stalls (outsideRoles (Action.exit.perform options stamp _))
    rw [stalls_perform plain ⟨by decide, by decide⟩ (whole _) (kept _)]
    exact replaced
  · rw [List.append_nil]
    exact replaced

theorem waits_if_shown (plain : Unbroken stamp)
    (unmarked : ∀ line ∈ splitLines source, markerKind? line = none)
    (tame : AllTame (splitLines source)) {shown : Text}
    (step : Step options mode stamp .console source shown) :
    WaitsIf (options.console = false ∧ Stalls (roles (splitLines source))) (splitLines shown) := by
  rw [Step, isSelected] at step
  split at step
  next wanted =>
    rcases step with ⟨changes, ran⟩
    rw [agree_but_end_iff (waits_if_ignores_end _) (run_pass_lines plain ran), wanted]
    simpa using no_wait_shown plain (all_unbroken_split source) unmarked tame
  next skipped =>
    rw [step, eq_false_of_ne_true skipped]
    refine ⟨tame, ?_⟩
    rw [outsideRoles, outsideLines, masked_of_unmarked unmarked, outer_lines]
    simp

/-- A prompt and its wait come together in the main program when it is wrapped. -/
def WaitsMeet (program : Text) : Prop :=
  wraps (splitLines program) = true ∧
    PromptWaits ((Sections.ofLines (splitLines program)).main.map (·, false))

theorem waits_if_wrapped (plain : Unbroken stamp) {condition : Prop} {program next : Text}
    (step : Step options mode stamp .flowControl program next)
    (waits : WaitsIf condition (splitLines program)) :
    WaitsIf (condition ∨ (options.flowControl = true ∧ WaitsMeet program)) (splitLines next) := by
  rw [Step, isSelected] at step
  split at step
  next wanted =>
    rcases step with ⟨changes, ran⟩
    rw [agree_but_end_iff (waits_if_ignores_end _) (run_pass_lines plain ran)]
    change WaitsIf _ (Action.wrap.perform options stamp (splitLines program))
    refine ⟨tame_kept plain .wrap _ (all_unbroken_split program) waits.1, ?_⟩
    have wrapped := stalls_wrap options stamp (splitLines program)
    rw [waits.2] at wrapped
    rw [WaitsMeet, prompt_waits_iff, and_iff_right wanted]
    by_cases before : condition
    · exact iff_of_true (wrapped.1 before) (.inl before)
    · rw [or_iff_right before]
      exact wrapped.2 before
  next skipped =>
    rw [step]
    refine ⟨waits.1, waits.2.trans ?_⟩
    rw [or_iff_left]
    exact fun both => skipped both.1

/-- Where a prompt waits in the output: it did in a source whose console was left alone, or the
wrapping has brought it together with a wait. -/
theorem waits_if_output (plain : Unbroken stamp)
    (unmarked : ∀ line ∈ splitLines source, markerKind? line = none)
    (tame : AllTame (splitLines source)) {out : Instrumented}
    (ran : instrument? options mode stamp source = some out) :
    WaitsIf ((options.console = false ∧ Stalls (roles (splitLines source))) ∨
      (options.flowControl = true ∧
        ∃ shown, Leaves options mode stamp source [.console] shown ∧ WaitsMeet shown))
      (splitLines out.program) := by
  rcases instrument_run ran with ⟨revision, passed, same, -⟩
  have leaves : Leaves options mode stamp source Feature.all out.program :=
    ⟨revision.changes, by rw [← same]; exact passed⟩
  rcases leaves_stages leaves with ⟨shown, wrapped, tracked, drawn, logged, ⟨ranShown, -, -⟩, shows,
    wraps, tracks, draws, logs, shoots⟩
  have later := leaves_waits_behind options
  have meets : (∃ program, Leaves options mode stamp source [.console] program ∧ WaitsMeet program) ↔
      WaitsMeet shown := by
    constructor
    · rintro ⟨program, left, meet⟩
      rwa [leaves_unique ranShown left]
    · exact fun meet => ⟨shown, ranShown, meet⟩
  rw [meets]
  apply waits_if_step plain (later .screenshots (by simp)) shoots
  apply waits_if_step plain (later .logging (by simp)) logs
  apply waits_if_step plain (later .graphics (by simp)) draws
  apply waits_if_step plain (later .resources (by simp)) tracks
  apply waits_if_wrapped plain wraps
  exact waits_if_shown plain unmarked tame shows

end Stages

end BasicBench.Instrument
