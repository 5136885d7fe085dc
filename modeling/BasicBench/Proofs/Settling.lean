import BasicBench.Proofs.Idempotence

/-!
Passes on what they have written themselves. What an action of a pass puts in place stays there
while the pass goes on, and what it looks for is gone for good: no later action of the same pass
brings it back. So a pass has nothing left to do in its own output. The graphics pass is the only
exception, since the arguments that it copies may hold further calls.
-/

set_option autoImplicit false

namespace BasicBench.Instrument

open Text Pattern

/-! Waits. -/

/-- Behind nothing but blank lines comes a wait for a key outside blocks. -/
def WaitFirst (tagged : List (Text × Bool)) : Prop :=
  ∃ gap wait after, tagged = gap ++ (wait, false) :: after ∧ (∀ entry ∈ gap, Blank entry.1) ∧
    sleepStatement.startsText wait = true

theorem wait_first_cons (line : Text) (inside : Bool) (rest : List (Text × Bool)) :
    WaitFirst ((line, inside) :: rest) ↔
      (inside = false ∧ sleepStatement.startsText line = true) ∨ (Blank line ∧ WaitFirst rest) := by
  constructor
  · intro first
    obtain ⟨gap, wait, after, split, blank, waits⟩ := first
    cases gap with
    | nil =>
        rw [List.nil_append, List.cons.injEq, Prod.mk.injEq] at split
        left
        rw [split.1.1]
        exact ⟨split.1.2, waits⟩
    | cons entry gap =>
        rw [List.cons_append, List.cons.injEq] at split
        rw [List.forall_mem_cons, ← split.1] at blank
        right
        exact ⟨blank.1, gap, wait, after, split.2, blank.2, waits⟩
  · intro either
    rcases either with ⟨outside, waits⟩ | ⟨empty, gap, wait, after, split, blank, waits⟩
    · rw [outside]
      exact ⟨[], line, rest, rfl, by simp, waits⟩
    · rw [split]
      refine ⟨(line, inside) :: gap, wait, after, rfl, ?_, waits⟩
      rw [List.forall_mem_cons]
      exact ⟨empty, blank⟩

theorem not_wait_first_of_calls {name line : Text} (calls : Calls name line)
    (rest : List (Text × Bool)) : ¬WaitFirst ((line, false) :: rest) := by
  have leads := leads_of_calls calls
  rw [wait_first_cons, not_or]
  constructor
  · intro both
    rw [not_starts_of_leads led_sleep (by decide) leads] at both
    exact absurd both.2 (by decide)
  · intro both
    exact not_blank_of_leads (by decide) leads both.1

/-- A pause in place of each prompt that has a wait, the blank lines between them gone with the
wait; a prompt that stays has none. -/
inductive Paused : List (Text × Bool) → List (Text × Bool) → Prop
  | done : Paused [] []
  | keep (line : Text) (inside : Bool) (rest out : List (Text × Bool))
      (alone : ¬HeadWaits line inside rest) (next : Paused rest out) :
      Paused ((line, inside) :: rest) ((line, inside) :: out)
  | pause (line indent wait : Text) (gap : List Text) (rest out : List (Text × Bool))
      (prompts : promptStatement.startsText line = true) (blank : Blank indent)
      (opens : ∃ more, line = indent ++ more) (empty : ∀ other ∈ gap, Blank other)
      (waits : sleepStatement.startsText wait = true) (next : Paused rest out) :
      Paused ((line, false) :: (gap.map (·, false) ++ (wait, false) :: rest))
        ((pauseCall indent, false) :: out)

theorem paused_of_replace (depth : Nat) (tagged : List (Text × Bool))
    (nested : Nested depth tagged) : Paused tagged (tagFrom depth (replaceWaits tagged)) := by
  fun_induction replaceWaits tagged generalizing depth with
  | case1 => exact .done
  | case2 line inside rest none induction =>
      rw [nested_cons_iff] at nested
      rw [tagFrom, nested.1]
      refine .keep line inside rest _ ?_ (induction _ nested.2)
      intro heads
      have prompts := heads.2.1
      rw [promptIndent?, heads.1, if_neg (by decide), Option.map_eq_none_iff] at none
      rw [startsText, none] at prompts
      exact absurd prompts (by decide)
  | case3 line inside rest indent found empty induction =>
      rw [nested_cons_iff] at nested
      rw [tagFrom, nested.1]
      refine .keep line inside rest _ ?_ (induction _ nested.2)
      intro heads
      obtain ⟨-, -, gap, wait, after, split, blank, waits⟩ := heads
      rw [split, skip_blank_to_wait blank waits] at empty
      exact absurd empty (by simp)
  | case4 line inside rest indent found next nextInside after skipped waits induction =>
      obtain ⟨outside, prompts, blank, opens⟩ := prompt_indent_some found
      rw [Bool.and_eq_true, Bool.not_eq_true'] at waits
      rw [outside, nested_cons_iff] at nested
      have closed : depth = 0 := ((outside_iff depth line).mp nested.1).1
      have later := nested.2
      rw [depth_after_outside depth line nested.1] at later
      obtain ⟨gap, split, blanks⟩ := skip_blank_split 0 rest rfl later
      rw [split, skipped, waits.1, nested_outside_lines gap fun other member =>
        not_opening_of_blank other (blanks other member), nested_cons_iff] at later
      have behind := later.2
      rw [depth_after_outside 0 next later.1] at behind
      have side : isInside 0 (pauseCall indent) = false :=
        (outside_iff 0 _).mpr ⟨rfl, not_opening_of_calls (calls_pause indent blank)⟩
      rw [closed, tagFrom, side, depth_after_outside 0 _ side, outside, split, skipped, waits.1]
      exact .pause line indent next gap after _ prompts blank opens blanks waits.2
        (induction 0 behind)
  | case5 line inside rest indent found next nextInside after skipped other induction =>
      rw [nested_cons_iff] at nested
      rw [tagFrom, nested.1]
      refine .keep line inside rest _ ?_ (induction _ nested.2)
      intro heads
      obtain ⟨-, -, gap, wait, behind, split, blank, waits⟩ := heads
      rw [split, skip_blank_to_wait blank waits, List.cons.injEq, Prod.mk.injEq] at skipped
      rw [← skipped.1.1, ← skipped.1.2, waits] at other
      exact absurd other (by decide)

/-- Behind the replacement no prompt has a wait, and no wait has come to the front. -/
theorem no_wait_of_paused {before after : List (Text × Bool)} (paused : Paused before after) :
    ¬PromptWaits after ∧ (WaitFirst after → WaitFirst before) := by
  induction paused with
  | done =>
      constructor
      · intro waits
        obtain ⟨above, line, gap, wait, rest, split, -⟩ := waits
        simp at split
      · exact id
  | keep line inside rest out alone _ induction =>
      constructor
      · rw [prompt_waits_cons, not_or]
        refine ⟨?_, induction.1⟩
        intro heads
        exact alone ⟨heads.1, heads.2.1, induction.2 heads.2.2⟩
      · rw [wait_first_cons, wait_first_cons]
        exact Or.imp_right (And.imp_right induction.2)
  | pause line indent wait gap rest out _ blank _ _ _ _ induction =>
      have calls := calls_pause indent blank
      constructor
      · rw [prompt_waits_cons, not_or]
        refine ⟨?_, induction.1⟩
        intro heads
        have prompts := heads.2.1
        rw [not_starts_of_leads led_prompt (by decide) (leads_of_calls calls)] at prompts
        exact absurd prompts (by decide)
      · intro first
        exact absurd first (not_wait_first_of_calls calls _)

theorem prompt_waits_concat_blank (tagged : List (Text × Bool)) (inside : Bool) :
    PromptWaits (tagged ++ [([], inside)]) ↔ PromptWaits tagged := by
  constructor
  · intro waits
    obtain ⟨above, line, gap, wait, rest, split, prompts, blank, sleeps⟩ := waits
    rcases List.eq_nil_or_concat rest with none | ⟨others, last, whole⟩
    · have shape : above ++ (line, false) :: (gap ++ (wait, false) :: rest) =
          (above ++ (line, false) :: gap) ++ [(wait, false)] := by simp [none]
      rw [shape] at split
      have same := (List.append_inj' split rfl).2
      rw [List.cons.injEq, Prod.mk.injEq] at same
      rw [← same.1.1] at sleeps
      exact absurd sleeps (by decide)
    · have shape : above ++ (line, false) :: (gap ++ (wait, false) :: rest) =
          (above ++ (line, false) :: (gap ++ (wait, false) :: others)) ++ [last] := by simp [whole]
      rw [shape] at split
      exact ⟨above, line, gap, wait, others, (List.append_inj' split rfl).1, prompts, blank, sleeps⟩
  · intro waits
    obtain ⟨above, line, gap, wait, rest, split, prompts, blank, sleeps⟩ := waits
    exact ⟨above, line, gap, wait, rest ++ [([], inside)], by simp [split], prompts, blank, sleeps⟩

theorem no_wait_ignores_end : IgnoresEnd fun lines => ¬PromptWaits (masked lines) := by
  intro lines
  obtain ⟨inside, split⟩ := masked_concat_blank lines
  beta_reduce
  rw [split, prompt_waits_concat_blank]

theorem no_wait_after_pause {options : Options} {stamp : Text} (lines : List Text) :
    ¬PromptWaits (masked (Action.pause.perform options stamp lines)) := by
  rw [Action.perform, masked_eq (replaceWaits _)]
  exact (no_wait_of_paused (paused_of_replace 0 (masked lines) (nested_masked lines))).1

/-- An edit that makes no prompt, no wait and no blank line brings no prompt to its wait. -/
theorem prompt_waits_of_edit {edit : Text → Text} {tagged : List (Text × Bool)}
    (faithful : ∀ line, (line, false) ∈ tagged →
      (promptStatement.startsText (edit line) = true → promptStatement.startsText line = true) ∧
      (sleepStatement.startsText (edit line) = true → sleepStatement.startsText line = true) ∧
      (Blank (edit line) → Blank line))
    (waits : PromptWaits (tagged.map fun (line, inside) =>
      (if inside then line else edit line, inside))) : PromptWaits tagged := by
  obtain ⟨above, line, gap, wait, rest, split, prompts, blank, sleeps⟩ := waits
  obtain ⟨first, others, rfl, -, split⟩ := List.map_eq_append_iff.mp split
  obtain ⟨⟨prompt, promptSide⟩, others, rfl, same, split⟩ := List.map_eq_cons_iff.mp split
  obtain ⟨between, others, rfl, sameGap, split⟩ := List.map_eq_append_iff.mp split
  obtain ⟨⟨sleep, sleepSide⟩, others, rfl, sameWait, -⟩ := List.map_eq_cons_iff.mp split
  obtain ⟨same, promptSide⟩ := Prod.mk.inj same
  obtain ⟨sameWait, sleepSide⟩ := Prod.mk.inj sameWait
  subst promptSide sleepSide
  rw [if_neg (by decide)] at same sameWait
  rw [← same] at prompts
  rw [← sameWait] at sleeps
  refine ⟨first, prompt, between, sleep, others, rfl, (faithful _ (by simp)).1 prompts, ?_,
    (faithful _ (by simp)).2.1 sleeps⟩
  intro entry member
  obtain ⟨other, inside⟩ := entry
  rw [← sameGap, List.forall_mem_map] at blank
  have empty := blank _ member
  cases inside with
  | true => exact empty
  | false => exact (faithful other (by simp [member])).2.2 empty

theorem no_wait_after_exit {options : Options} {stamp : Text} :
    KeptBy options stamp (fun lines => ¬PromptWaits (masked lines)) .exit := by
  intro lines unbroken none waits
  rw [Action.perform, masked_edit_outside replaceEnd lines (plain_replaced_end unbroken)] at waits
  refine none (prompt_waits_of_edit ?_ waits)
  intro line outside
  rcases replace_end_cases line (unbroken line (mem_of_mem_masked outside)) with
    ⟨-, same⟩ | ⟨-, left, more, blank, -, same⟩
  · rw [same]
    exact ⟨id, id, id⟩
  · have leads := leads_of_calls (calls_exit left blank)
    rw [same, not_starts_of_leads led_prompt (by decide) leads,
      not_starts_of_leads led_sleep (by decide) leads]
    refine ⟨fun never => absurd never (by decide), fun never => absurd never (by decide), ?_⟩
    intro empty
    exact absurd empty (not_blank_of_leads (by decide) leads)

/-! What a pass finds in its own output. -/

section Output

variable {options : Options} {stamp program : Text} {revision : Revision} {feature : Feature}

theorem block_after_pass (plain : Unbroken stamp) (owns : feature ≠ .flowControl)
    (ran : runPass? options stamp feature program = some revision) :
    hasBlock feature (splitLines revision.program) = true := by
  have counted := marker_count_pass plain owns ran
  rw [if_pos rfl, markerCount] at counted
  rw [has_block_iff]
  omega

theorem directive_after_pass (plain : Unbroken stamp)
    (ran : runPass? options stamp .console program = some revision) :
    (splitLines revision.program).any consoleDirective.startsText = true := by
  have counted := directive_count_pass plain ran
  rw [if_pos rfl, directiveCount] at counted
  rw [List.any_eq_true, ← List.countP_pos_iff]
  omega

theorem no_console_off_after_pass (plain : Unbroken stamp)
    (ran : runPass? options stamp .console program = some revision) :
    (splitLines revision.program).countP consoleOff.startsText = 0 := by
  have others : ∀ action ∈ [Action.direct, .support .console, .pause] ++
      (if options.autoExit then [Action.exit] else []), action ≠ .normalize := by
    cases options.autoExit <;> simp
  have row : actionsOf options .console = [] ++ .normalize ::
      ([.direct, .support .console, .pause] ++
        (if options.autoExit then [Action.exit] else [])) := rfl
  exact run_pass_establishes plain
    (count_ignores_end (standing_console_off.blank [] blank_nil) (· = 0)) row
    (fun lines _ => console_off_after_normalize lines)
    (fun action member => console_off_kept plain action (others action member)) ran

theorem no_wait_after_pass (plain : Unbroken stamp)
    (ran : runPass? options stamp .console program = some revision) :
    ¬PromptWaits (masked (splitLines revision.program)) := by
  have row : actionsOf options .console = [.normalize, .direct, .support .console] ++ .pause ::
      (if options.autoExit then [Action.exit] else []) := rfl
  refine run_pass_establishes plain no_wait_ignores_end row
    (fun lines _ => no_wait_after_pause lines) ?_ ran
  intro action member
  split at member
  · rw [List.mem_singleton.mp member]
    exact no_wait_after_exit
  · exact absurd member List.not_mem_nil

theorem no_end_after_pass (plain : Unbroken stamp) (exits : options.autoExit = true)
    (ran : runPass? options stamp .console program = some revision) :
    NoneOutside bareEnd.startsText (splitLines revision.program) := by
  have row : actionsOf options .console =
      [.normalize, .direct, .support .console, .pause] ++ .exit :: [] := by
    rw [actionsOf, exits, if_pos rfl]
  exact run_pass_establishes plain (none_outside_ignores_end (no_end_of_blank [] blank_nil)) row
    no_end_after_exit (by simp) ran

theorem normal_after_pass (plain : Unbroken stamp)
    (ran : runPass? options stamp .console program = some revision) :
    ∀ action ∈ [Action.normalize, .direct],
      Idle options stamp (splitLines revision.program) action := by
  rw [List.forall_mem_cons, List.forall_mem_singleton]
  refine ⟨normalize_rests (no_console_off_after_pass plain ran), ?_⟩
  rw [Idle, Action.perform, if_pos (directive_after_pass plain ran)]

theorem console_rests (plain : Unbroken stamp)
    (ran : runPass? options stamp .console program = some revision) :
    IdlePass options stamp (splitLines revision.program) .console := by
  have first := normal_after_pass plain ran
  have waits := replace_waits_rests_iff (masked (splitLines revision.program))
  rw [lines_of_masked] at waits
  rw [List.forall_mem_cons, List.forall_mem_singleton] at first
  rw [IdlePass, actionsOf, List.forall_mem_append, List.forall_mem_cons, List.forall_mem_cons,
    List.forall_mem_cons, List.forall_mem_singleton]
  refine ⟨⟨first.1, first.2, support_rests (block_after_pass plain (by simp) ran),
    waits.mpr (no_wait_after_pass plain ran)⟩, ?_⟩
  intro action member
  split at member
  next exits =>
    rw [List.mem_singleton.mp member]
    exact exit_rests (all_unbroken_split _) (no_end_after_pass plain exits ran)
  next => exact absurd member List.not_mem_nil

theorem flow_control_rests (plain : Unbroken stamp)
    (ran : runPass? options stamp .flowControl program = some revision) :
    IdlePass options stamp (splitLines revision.program) .flowControl := by
  have row : actionsOf options .flowControl = [] ++ .wrap :: [] := rfl
  have wrapped : Wrapped (splitLines revision.program) := run_pass_establishes plain
    wrapped_ignores_end row (fun lines _ => wrapped_after_wrap lines) (by simp) ran
  rw [IdlePass, actionsOf, List.forall_mem_singleton, Idle, Action.perform, flow_control_eq,
    (wraps_iff _).mpr wrapped, if_neg (by decide)]

theorem resources_rest (plain : Unbroken stamp)
    (ran : runPass? options stamp .resources program = some revision) :
    IdlePass options stamp (splitLines revision.program) .resources := by
  have exchange : actionsOf options .resources =
      [.support .resources] ++ .exchange .freefile :: [.cleanUp] := rfl
  have cleanUp : actionsOf options .resources =
      [.support .resources, .exchange .freefile] ++ .cleanUp :: [] := rfl
  have tracked : NoneOutside asksForFile (splitLines revision.program) := by
    refine run_pass_establishes plain (none_outside_ignores_end (by decide)) exchange
      no_request_after_exchange ?_ ran
    rw [List.forall_mem_singleton]
    exact no_request_kept plain .cleanUp (by simp [IsLater]) (by simp) (by simp)
  have guarded : Guarded (splitLines revision.program) :=
    run_pass_establishes plain guarded_ignores_end cleanUp
      (fun lines _ => guarded_after_cleanup lines) (by simp) ran
  rw [IdlePass, actionsOf, List.forall_mem_cons, List.forall_mem_cons, List.forall_mem_singleton]
  refine ⟨support_rests (block_after_pass plain (by simp) ran), ?_, insert_cleanup_rests guarded⟩
  rw [exchange_rests_iff]
  exact requests_tracked tracked

theorem logging_rests (plain : Unbroken stamp)
    (ran : runPass? options stamp .logging program = some revision) :
    IdlePass options stamp (splitLines revision.program) .logging := by
  have row : actionsOf options .logging = [.support .logging] ++ .logFiles :: [] := rfl
  have answered : Answered openStatement.startsText isFileLog (splitLines revision.program) :=
    run_pass_establishes plain (answered_ignores_end open_of_blank) row
      (fun lines _ => logged_after_log_files lines) (by simp) ran
  rw [IdlePass, actionsOf, List.forall_mem_cons, List.forall_mem_singleton]
  exact ⟨support_rests (block_after_pass plain (by simp) ran),
    follow_outside_rests (fun _ _ added => (file_log_some added).1) answered⟩

theorem screenshots_rest (plain : Unbroken stamp)
    (ran : runPass? options stamp .screenshots program = some revision) :
    IdlePass options stamp (splitLines revision.program) .screenshots := by
  have row : actionsOf options .screenshots = [.support .screenshots] ++ .takeShots :: [] := rfl
  have answered : Answered drawStatement.startsText isScreenshot (splitLines revision.program) :=
    run_pass_establishes plain (answered_ignores_end (by decide)) row
      (fun lines _ => shot_after_take_shots lines) (by simp) ran
  rw [IdlePass, actionsOf, List.forall_mem_cons, List.forall_mem_singleton]
  exact ⟨support_rests (block_after_pass plain (by simp) ran),
    follow_outside_rests (fun _ _ added => (screenshot_some added).1) answered⟩

/-! The second run of a pass. -/

/-- The block of a pass is there when it runs again, so nothing has to be built. -/
theorem pass_runs_again (plain : Unbroken stamp)
    (ran : runPass? options stamp feature program = some revision) :
    ∃ again, runPass? options stamp feature revision.program = some again := by
  by_cases shows : feature = .console
  · subst shows
    have first := normal_after_pass plain ran
    rw [List.forall_mem_cons, List.forall_mem_singleton] at first
    have present : hasBlock .console
        (performAll options stamp [.normalize, .direct] (splitLines revision.program)) = true := by
      rw [performAll, List.foldl_cons, List.foldl_cons, List.foldl_nil, first.1, first.2]
      exact block_after_pass plain (by simp) ran
    exact pass_of_draft ((console_lines_iff options stamp _ _).mpr ⟨.inl present, rfl⟩)
  · obtain ⟨draft, drafted⟩ :=
      draft_of_other_pass options stamp (splitLines revision.program) shows
    exact pass_of_draft drafted

/-- A pass returns its own output without a report exactly when none of its actions changes a line
of it. -/
theorem settles_iff (plain : Unbroken stamp)
    (ran : runPass? options stamp feature program = some revision) :
    runPass? options stamp feature revision.program = some ⟨revision.program, []⟩ ↔
      IdlePass options stamp (splitLines revision.program) feature := by
  obtain ⟨again, ranAgain⟩ := pass_runs_again plain ran
  rw [← pass_silent_iff ranAgain, ranAgain, Option.some.injEq]
  constructor
  · intro same
    rw [same]
  · intro silent
    have regular : Plain revision.program ∨ feature = .flowControl := by
      by_cases flow : feature = .flowControl
      · exact .inr flow
      · exact .inl (plain_after_pass plain ran (.inr flow))
    have kept := silent_pass_keeps ranAgain regular silent
    rw [← kept, ← silent]

end Output

/-- Every pass but the graphics pass returns its own output as it is and reports no change. -/
theorem pass_settles (options : Options) (stamp program : Text) (feature : Feature)
    (revision : Revision) (plain : Unbroken stamp) (other : feature ≠ .graphics)
    (ran : runPass? options stamp feature program = some revision) :
    runPass? options stamp feature revision.program = some ⟨revision.program, []⟩ := by
  rw [settles_iff plain ran]
  cases feature with
  | console => exact console_rests plain ran
  | flowControl => exact flow_control_rests plain ran
  | resources => exact resources_rest plain ran
  | graphics => exact absurd rfl other
  | logging => exact logging_rests plain ran
  | screenshots => exact screenshots_rest plain ran

/-- Two prompts before one wait, a program end and a console that is switched off. -/
def crowdedWaits : Text :=
  "$CONSOLE:OFF\nPRINT \"Press any key\"\nPRINT \"Press any key\"\n\nSLEEP\nSLEEP\nEND".toList

theorem crowded_waits_settle : ∃ revision,
    runPass? {} [] .console crowdedWaits = some revision ∧ revision.program ≠ crowdedWaits ∧
    runPass? {} [] .console revision.program = some ⟨revision.program, []⟩ := by
  have built : (consoleBlock? ({} : Options).timeout ({} : Options).autoExit).isSome = true := by
    decide +kernel
  have drafted : passDraft? {} [] (splitLines crowdedWaits) .console = some _ :=
    (console_lines_iff {} [] (splitLines crowdedWaits) _).mpr ⟨.inr built, rfl⟩
  obtain ⟨revision, ran⟩ := pass_of_draft drafted
  have settles := pass_settles {} [] crowdedWaits .console revision unbroken_nil (by decide) ran
  refine ⟨revision, ran, ?_, settles⟩
  intro same
  have none := no_console_off_after_pass unbroken_nil ran
  rw [same] at none
  exact absurd none (by decide +kernel)

end BasicBench.Instrument
