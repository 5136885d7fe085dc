import BasicBench.Proofs.Idling
import BasicBench.Proofs.Repetition
import BasicBench.Proofs.Resting
import BasicBench.Proofs.TopLines

/-!
The second run of the whole instrumentation. What the first run puts in place is still there at the
end, so the second one adds nothing: no block, no directive, no wrapper, and no call next to a
statement. What can be left to do is a wait behind a prompt, when the two have come together only
after the console pass, and a call for an image or a point inside or behind another one.
-/

set_option autoImplicit false

namespace BasicBench.Instrument

open Text Pattern

section Counts

variable {options : Options} {stamp : Text} {check : Text → Bool}

theorem count_ignores_end (empty : check [] = false) (holds : Nat → Prop) :
    IgnoresEnd fun lines => holds (lines.countP check) := by
  intro lines
  simp [empty]

theorem count_support (standing : Standing check) (feature : Feature) (lines : List Text) :
    ((Action.support feature).perform options stamp lines).countP check =
      lines.countP check + if hasBlock feature lines then 0
        else (supportBlock options stamp lines feature).countP check := by
  rw [Action.perform]
  split
  · rfl
  · exact standing.count_insert _ lines

/-- No action takes a landmark away. -/
theorem present_kept (landmark : Landmark check) (action : Action) :
    KeptBy options stamp (fun lines => 0 < lines.countP check) action := by
  intro lines unbroken present
  cases action with
  | support feature =>
      rw [count_support landmark.toStanding]
      omega
  | direct =>
      rw [count_direct]
      omega
  | _ =>
      rw [landmark.count_perform options stamp lines unbroken _ (by simp) (by simp)]
      exact present

/-- No action but the console pass's own brings in a directive that switches the console off. -/
theorem console_off_kept (plain : Unbroken stamp) (action : Action) (other : action ≠ .normalize) :
    KeptBy options stamp (fun lines => lines.countP consoleOff.startsText = 0) action := by
  intro lines unbroken none
  have standing := standing_console_off
  cases action with
  | support feature =>
      have absent : (supportBlock options stamp lines feature).countP consoleOff.startsText = 0 := by
        rcases support_block_cases options stamp lines feature plain with support | ⟨empty, -⟩
        · have directives := count_directive_in_support support
          rw [List.countP_eq_zero] at directives ⊢
          exact fun line member off => directives line member (directive_of_console_off off)
        · rw [empty]
          rfl
      rw [count_support standing, none, absent, ite_self]
  | direct =>
      have directive : consoleOff.startsText "$CONSOLE".toList = false := by decide
      rw [count_direct, none, directive]
      simp
  | normalize => exact absurd rfl other
  | _ =>
      rw [standing.count_perform options stamp lines unbroken _ (by simp) (by simp) (by simp)]
      exact none

theorem console_off_after_normalize (lines : List Text) :
    (Action.normalize.perform options stamp lines).countP consoleOff.startsText = 0 := by
  rw [List.countP_eq_zero]
  intro line member
  obtain ⟨other, -, rfl⟩ := List.mem_map.mp member
  rw [normalizeLine]
  split
  · decide
  next stays => exact stays

end Counts

/-! The wrapper. -/

/-- There is a wrapper, or nothing to wrap. -/
def Wrapped (lines : List Text) : Prop :=
  (∃ line ∈ lines, wrapperHead.startsText line = true) ∨ NoMain false (masked lines)

theorem wraps_iff (lines : List Text) : wraps lines = false ↔ Wrapped lines := by
  rw [wraps, Bool.not_eq_false', Bool.or_eq_true, List.any_eq_true, List.isEmpty_iff,
    main_empty_iff]
  rfl

theorem no_main_append_blank (inProcedure inside : Bool) (tagged : List (Text × Bool)) :
    NoMain inProcedure (tagged ++ [([], inside)]) ↔ NoMain inProcedure tagged := by
  induction tagged generalizing inProcedure with
  | nil =>
      cases inside with
      | true => rfl
      | false =>
          cases inProcedure with
          | true => rw [List.nil_append, no_main_true]; rfl
          | false => rw [List.nil_append, no_main_blank blank_nil]
  | cons entry rest induction =>
      obtain ⟨line, side⟩ := entry
      rw [List.cons_append]
      cases side with
      | true => exact induction inProcedure
      | false =>
          cases inProcedure with
          | true => rw [no_main_true, no_main_true, induction]
          | false => rw [no_main_false, no_main_false, induction, induction]

theorem wrapped_ignores_end : IgnoresEnd Wrapped := by
  intro lines
  obtain ⟨inside, split⟩ := masked_concat_blank lines
  have empty : wrapperHead.startsText [] = false := by decide
  rw [Wrapped, split, no_main_append_blank]
  refine or_congr ?_ Iff.rfl
  simp [or_and_right, exists_or, empty]

theorem wrapped_after_wrap {options : Options} {stamp : Text} (lines : List Text) :
    Wrapped (Action.wrap.perform options stamp lines) := by
  rw [Action.perform, flow_control_eq]
  split
  · refine .inl (List.any_eq_true.mp ?_)
    simp only [arrange, frontLines, asLines, List.map_append, List.any_append]
    have shown := wrapper_head_shown (hasBlock .console lines) options.autoExit
    rw [asLines] at shown
    simp only [shown, Bool.or_true, Bool.true_or]
  next idle => exact (wraps_iff lines).mp (by simpa using idle)

/-- An action that only adds lines, or edits lines, keeps what begins a wrapper. -/
theorem wrapper_line_kept {options : Options} {stamp : Text} {lines : List Text} {action : Action}
    (later : IsLater action) (moves : action ≠ .wrap)
    (here : ∃ line ∈ lines, wrapperHead.startsText line = true) :
    ∃ line ∈ action.perform options stamp lines, wrapperHead.startsText line = true := by
  obtain ⟨line, member, heads⟩ := here
  obtain ⟨notNormalize, notDirect, notPause, notExit⟩ := later
  have tagged : ∃ inside, (line, inside) ∈ masked lines := by
    rw [← lines_of_masked lines] at member
    obtain ⟨⟨other, inside⟩, tagged, rfl⟩ := List.mem_map.mp member
    exact ⟨inside, tagged⟩
  obtain ⟨inside, tagged⟩ := tagged
  cases action with
  | normalize => exact absurd rfl notNormalize
  | direct => exact absurd rfl notDirect
  | pause => exact absurd rfl notPause
  | exit => exact absurd rfl notExit
  | wrap => exact absurd rfl moves
  | support feature =>
      rw [Action.perform]
      split
      · exact ⟨line, member, heads⟩
      · exact ⟨line, mem_insert_block.mpr (.inl member), heads⟩
  | exchange edit =>
      refine ⟨_, List.mem_map_of_mem tagged, ?_⟩
      cases inside with
      | true => exact heads
      | false => exact (Edit.starts_text_apply steady_wrapper_head edit line).trans heads
  | cleanUp =>
      refine ⟨line, ?_, heads⟩
      rw [Action.perform, ← lines_of_guard_tagged]
      exact List.mem_map_of_mem (mem_guard_tagged none tagged)
  | logFiles =>
      refine ⟨line, ?_, heads⟩
      rw [Action.perform, ← lines_of_follow_tagged]
      exact List.mem_map_of_mem (mem_follow_tagged _ _ tagged)
  | takeShots =>
      refine ⟨line, ?_, heads⟩
      rw [Action.perform, ← lines_of_follow_tagged]
      exact List.mem_map_of_mem (mem_follow_tagged _ _ tagged)

theorem wrapped_kept {options : Options} {stamp : Text} (plain : Unbroken stamp) {action : Action}
    (later : IsLater action) (moves : action ≠ .wrap) : KeptBy options stamp Wrapped action := by
  intro lines unbroken wrapped
  refine wrapped.imp (wrapper_line_kept later moves) fun none => ?_
  obtain ⟨notNormalize, notDirect, notPause, notExit⟩ := later
  cases action with
  | normalize => exact absurd rfl notNormalize
  | direct => exact absurd rfl notDirect
  | pause => exact absurd rfl notPause
  | exit => exact absurd rfl notExit
  | wrap => exact absurd rfl moves
  | support feature =>
      rw [Action.perform]
      split
      · exact none
      · exact no_main_insert (contained_support options stamp plain lines feature) none
  | exchange edit =>
      rw [Action.perform, masked_exchange edit lines unbroken]
      exact no_main_exchange edit false _ none
  | cleanUp =>
      rw [Action.perform, masked_insert_cleanup]
      exact no_main_guard _ false _ none
  | logFiles =>
      rw [Action.perform, masked_log_files]
      refine no_main_follow _ _ (fun line other added => ?_) false _ none
      have opens := (file_log_some added).1
      exact ⟨open_is_statement opens, not_starts_of_leads led_procedure_end (by decide)
        (leads_of_starts led_open opens), call_keeps_procedure (calls_file_log added)⟩
  | takeShots =>
      rw [Action.perform, masked_take_shots]
      refine no_main_follow _ _ (fun line other added => ?_) false _ none
      have draws := (screenshot_some added).1
      exact ⟨draw_is_statement draws, draw_ends_no_procedure draws,
        call_keeps_procedure (calls_screenshot added)⟩

/-! What is found in the output. -/

section Output

variable {options : Options} {mode : Mode} {stamp source : Text} {out : Instrumented}

/-- What a selected pass establishes and every action keeps holds in the end. -/
theorem lasting_in_output {property : List Text → Prop} (plain : Unbroken stamp)
    (ignores : IgnoresEnd property) (feature : Feature)
    (chosen : isSelected options mode feature = true)
    (established : ∀ program revision, runPass? options stamp feature program = some revision →
      property (splitLines revision.program))
    (kept : ∀ action, KeptBy options stamp property action)
    (ran : instrument? options mode stamp source = some out) : property (splitLines out.program) := by
  obtain ⟨revision, passed, same, -⟩ := instrument_run ran
  have listed : feature ∈ selected options mode :=
    List.mem_filter.mpr ⟨by cases feature <;> simp [Feature.all], chosen⟩
  obtain ⟨before, after, split⟩ := List.append_of_mem listed
  rw [split] at passed
  rw [← same]
  exact run_passes_establishes plain ignores established (fun _ _ action _ => kept action) passed

theorem block_in_output (plain : Unbroken stamp) {feature : Feature} (owns : feature ≠ .flowControl)
    (chosen : isSelected options mode feature = true)
    (ran : instrument? options mode stamp source = some out) :
    hasBlock feature (splitLines out.program) = true := by
  rw [has_block_iff]
  have landmark := landmark_marker feature
  refine lasting_in_output plain (count_ignores_end (landmark.blank [] blank_nil) (0 < ·)) feature
    chosen (fun program revision ranPass => ?_) (present_kept landmark) ran
  have counted := marker_count_pass plain owns ranPass
  rw [if_pos rfl, markerCount] at counted
  omega

theorem directive_in_output (plain : Unbroken stamp) (shows : options.console = true)
    (ran : instrument? options mode stamp source = some out) :
    (splitLines out.program).any consoleDirective.startsText = true := by
  rw [List.any_eq_true, ← List.countP_pos_iff]
  have landmark := landmark_directive
  refine lasting_in_output plain (count_ignores_end (landmark.blank [] blank_nil) (0 < ·)) .console
    shows (fun program revision ranPass => ?_) (present_kept landmark) ran
  have counted := directive_count_pass plain ranPass
  rw [if_pos rfl, directiveCount] at counted
  omega

theorem no_console_off_in_output (plain : Unbroken stamp) (shows : options.console = true)
    (ran : instrument? options mode stamp source = some out) :
    (splitLines out.program).countP consoleOff.startsText = 0 := by
  have apart : ∀ action, action ≠ .normalize →
      KeptBy options stamp (fun lines => lines.countP consoleOff.startsText = 0) action :=
    console_off_kept plain
  have row : ∃ later, actionsOf options .console = [] ++ .normalize :: later ∧
      ∀ action ∈ later, action ≠ .normalize := by
    refine ⟨_, rfl, ?_⟩
    cases exits : options.autoExit <;> simp
  obtain ⟨later, row, others⟩ := row
  refine instrument_establishes plain
    (count_ignores_end (standing_console_off.blank [] blank_nil) (· = 0)) [] .console
    [.flowControl, .resources, .graphics, .logging, .screenshots] rfl shows [] .normalize later row
    (fun lines _ => console_off_after_normalize lines) (fun action member =>
      apart action (others action member)) (fun other member action listed => apart action ?_) ran
  exact (later_of_console options other member action listed).1

theorem wrapped_output (plain : Unbroken stamp) (wraps : options.flowControl = true)
    (ran : instrument? options mode stamp source = some out) : Wrapped (splitLines out.program) := by
  refine instrument_establishes plain wrapped_ignores_end [.console] .flowControl
    [.resources, .graphics, .logging, .screenshots] rfl wraps [] .wrap [] rfl
    (fun lines _ => wrapped_after_wrap lines) (by simp) (fun other member action listed => ?_) ran
  refine wrapped_kept plain (later_of_console options other (by simp [member]) action listed) ?_
  rintro rfl
  simp only [List.mem_cons, List.not_mem_nil, or_false] at member
  rcases member with rfl | rfl | rfl | rfl <;> simp [actionsOf] at listed

/-! What is left to do. -/

/-- A call for an image or a point outside blocks that is not tracked. -/
def UntrackedCall (lines : List Text) : Prop :=
  ∃ line, Outside lines line ∧ (newimageCall.occursIn line = true ∨ psetStatement.occursIn line = true)

theorem untracked_call_iff_any (lines : List Text) :
    (masked lines).any (fun entry => !entry.2 &&
      (newimageCall.occursIn entry.1 || psetStatement.occursIn entry.1)) = true ↔
      UntrackedCall lines := by
  rw [List.any_eq_true]
  constructor
  · rintro ⟨⟨line, inside⟩, member, remains⟩
    simp only [Bool.and_eq_true, Bool.not_eq_true', Bool.or_eq_true] at remains
    obtain ⟨rfl, remains⟩ := remains
    exact ⟨line, member, remains⟩
  · rintro ⟨line, outside, remains⟩
    exact ⟨(line, false), outside, by simpa using remains⟩

instance (lines : List Text) : Decidable (UntrackedCall lines) :=
  decidable_of_iff _ (untracked_call_iff_any lines)

/-- What a pass may find to do in the output of the whole run. -/
def Remaining (lines : List Text) : Feature → Prop
  | .console => PromptWaits (masked lines)
  | .graphics => UntrackedCall lines
  | _ => False

theorem support_rests {lines : List Text} {feature : Feature}
    (present : hasBlock feature lines = true) : Idle options stamp lines (.support feature) := by
  rw [Idle, Action.perform, if_pos present]

theorem exchange_rests_iff (edit : Edit) (lines : List Text) :
    Idle options stamp lines (.exchange edit) ↔
      ∀ line, Outside lines line → edit.pattern.occursIn line = false := by
  rw [Idle, Action.perform, edit_outside_rests_iff]
  exact forall₂_congr fun line _ => apply_rests_iff edit line

theorem normalize_rests {lines : List Text} (none : lines.countP consoleOff.startsText = 0) :
    Idle options stamp lines .normalize := by
  rw [List.countP_eq_zero] at none
  rw [Idle, Action.perform]
  refine (List.map_congr_left fun line member => ?_).trans (List.map_id lines)
  rw [normalizeLine, if_neg (none line member)]
  rfl

theorem exit_rests {lines : List Text} (unbroken : AllUnbroken lines)
    (none : NoneOutside bareEnd.startsText lines) : Idle options stamp lines .exit := by
  rw [Idle, Action.perform, edit_outside_rests_iff]
  intro line outside
  rcases replace_end_cases line (unbroken line (mem_of_mem_masked outside)) with
    ⟨-, same⟩ | ⟨ends, -⟩
  · exact same
  · rw [none line outside] at ends
    exact absurd ends (by decide)

theorem untracked_call_iff (options : Options) (stamp : Text) (lines : List Text) :
    ¬UntrackedCall lines ↔ Idle options stamp lines (.exchange .image) ∧
      Idle options stamp lines (.exchange .point) := by
  rw [exchange_rests_iff, exchange_rests_iff, UntrackedCall]
  simp only [not_exists, not_and, not_or, Bool.not_eq_true]
  exact ⟨fun none => ⟨fun line outside => (none line outside).1, fun line outside =>
    (none line outside).2⟩, fun both line outside => ⟨both.1 line outside, both.2 line outside⟩⟩

theorem console_idle_iff (plain : Unbroken stamp) (shows : options.console = true)
    (ran : instrument? options mode stamp source = some out) :
    IdlePass options stamp (splitLines out.program) .console ↔
      ¬PromptWaits (masked (splitLines out.program)) := by
  have normal : Idle options stamp (splitLines out.program) .normalize :=
    normalize_rests (no_console_off_in_output plain shows ran)
  have directed : Idle options stamp (splitLines out.program) .direct := by
    rw [Idle, Action.perform, if_pos (directive_in_output plain shows ran)]
  have supported : Idle options stamp (splitLines out.program) (.support .console) :=
    support_rests (block_in_output plain (by simp) shows ran)
  have waits := replace_waits_rests_iff (masked (splitLines out.program))
  rw [lines_of_masked] at waits
  have ended : ∀ action ∈ (if options.autoExit then [Action.exit] else []),
      Idle options stamp (splitLines out.program) action := by
    intro action member
    split at member
    next exits =>
      rw [List.mem_singleton.mp member]
      exact exit_rests (all_unbroken_split _) (no_end_in_output plain shows exits ran)
    next => exact absurd member List.not_mem_nil
  rw [← waits, IdlePass, actionsOf, List.forall_mem_append, List.forall_mem_cons,
    List.forall_mem_cons, List.forall_mem_cons, List.forall_mem_singleton]
  constructor
  · exact fun idle => idle.1.2.2.2
  · exact fun paused => ⟨⟨normal, directed, supported, paused⟩, ended⟩

/-- A selected pass is idle on the output unless something remained for it. -/
theorem idle_pass_iff (plain : Unbroken stamp) {feature : Feature}
    (chosen : isSelected options mode feature = true)
    (ran : instrument? options mode stamp source = some out) :
    IdlePass options stamp (splitLines out.program) feature ↔
      ¬Remaining (splitLines out.program) feature := by
  have supported : feature ≠ .flowControl →
      Idle options stamp (splitLines out.program) (.support feature) :=
    fun owns => support_rests (block_in_output plain owns chosen ran)
  cases feature with
  | console => exact console_idle_iff plain chosen ran
  | flowControl =>
      have wrapped := (wraps_iff _).mpr (wrapped_output plain chosen ran)
      refine iff_of_true ?_ id
      rw [IdlePass, actionsOf, List.forall_mem_singleton, Idle, Action.perform, flow_control_eq,
        wrapped, if_neg (by decide)]
  | resources =>
      have tracked : Idle options stamp (splitLines out.program) (.exchange .freefile) := by
        rw [exchange_rests_iff]
        exact requests_tracked (no_request_in_output plain chosen ran)
      have guarded : Idle options stamp (splitLines out.program) .cleanUp :=
        insert_cleanup_rests (guarded_output plain chosen ran)
      refine iff_of_true ?_ id
      rw [IdlePass, actionsOf, List.forall_mem_cons, List.forall_mem_cons, List.forall_mem_singleton]
      exact ⟨supported (by simp), tracked, guarded⟩
  | graphics =>
      have present := supported (by simp)
      rw [Remaining, untracked_call_iff options stamp, IdlePass, actionsOf, List.forall_mem_cons,
        List.forall_mem_cons, List.forall_mem_singleton]
      exact and_iff_right present
  | logging =>
      have logged : Idle options stamp (splitLines out.program) .logFiles :=
        follow_outside_rests (fun _ _ added => (file_log_some added).1)
          (logged_output plain chosen ran)
      refine iff_of_true ?_ id
      rw [IdlePass, actionsOf, List.forall_mem_cons, List.forall_mem_singleton]
      exact ⟨supported (by simp), logged⟩
  | screenshots =>
      rw [isSelected, Bool.and_eq_true] at chosen
      have shot : Idle options stamp (splitLines out.program) .takeShots :=
        follow_outside_rests (fun _ _ added => (screenshot_some added).1)
          (shot_output plain chosen.1 chosen.2 ran)
      refine iff_of_true ?_ id
      rw [IdlePass, actionsOf, List.forall_mem_cons, List.forall_mem_singleton]
      exact ⟨supported (by simp), shot⟩

/-! The second run. -/

theorem draft_of_other_pass (options : Options) (stamp : Text) (lines : List Text) {feature : Feature}
    (other : feature ≠ .console) : ∃ draft, passDraft? options stamp lines feature = some draft := by
  cases feature with
  | console => exact absurd rfl other
  | _ => exact ⟨_, rfl⟩

theorem pass_of_draft {feature : Feature} {program : Text} {draft : Draft}
    (drafted : passDraft? options stamp (splitLines program) feature = some draft) :
    ∃ revision, runPass? options stamp feature program = some revision := by
  rw [run_pass_eq, drafted]
  exact ⟨_, rfl⟩

theorem passes_succeed (options : Options) (stamp : Text) (features : List Feature) (program : Text)
    (others : ∀ feature ∈ features, feature ≠ .console) :
    ∃ revision, runPasses? options stamp program features = some revision := by
  induction features generalizing program with
  | nil => exact ⟨_, rfl⟩
  | cons feature features induction =>
      obtain ⟨draft, drafted⟩ :=
        draft_of_other_pass options stamp (splitLines program) (others feature (by simp))
      obtain ⟨first, ranFirst⟩ := pass_of_draft drafted
      obtain ⟨last, ranLast⟩ :=
        induction first.program fun other member => others other (by simp [member])
      exact ⟨⟨last.program, first.changes ++ last.changes⟩, by
        rw [runPasses?, ranFirst, Option.bind_eq_bind, Option.bind_some, ranLast]
        rfl⟩

/-- The output of a run can always be instrumented again: its console block is there. -/
theorem second_run_succeeds (plain : Unbroken stamp)
    (ran : instrument? options mode stamp source = some out) :
    ∃ revision, runPasses? options stamp out.program (selected options mode) = some revision := by
  cases shows : options.console with
  | false =>
      refine passes_succeed options stamp _ _ fun feature member => ?_
      rintro rfl
      have chosen := (List.mem_filter.mp member).2
      rw [isSelected, shows] at chosen
      exact absurd chosen (by decide)
  | true =>
      have normal : Idle options stamp (splitLines out.program) .normalize :=
        normalize_rests (no_console_off_in_output plain shows ran)
      have directed : Idle options stamp (splitLines out.program) .direct := by
        rw [Idle, Action.perform, if_pos (directive_in_output plain shows ran)]
      have present : hasBlock .console
          (performAll options stamp [.normalize, .direct] (splitLines out.program)) = true := by
        rw [performAll, List.foldl_cons, List.foldl_cons, List.foldl_nil, normal, directed]
        exact block_in_output plain (by simp) shows ran
      obtain ⟨first, ranFirst⟩ : ∃ first, runPass? options stamp .console out.program = some first :=
        pass_of_draft ((console_lines_iff options stamp _ _).mpr ⟨.inl present, rfl⟩)
      have order : Feature.all =
          [] ++ .console :: [.flowControl, .resources, .graphics, .logging, .screenshots] := rfl
      obtain ⟨last, ranLast⟩ := passes_succeed options stamp
        ([Feature.flowControl, .resources, .graphics, .logging, .screenshots].filter
          (isSelected options mode)) first.program (by simp)
      refine ⟨⟨last.program, first.changes ++ last.changes⟩, ?_⟩
      rw [selected_around order shows, List.filter_nil, List.nil_append, runPasses?, ranFirst,
        Option.bind_eq_bind, Option.bind_some, ranLast]
      rfl

theorem regular_output (plain : Unbroken stamp)
    (ran : instrument? options mode stamp source = some out) :
    Regular (selected options mode) out.program := by
  obtain ⟨revision, passed, same, -⟩ := instrument_run ran
  by_cases flow : ∀ feature ∈ selected options mode, feature = .flowControl
  · exact .inr flow
  · rw [← same]
    refine .inl (regular_after_passes plain passed (.inr ?_))
    simpa using flow

end Output

/-! Lines behind the drawing edits. -/

/-- The line behind both drawing edits. -/
def drawn (line : Text) : Text := Edit.point.apply (Edit.image.apply line)

/-- Behind both edits neither of them finds anything. -/
def DrawnOnce (line : Text) : Prop :=
  newimageCall.occursIn (drawn line) = false ∧ psetStatement.occursIn (drawn line) = false

instance (line : Text) : Decidable (DrawnOnce line) := inferInstanceAs (Decidable (_ ∧ _))

section Drawing

variable {options : Options} {stamp : Text}

theorem outside_exchange_iff (edit : Edit) {lines : List Text} (unbroken : AllUnbroken lines)
    (line : Text) : Outside ((Action.exchange edit).perform options stamp lines) line ↔
      ∃ other, Outside lines other ∧ line = edit.apply other := by
  rw [Action.perform]
  constructor
  · exact outside_edit (plain_exchanged edit unbroken)
  · intro source
    obtain ⟨other, old, rfl⟩ := source
    rw [Outside, masked_exchange edit lines unbroken]
    exact List.mem_map_of_mem old

/-- A block leaves the lines outside blocks as they are, and it may bring an empty one. -/
theorem outside_support_iff (plain : Unbroken stamp) (feature : Feature) (lines : List Text) :
    ∃ more, (more = [] ∨ more = [[]]) ∧ ∀ line,
      Outside ((Action.support feature).perform options stamp lines) line ↔
        Outside lines line ∨ line ∈ more := by
  rw [Action.perform]
  split
  · exact ⟨[], .inl rfl, fun line => by simp⟩
  · obtain ⟨above, below, inside, before, after, -, -⟩ :=
      masked_insert_block (contained_support options stamp plain lines feature) lines
    refine ⟨if inside then [] else [[]], by cases inside <;> simp, fun line => ?_⟩
    rw [Outside, Outside, before, after]
    cases inside <;> simp [or_comm, or_left_comm]

theorem call_ignores_end : IgnoresEnd UntrackedCall := by
  intro lines
  have untouched := @outside_ignores_end
    (fun line => ¬(newimageCall.occursIn line = true ∨ psetStatement.occursIn line = true))
    (by decide) lines
  rw [← not_iff_not]
  simpa only [UntrackedCall, not_exists, not_and] using untouched

/-- Where the actions of the graphics pass leave a call untracked. -/
theorem no_call_left_iff (plain : Unbroken stamp) {lines : List Text}
    (unbroken : AllUnbroken lines) :
    ¬UntrackedCall (performAll options stamp (actionsOf options .graphics) lines) ↔
      ∀ line, Outside lines line → DrawnOnce line := by
  have first := unbroken_perform options stamp plain lines unbroken (.support .graphics)
  have second := unbroken_perform options stamp plain _ first (.exchange .image)
  obtain ⟨more, empty, source⟩ := @outside_support_iff options stamp plain .graphics lines
  have outside : ∀ line,
      Outside (performAll options stamp (actionsOf options .graphics) lines) line ↔
        ∃ other, (Outside lines other ∨ other ∈ more) ∧ line = drawn other := by
    intro line
    rw [actionsOf, performAll, List.foldl_cons, List.foldl_cons, List.foldl_cons, List.foldl_nil,
      outside_exchange_iff .point second]
    simp only [outside_exchange_iff .image first, source]
    constructor
    · intro written
      obtain ⟨_, ⟨other, old, rfl⟩, rfl⟩ := written
      exact ⟨other, old, rfl⟩
    · intro written
      obtain ⟨other, old, rfl⟩ := written
      exact ⟨_, ⟨other, old, rfl⟩, rfl⟩
  rw [UntrackedCall]
  constructor
  · intro none line old
    rw [DrawnOnce, ← Bool.or_eq_false_iff, ← Bool.not_eq_true, Bool.or_eq_true]
    intro calls
    exact none ⟨drawn line, (outside _).mpr ⟨line, .inl old, rfl⟩, calls⟩
  · intro once untracked
    obtain ⟨line, written, calls⟩ := untracked
    obtain ⟨other, old, rfl⟩ := (outside line).mp written
    have settled : DrawnOnce other := by
      rcases old with old | new
      · exact once other old
      · have nothing : other = [] := by
          rcases empty with rfl | rfl
          · exact absurd new List.not_mem_nil
          · exact List.mem_singleton.mp new
        rw [nothing]
        decide +kernel
    rw [settled.1, settled.2] at calls
    exact absurd calls (by decide)

end Drawing

/-- The second run succeeds, and it changes nothing exactly when the first one has left no prompt
with a wait and no untracked call to its passes. -/
theorem second_run_unchanged_iff (options : Options) (mode : Mode) (stamp source : Text)
    (first : Instrumented) (plain : Unbroken stamp)
    (ran : instrument? options mode stamp source = some first) :
    ∃ second, instrument? options mode stamp first.program = some second ∧
      (second.program = first.program ∧ second.changes = [] ↔
        (options.console = true → ¬PromptWaits (masked (splitLines first.program))) ∧
        (mode.draws = true → ¬UntrackedCall (splitLines first.program))) := by
  obtain ⟨revision, passed⟩ := second_run_succeeds plain ran
  obtain ⟨silent, kept⟩ := run_silent_iff (regular_output plain ran) passed
  refine ⟨⟨revision.program, revision.changes, selected options mode⟩, ?_, ?_⟩
  · rw [instrument?, passed]
    rfl
  · have whole : revision.program = first.program ∧ revision.changes = [] ↔ revision.changes = [] :=
      ⟨fun both => both.2, fun none => ⟨kept none, none⟩⟩
    have idle : (∀ feature ∈ selected options mode,
        IdlePass options stamp (splitLines first.program) feature) ↔
        ∀ feature, isSelected options mode feature = true →
          ¬Remaining (splitLines first.program) feature := by
      refine forall_congr' fun feature => ?_
      rw [selected, List.mem_filter]
      constructor
      · intro idle chosen
        exact (idle_pass_iff plain chosen ran).mp
          (idle ⟨by cases feature <;> simp [Feature.all], chosen⟩)
      · rintro none ⟨-, chosen⟩
        exact (idle_pass_iff plain chosen ran).mpr (none chosen)
    rw [whole, silent, idle]
    constructor
    · exact fun none => ⟨none .console, none .graphics⟩
    · rintro ⟨noWait, noCall⟩ feature chosen
      cases feature with
      | console => exact noWait chosen
      | graphics => exact noCall chosen
      | _ => exact id

/-- Nothing is wanted but what a program that draws always gets. -/
def graphicsOnly : Options where
  console := false
  logging := false
  screenshots := false
  flowControl := false
  resources := false

theorem drawing_run (source : Text) : ∃ first,
    instrument? graphicsOnly .graphics [] source = some first ∧
    (¬UntrackedCall (splitLines first.program) ↔
      ∀ line, Outside (splitLines source) line → DrawnOnce line) := by
  have drawing : Feature.graphics ≠ .console := by decide
  have chosen : selected graphicsOnly .graphics = [.graphics] := by decide
  obtain ⟨draft, drafted⟩ := draft_of_other_pass graphicsOnly [] (splitLines source) drawing
  obtain ⟨first, ran⟩ := pass_of_draft drafted
  refine ⟨⟨first.program, first.changes ++ [], [.graphics]⟩, ?_, ?_⟩
  · rw [instrument?, chosen, runPasses?, ran]
    rfl
  · rw [← no_call_left_iff unbroken_nil (all_unbroken_split source),
      ← agree_but_end_iff call_ignores_end (run_pass_lines unbroken_nil ran)]

/-- A point whose parts are plain is tracked by the first run. -/
theorem second_run_of_point : ∃ first second,
    instrument? graphicsOnly .graphics [] "PSET (1, 2), 3".toList = some first ∧
    instrument? graphicsOnly .graphics [] first.program = some second ∧
    second.program = first.program ∧ second.changes = [] := by
  have once : ∀ entry ∈ masked (splitLines "PSET (1, 2), 3".toList),
      entry.2 = false → DrawnOnce entry.1 := by decide +kernel
  obtain ⟨first, ran, settled⟩ := drawing_run "PSET (1, 2), 3".toList
  obtain ⟨second, ranAgain, unchanged⟩ := second_run_unchanged_iff graphicsOnly .graphics []
    "PSET (1, 2), 3".toList first unbroken_nil ran
  have none := settled.mpr fun line outside => once (line, false) outside rfl
  exact ⟨first, second, ran, ranAgain, unchanged.mpr
    ⟨fun shows => absurd shows (by decide), fun _ => none⟩⟩

/-- An image that is as wide as the handle of another image: the first run tracks the outer call
only. -/
theorem second_run_of_nested_images : ∃ first second,
    instrument? graphicsOnly .graphics [] "x = _NEWIMAGE(_NEWIMAGE(1, 2, 3), 4, 5)".toList =
      some first ∧
    instrument? graphicsOnly .graphics [] first.program = some second ∧
    ¬(second.program = first.program ∧ second.changes = []) := by
  generalize lineEq : "x = _NEWIMAGE(_NEWIMAGE(1, 2, 3), 4, 5)".toList = line
  have twice : ¬DrawnOnce line := by
    rw [← lineEq]
    decide +kernel
  have outside : Outside (splitLines line) line := by
    rw [← lineEq, Outside]
    decide +kernel
  obtain ⟨first, ran, settled⟩ := drawing_run line
  obtain ⟨revision, passed⟩ := second_run_succeeds unbroken_nil ran
  have silent := (run_silent_iff (regular_output unbroken_nil ran) passed).1
  refine ⟨first, ⟨revision.program, revision.changes, selected graphicsOnly .graphics⟩, ran, ?_, ?_⟩
  · rw [instrument?, passed]
    rfl
  · intro both
    have idle := silent.mp both.2 .graphics (by decide)
    rw [IdlePass, actionsOf, List.forall_mem_cons, List.forall_mem_cons,
      List.forall_mem_singleton] at idle
    have none := (untracked_call_iff graphicsOnly [] _).mpr idle.2
    exact twice (settled.mp none line outside)

end BasicBench.Instrument
