import BasicBench.Proofs.Guarantees
import BasicBench.Proofs.Idempotence
import BasicBench.Proofs.SealedLines

/-!
When the instrumentation keeps a program valid. Blocks, calls and pauses never do harm. What can
do harm is the rearrangement around the wrapper, when a loop or a labelled procedure reaches over
the border of a part, and a line that is written anew from pieces of another, when the pieces are
not closed by themselves.
-/

set_option autoImplicit false

namespace BasicBench.Check

open Text Pattern Keyword Instrument

section Stages

variable (options : Options) (mode : Mode) (stamp source : Text)

/-- The program that the selected ones of some passes make of the source. -/
def Leaves (passes : List Feature) (program : Text) : Prop :=
  ∃ changes, runPasses? options stamp source (passes.filter (isSelected options mode)) =
    some ⟨program, changes⟩

/-- What a pass makes of a program; a pass that is not selected leaves it. -/
def Step (feature : Feature) (program next : Text) : Prop :=
  if isSelected options mode feature then
    ∃ changes, runPass? options stamp feature program = some ⟨next, changes⟩
  else next = program

end Stages

variable {options : Options} {mode : Mode} {stamp source : Text}

theorem run_passes_append (first second : List Feature) (program : Text) :
    runPasses? options stamp program (first ++ second) =
      (runPasses? options stamp program first).bind fun middle =>
        (runPasses? options stamp middle.program second).map fun last =>
          ⟨last.program, middle.changes ++ last.changes⟩ := by
  induction first generalizing program with
  | nil =>
      rw [List.nil_append, runPasses?, Option.bind_some]
      cases runPasses? options stamp program second <;> rfl
  | cons feature first induction =>
      rw [List.cons_append, runPasses?, runPasses?]
      cases runPass? options stamp feature program with
      | none => rfl
      | some here =>
          simp only [Option.bind_eq_bind, Option.bind_some]
          rw [induction]
          cases runPasses? options stamp here.program first with
          | none => rfl
          | some middle =>
              simp only [Option.bind_some]
              cases runPasses? options stamp middle.program second with
              | none => rfl
              | some last => simp [List.append_assoc]

theorem leaves_nothing (program : Text) :
    Leaves options mode stamp source [] program ↔ program = source := by
  simp [Leaves, runPasses?, eq_comm]

/-- The passes follow one another. -/
theorem leaves_concat (before : List Feature) (feature : Feature) (next : Text) :
    Leaves options mode stamp source (before ++ [feature]) next ↔
      ∃ program, Leaves options mode stamp source before program ∧
        Step options mode stamp feature program next := by
  simp only [Leaves, Step, List.filter_append, run_passes_append, Option.bind_eq_some_iff,
    Option.map_eq_some_iff]
  cases chosen : isSelected options mode feature with
  | false =>
      rw [List.filter_cons_of_neg (by simp [chosen]), List.filter_nil]
      simp only [Bool.false_eq_true, if_false]
      constructor
      · rintro ⟨changes, middle, ran, last, passed, same⟩
        obtain rfl := Option.some.inj passed
        exact ⟨middle.program, ⟨middle.changes, ran⟩, (congrArg Revision.program same).symm⟩
      · rintro ⟨program, ⟨changes, ran⟩, rfl⟩
        exact ⟨changes, _, ran, ⟨next, []⟩, rfl, by rw [List.append_nil]⟩
  | true =>
      rw [List.filter_cons_of_pos chosen, List.filter_nil]
      simp only [if_true]
      constructor
      · rintro ⟨changes, middle, ran, last, passed, same⟩
        rw [runPasses?, Option.bind_eq_bind, Option.bind_eq_some_iff] at passed
        obtain ⟨here, ranHere, rest⟩ := passed
        obtain rfl := Option.some.inj rest
        obtain rfl : here.program = next := congrArg Revision.program same
        exact ⟨middle.program, ⟨middle.changes, ran⟩, here.changes, ranHere⟩
      · rintro ⟨program, ⟨changes, ran⟩, more, passed⟩
        refine ⟨changes ++ more, ⟨program, changes⟩, ran, ⟨next, more⟩, ?_, rfl⟩
        rw [runPasses?, passed]
        simp [runPasses?]

theorem leaves_unique {passes : List Feature} {program other : Text}
    (first : Leaves options mode stamp source passes program)
    (second : Leaves options mode stamp source passes other) : program = other := by
  obtain ⟨changes, ran⟩ := first
  obtain ⟨more, again⟩ := second
  rw [ran] at again
  exact congrArg Revision.program (Option.some.inj again)

/-- A pass can be looked at on lines, where its actions are. -/
theorem step_iff (after before : List Text → Prop) (ignores : IgnoresEnd after)
    (plain : Unbroken stamp) {feature : Feature} {program next : Text}
    (performed : isSelected options mode feature = true → ∀ lines, AllUnbroken lines →
      (after (performAll options stamp (actionsOf options feature) lines) ↔ before lines))
    (skipped : isSelected options mode feature = false → ∀ lines, after lines ↔ before lines)
    (step : Step options mode stamp feature program next) :
    after (splitLines next) ↔ before (splitLines program) := by
  cases chosen : isSelected options mode feature with
  | false =>
      rw [Step, chosen, if_neg (by decide)] at step
      rw [step]
      exact skipped chosen _
  | true =>
      rw [Step, chosen, if_pos rfl] at step
      obtain ⟨changes, ran⟩ := step
      rw [agree_but_end_iff ignores (run_pass_lines plain ran)]
      exact performed chosen _ (all_unbroken_split program)

theorem matched_ignores_end : IgnoresEnd (Matched ∘ brackets) := by
  intro lines
  have last : brackets [[]] = [] := brackets_cons_quiet (quiet_of_blank blank_nil) []
  rw [Function.comp_apply, Function.comp_apply, brackets_append, last, List.append_nil]

theorem all_sealed_ignores_end : IgnoresEnd AllSealed := by
  intro lines
  rw [AllSealed, List.forall_mem_append, List.forall_mem_singleton]
  exact and_iff_left sealed_empty_line

theorem matched_perform_all (plain : Unbroken stamp) (quoteless : '"' ∉ stamp)
    {actions : List Action} (other : ∀ action ∈ actions, action ≠ .wrap) {lines : List Text}
    (unbroken : AllUnbroken lines) :
    Matched (brackets (performAll options stamp actions lines)) ↔ Matched (brackets lines) := by
  induction actions generalizing lines with
  | nil => rfl
  | cons action actions induction =>
      have later := induction (fun action member => other action (by simp [member]))
        (unbroken_perform options stamp plain lines unbroken action)
      exact later.trans (matched_perform options quoteless unbroken (other action (by simp)))

/-- Only flow control moves brackets. -/
theorem matched_step (plain : Unbroken stamp) (quoteless : '"' ∉ stamp) {feature : Feature}
    (other : feature ≠ .flowControl) {program next : Text}
    (step : Step options mode stamp feature program next) :
    Matched (brackets (splitLines next)) ↔ Matched (brackets (splitLines program)) := by
  refine step_iff (Matched ∘ brackets) (Matched ∘ brackets) matched_ignores_end plain
    (fun _ lines unbroken => matched_perform_all plain quoteless ?_ unbroken)
    (fun _ lines => Iff.rfl) step
  cases feature with
  | flowControl => exact absurd rfl other
  | console => cases exits : options.autoExit <;> simp [actionsOf, exits]
  | _ => simp [actionsOf]

/-- Flow control does no harm if the brackets match in their new order too. -/
theorem matched_flow_step (plain : Unbroken stamp) {program next : Text}
    (matched : Matched (brackets (splitLines program)))
    (step : Step options mode stamp .flowControl program next) :
    Matched (brackets (splitLines next)) ↔
      (options.flowControl = true → wraps (splitLines program) = true →
        Matched (regrouped (Sections.ofLines (splitLines program)))) := by
  cases chosen : options.flowControl with
  | false =>
      rw [Step, isSelected, chosen, if_neg (by decide)] at step
      rw [step]
      exact iff_of_true matched fun wanted => absurd wanted (by decide)
  | true =>
      rw [Step, isSelected, chosen, if_pos rfl] at step
      obtain ⟨changes, ran⟩ := step
      have agree := agree_but_end_iff matched_ignores_end (run_pass_lines plain ran)
      refine agree.trans ?_
      change Matched (brackets (flowControlLines options (splitLines program)).lines) ↔ _
      rw [flow_control_eq]
      cases wanted : wraps (splitLines program) with
      | false => simp [matched]
      | true => simp [matched_arrange]

/-! Closed lines. -/

/-- A pass without edits and logs puts closed lines in. -/
theorem all_sealed_step (plain : Unbroken stamp) (quoteless : '"' ∉ stamp) {feature : Feature}
    (puts : ∀ action ∈ actionsOf options feature, PutsClosed action) {program next : Text}
    (closed : AllSealed (splitLines program))
    (step : Step options mode stamp feature program next) : AllSealed (splitLines next) := by
  rw [Step] at step
  split at step
  · obtain ⟨changes, ran⟩ := step
    exact run_pass_keeps plain all_sealed_ignores_end
      (fun action member => sealed_kept options quoteless (puts action member)) ran closed
  · rwa [step]

/-- What becomes of a line where file numbers are tracked. -/
def trackRequests (options : Options) (line : Text) : Text :=
  if options.resources then Edit.freefile.apply line else line

/-- What becomes of a line where images and points are tracked. -/
def trackDrawing (mode : Mode) (line : Text) : Text :=
  if mode.draws then Edit.point.apply (Edit.image.apply line) else line

theorem track_drawing_nil (mode : Mode) : trackDrawing mode [] = [] := by
  cases mode <;> decide

theorem track_drawing_cleanup (mode : Mode) {line : Text} (cleans : isCleanup line = true) :
    trackDrawing mode line = line := by
  rw [trackDrawing, cleanup_apply .image (by decide) cleans,
    cleanup_apply .point (by decide) cleans, ite_self]

theorem sealed_under_resources (plain : Unbroken stamp) (quoteless : '"' ∉ stamp)
    {edit : Text → Text} (empty : edit [] = [])
    (cleanups : ∀ line, isCleanup line = true → edit line = line) {program next : Text}
    (step : Step options mode stamp .resources program next) :
    SealedUnder edit (splitLines next) ↔
      SealedUnder (fun line => edit (trackRequests options line)) (splitLines program) := by
  have blank : Sealed (edit []) := by
    rw [empty]
    exact sealed_empty_line
  have tracked : Edit.freefile.apply [] = [] := by decide
  refine step_iff (SealedUnder edit) _ (sealed_under_ignores_end blank) plain
    (fun chosen lines unbroken => ?_) (fun skipped lines => ?_) step
  · have tracks : trackRequests options = Edit.freefile.apply := by
      funext line
      exact if_pos chosen
    have supported := unbroken_perform options stamp plain lines unbroken (.support .resources)
    have exchanged := unbroken_perform options stamp plain _ supported (.exchange .freefile)
    rw [tracks]
    refine (sealed_under_clean_up options stamp cleanups exchanged).trans ?_
    refine (sealed_under_exchange options stamp .freefile supported).trans ?_
    exact sealed_under_support _ options plain quoteless (by rwa [tracked]) lines .resources
  · have tracks : trackRequests options = id := by
      funext line
      exact if_neg (Bool.eq_false_iff.mp skipped)
    rw [tracks]
    rfl

theorem all_sealed_graphics (plain : Unbroken stamp) (quoteless : '"' ∉ stamp)
    {program next : Text} (step : Step options mode stamp .graphics program next) :
    AllSealed (splitLines next) ↔ SealedUnder (trackDrawing mode) (splitLines program) := by
  have blank : Sealed (Edit.point.apply (Edit.image.apply [])) := sealed_of_not_code rfl
  refine step_iff AllSealed _ all_sealed_ignores_end plain (fun chosen lines unbroken => ?_)
    (fun skipped lines => ?_) step
  · have tracks : trackDrawing mode = fun line => Edit.point.apply (Edit.image.apply line) := by
      funext line
      exact if_pos chosen
    have supported := unbroken_perform options stamp plain lines unbroken (.support .graphics)
    have exchanged := unbroken_perform options stamp plain _ supported (.exchange .image)
    rw [tracks, ← sealed_under_id]
    refine (sealed_under_exchange options stamp .point exchanged).trans ?_
    refine (sealed_under_exchange options stamp .image supported).trans ?_
    exact sealed_under_support (fun line => Edit.point.apply (Edit.image.apply line)) options plain
      quoteless blank lines .graphics
  · have tracks : trackDrawing mode = id := by
      funext line
      exact if_neg (Bool.eq_false_iff.mp skipped)
    rw [tracks, sealed_under_id]

/-- A log is put behind an open statement, and a header is none. -/
theorem file_log_of_header {line : Text} (header : isHeader line false = true) :
    fileLog? line = none := by
  refine Option.eq_none_iff_forall_ne_some.mpr fun log added => ?_
  have opens := (file_log_some added).1
  rw [header_is_no_open header] at opens
  cases opens

theorem all_sealed_logging (plain : Unbroken stamp) (quoteless : '"' ∉ stamp)
    {program next : Text} (step : Step options mode stamp .logging program next) :
    AllSealed (splitLines next) ↔ AllSealed (splitLines program) ∧
      (options.logging = true → ∀ log, Due fileLog? isFileLog (masked (splitLines program)) log →
        Sealed log) := by
  refine step_iff AllSealed (fun lines => AllSealed lines ∧ (options.logging = true →
    ∀ log, Due fileLog? isFileLog (masked lines) log → Sealed log)) all_sealed_ignores_end plain
    (fun chosen lines unbroken => ?_) (fun skipped lines => ?_) step
  · refine (all_sealed_follow _).trans ?_
    refine and_congr (all_sealed_support options quoteless unbroken .logging) ?_
    have logs : options.logging = true := chosen
    rw [imp_iff_right logs]
    refine forall_congr' fun log => imp_congr_left ?_
    change Due _ _ (masked ((Action.support .logging).perform options stamp lines)) log ↔ _
    rw [Action.perform]
    split
    · rfl
    · exact due_insert (contained_support options stamp plain lines .logging) (by decide)
        (fun _ => file_log_of_header) log
  · exact (and_iff_left fun chosen => absurd chosen (Bool.eq_false_iff.mp skipped)).symm

theorem all_sealed_screenshots (plain : Unbroken stamp) (quoteless : '"' ∉ stamp)
    {program next : Text} (step : Step options mode stamp .screenshots program next) :
    AllSealed (splitLines next) ↔ AllSealed (splitLines program) := by
  refine step_iff AllSealed AllSealed all_sealed_ignores_end plain (fun _ lines unbroken => ?_)
    (fun _ _ => Iff.rfl) step
  have supported := unbroken_perform options stamp plain lines unbroken (.support .screenshots)
  exact (all_sealed_shots options quoteless supported).trans
    (all_sealed_support options quoteless unbroken .screenshots)

/-! The whole run. -/

/-- The three ways of doing harm do not occur. -/
structure KeepsValid (options : Options) (mode : Mode) (stamp source : Text) : Prop where
  /-- The brackets match in their new order, if the main program is put in a procedure. -/
  regroups : options.flowControl = true → ∀ program,
    Leaves options mode stamp source [.console] program → wraps (splitLines program) = true →
      Matched (regrouped (Sections.ofLines (splitLines program)))
  /-- Lines are still closed when file numbers, images and points are tracked in them. -/
  edits : ∀ program, Leaves options mode stamp source [.console, .flowControl] program →
    ∀ line, Outside (splitLines program) line →
      Sealed (trackDrawing mode (trackRequests options line))
  /-- The logs of open statements are closed. -/
  logs : options.logging = true → ∀ program,
    Leaves options mode stamp source [.console, .flowControl, .resources, .graphics] program →
      ∀ log, Due fileLog? isFileLog (masked (splitLines program)) log → Sealed log

theorem sound_iff (lines : List Text) :
    Sound lines ↔ Matched (brackets lines) ∧ AllSealed lines :=
  ⟨fun sound => ⟨sound.matched, sound.closed⟩, fun both => ⟨both.1, both.2⟩⟩

/-- The programs between the passes. -/
theorem leaves_stages {final : Text} (ran : Leaves options mode stamp source Feature.all final) :
    ∃ shown wrapped tracked drawn logged,
      (Leaves options mode stamp source [.console] shown ∧
        Leaves options mode stamp source [.console, .flowControl] wrapped ∧
        Leaves options mode stamp source [.console, .flowControl, .resources, .graphics] drawn) ∧
      Step options mode stamp .console source shown ∧
      Step options mode stamp .flowControl shown wrapped ∧
      Step options mode stamp .resources wrapped tracked ∧
      Step options mode stamp .graphics tracked drawn ∧
      Step options mode stamp .logging drawn logged ∧
      Step options mode stamp .screenshots logged final := by
  obtain ⟨logged, ranLogged, shoots⟩ :=
    (leaves_concat [.console, .flowControl, .resources, .graphics, .logging] _ _).mp ran
  obtain ⟨drawn, ranDrawn, logs⟩ :=
    (leaves_concat [.console, .flowControl, .resources, .graphics] _ _).mp ranLogged
  obtain ⟨tracked, ranTracked, draws⟩ :=
    (leaves_concat [.console, .flowControl, .resources] _ _).mp ranDrawn
  obtain ⟨wrapped, ranWrapped, tracks⟩ :=
    (leaves_concat [.console, .flowControl] _ _).mp ranTracked
  obtain ⟨shown, ranShown, wraps⟩ := (leaves_concat [.console] _ _).mp ranWrapped
  obtain ⟨start, ranNothing, shows⟩ := (leaves_concat [] _ _).mp ranShown
  obtain rfl := (leaves_nothing start).mp ranNothing
  exact ⟨shown, wrapped, tracked, drawn, logged, ⟨ranShown, ranWrapped, ranDrawn⟩, shows, wraps,
    tracks, draws, logs, shoots⟩

theorem console_puts_closed (options : Options) :
    ∀ action ∈ actionsOf options .console, PutsClosed action := by
  cases exits : options.autoExit <;> simp [actionsOf, exits, PutsClosed]

theorem flow_control_puts_closed (options : Options) :
    ∀ action ∈ actionsOf options .flowControl, PutsClosed action := by
  simp [actionsOf, PutsClosed]

theorem sound_output_iff {out : Instrumented} (plain : Unbroken stamp) (quoteless : '"' ∉ stamp)
    (sound : Sound (splitLines source)) (ran : instrument? options mode stamp source = some out) :
    Sound (splitLines out.program) ↔ KeepsValid options mode stamp source := by
  obtain ⟨revision, passed, same, -⟩ := instrument_run ran
  have leaves : Leaves options mode stamp source Feature.all out.program :=
    ⟨revision.changes, by rw [← same]; exact passed⟩
  obtain ⟨shown, wrapped, tracked, drawn, logged, ⟨ranShown, ranWrapped, ranDrawn⟩, shows, wraps,
    tracks, draws, logs, shoots⟩ := leaves_stages leaves
  obtain ⟨matched, closed⟩ := sound
  have matchedShown := (matched_step plain quoteless (by decide) shows).mpr matched
  have closedShown := all_sealed_step plain quoteless (console_puts_closed options) closed shows
  have closedWrapped :=
    all_sealed_step plain quoteless (flow_control_puts_closed options) closedShown wraps
  -- the brackets of the output are those behind flow control
  have blocks : Matched (brackets (splitLines out.program)) ↔
      Matched (brackets (splitLines wrapped)) :=
    (matched_step plain quoteless (by decide) shoots).trans <|
      (matched_step plain quoteless (by decide) logs).trans <|
        (matched_step plain quoteless (by decide) draws).trans <|
          matched_step plain quoteless (by decide) tracks
  have regroups := matched_flow_step plain matchedShown wraps
  have lines := (all_sealed_screenshots plain quoteless shoots).trans
    (all_sealed_logging plain quoteless logs)
  have edits := (all_sealed_graphics plain quoteless draws).trans
    (sealed_under_resources plain quoteless (track_drawing_nil mode)
      (fun _ => track_drawing_cleanup mode) tracks)
  rw [sound_iff, blocks, regroups, lines, edits, sealed_under_iff closedWrapped]
  constructor
  · rintro ⟨regroups, edits, logs⟩
    refine ⟨fun wanted program ranTo => ?_, fun program ranTo => ?_, fun wanted program ranTo => ?_⟩
    · rw [leaves_unique ranTo ranShown]
      exact regroups wanted
    · rw [leaves_unique ranTo ranWrapped]
      exact edits
    · rw [leaves_unique ranTo ranDrawn]
      exact logs wanted
  · intro keeps
    exact ⟨fun wanted => keeps.regroups wanted shown ranShown, keeps.edits wrapped ranWrapped,
      fun wanted => keeps.logs wanted drawn ranDrawn⟩

/-- A valid program is kept valid unless its brackets are torn apart by the wrapping or a line
that is written anew is not closed. -/
theorem output_valid_iff (options : Options) (mode : Mode) (stamp source : Text)
    (out : Instrumented) (level : Level) (catalog : Catalog) (plain : Unbroken stamp)
    (quoteless : '"' ∉ stamp) (valid : (Report.ofText source level catalog).isValid = true)
    (ran : instrument? options mode stamp source = some out) :
    (Report.ofText out.program level catalog).isValid = true ↔
      KeepsValid options mode stamp source := by
  rw [is_valid_iff_sound] at valid ⊢
  exact sound_output_iff plain quoteless valid ran

/-- Where no pass but that for graphics runs, it meets the lines of the source. -/
theorem keeps_valid_of_graphics {source : Text}
    (closed : ∀ entry ∈ masked (splitLines source),
      Sealed (trackDrawing .graphics entry.1)) :
    KeepsValid graphicsOnly .graphics [] source := by
  refine ⟨fun wanted => absurd wanted (by decide), fun program ran line outside => ?_,
    fun wanted => absurd wanted (by decide)⟩
  have start : Leaves graphicsOnly .graphics [] source [.console, .flowControl] source :=
    ⟨[], rfl⟩
  obtain rfl := leaves_unique start ran
  exact closed (line, false) outside

/-- A point that is drawn in a loop. -/
def drawingLoop : Text := "DO\nPSET (x, y), 3\nLOOP".toList

theorem drawing_loop_stays_valid : ∃ out,
    (Report.ofText drawingLoop .basic .empty).isValid = true ∧
    instrument? graphicsOnly .graphics [] drawingLoop = some out ∧
    (Report.ofText out.program .basic .empty).isValid = true := by
  have valid : (Report.ofText drawingLoop .basic .empty).isValid = true := by decide +kernel
  have keeps : KeepsValid graphicsOnly .graphics [] drawingLoop :=
    keeps_valid_of_graphics (by decide +kernel)
  exact ⟨_, valid, rfl, (output_valid_iff graphicsOnly .graphics [] drawingLoop _ .basic .empty
    unbroken_nil List.not_mem_nil valid rfl).mpr keeps⟩

/-- An image whose colour depth comes from a call. -/
def imageOfCalledDepth : Text := "img = _NEWIMAGE(640, 480, VAL(d$))".toList

/-- The tracked call leaves the depth out, but only up to the first parenthesis that closes, which
is not its own. -/
theorem image_of_called_depth_breaks : ∃ out,
    (Report.ofText imageOfCalledDepth .basic .empty).isValid = true ∧
    instrument? graphicsOnly .graphics [] imageOfCalledDepth = some out ∧
    (Report.ofText out.program .basic .empty).isValid = false := by
  have valid : (Report.ofText imageOfCalledDepth .basic .empty).isValid = true := by decide +kernel
  have outside : (imageOfCalledDepth, false) ∈ masked (splitLines imageOfCalledDepth) := by
    decide +kernel
  refine ⟨_, valid, rfl, Bool.eq_false_iff.mpr fun still => ?_⟩
  rw [is_valid_iff_sound] at valid still
  have keeps : KeepsValid graphicsOnly .graphics [] imageOfCalledDepth :=
    (sound_output_iff unbroken_nil List.not_mem_nil valid rfl).mp still
  have closed := keeps.edits imageOfCalledDepth ⟨[], rfl⟩ imageOfCalledDepth outside
  exact absurd closed (by decide +kernel)

end BasicBench.Check
