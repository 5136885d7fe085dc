import BasicBench.Proofs.Neighbours

/-!
What the whole instrumentation guarantees of the lines outside blocks. Each guarantee is
established by one action of one pass. The passes run in a fixed order, so only the actions behind
that one have to keep it.
-/

set_option autoImplicit false

namespace BasicBench.Instrument

open Text Pattern

/-- No line asks for a file number itself. -/
def RequestsTracked (lines : List Text) : Prop :=
  ∀ line, Outside lines line → (keyword "FREEFILE").occursIn line = false

/-- A cleanup stands right above every exit. -/
def ExitsCleaned (lines : List Text) : Prop :=
  ∀ above line below, masked lines = above ++ (line, false) :: below → isExit line = true →
    ∃ previous, above.getLast? = some previous ∧ isCleanup previous.1 = true

/-- No program ends without its exit procedure. -/
def EndsReplaced (lines : List Text) : Prop :=
  ∀ line, Outside lines line → bareEnd.startsText line = false

/-- A call stands right below every statement of a kind. -/
def StatementsFollowed (statement : Pattern) (isCall : Text → Bool) (lines : List Text) : Prop :=
  ∀ above line below, masked lines = above ++ (line, false) :: below →
    statement.startsText line = true → ∃ next, below.head? = some next ∧ isCall next.1 = true

theorem requests_tracked {lines : List Text} (none : NoneOutside asksForFile lines) :
    RequestsTracked lines := by
  intro line outside
  have lacks := none line outside
  rw [asksForFile, Bool.not_eq_false'] at lacks
  exact no_freefile_of_lacks line lacks

theorem exits_cleaned {lines : List Text} (guarded : Guarded lines) : ExitsCleaned lines := by
  intro above line below split exits
  rw [Guarded, split, ← List.cons_append, List.isChain_append] at guarded
  have last := List.getLast?_eq_some_getLast (List.cons_ne_nil border above)
  have cleans := guarded.2.2 _ last (line, false) rfl rfl exits
  rcases List.eq_nil_or_concat above with rfl | ⟨others, previous, rfl⟩
  · rw [List.getLast_singleton, border, not_cleanup_of_blank blank_nil] at cleans
    exact absurd cleans (by decide)
  · refine ⟨previous, by rw [List.concat_eq_append, List.getLast?_concat], ?_⟩
    simpa using cleans

theorem statements_followed {statement : Pattern} {isCall : Text → Bool} {lines : List Text}
    (blank : isCall [] = false) (answered : Answered statement.startsText isCall lines) :
    StatementsFollowed statement isCall lines := by
  intro above line below split starts
  rw [Answered, split, List.append_assoc, List.cons_append] at answered
  have here := answered.right_of_append
  rw [List.isChain_cons] at here
  cases below with
  | nil =>
      have calls := here.1 border rfl rfl starts
      rw [border, blank] at calls
      exact absurd calls (by decide)
  | cons next below => exact ⟨next, rfl, here.1 next rfl rfl starts⟩

/-! What the actions establish and keep. -/

section Actions

variable {options : Options} {stamp : Text}

theorem guarded_after_cleanup (lines : List Text) :
    Guarded (Action.cleanUp.perform options stamp lines) := by
  rw [Guarded, Action.perform, masked_insert_cleanup]
  exact guarded_of_guard none border (fun found => absurd found (by decide)) (masked lines)

/-- The actions of the passes behind the one that puts cleanups in. -/
def IsFinishing : Action → Prop
  | .support _ | .exchange .image | .exchange .point | .logFiles | .takeShots => True
  | _ => False

theorem later_of_finishing {action : Action} (finishing : IsFinishing action) :
    IsLater action ∧ action ≠ .wrap ∧ action ≠ .exchange .freefile := by
  cases action with
  | support feature => simp [IsLater]
  | exchange edit => cases edit <;> simp_all [IsLater, IsFinishing]
  | logFiles => simp [IsLater]
  | takeShots => simp [IsLater]
  | _ => exact absurd finishing (by simp [IsFinishing])

theorem guarded_kept (plain : Unbroken stamp) {action : Action} (finishing : IsFinishing action) :
    KeptBy options stamp Guarded action := by
  intro lines unbroken guarded
  cases action with
  | support feature =>
      rw [Action.perform]
      split
      · exact guarded
      · exact guarded_insert (contained_support options stamp plain lines feature) guarded
  | exchange edit =>
      exact guarded_exchange edit (fun same => (later_of_finishing finishing).2.2 (by rw [same]))
        unbroken guarded
  | logFiles =>
      rw [Guarded, Action.perform, masked_log_files]
      refine guarded_follow_tagged _ _ (fun line other added => ⟨?_, ?_⟩) border _ guarded
      · exact not_cleanup_of_open (file_log_some added).1
      · exact call_is_no_exit (calls_file_log added) (by decide)
  | takeShots =>
      rw [Guarded, Action.perform, masked_take_shots]
      refine guarded_follow_tagged _ _ (fun line other added => ⟨?_, ?_⟩) border _ guarded
      · exact not_cleanup_of_draw (screenshot_some added).1
      · exact call_is_no_exit (calls_screenshot added) (by decide)
  | _ => exact absurd finishing (by simp [IsFinishing])

/-- The call behind an open statement is such a call and no open statement. -/
theorem file_log_answers {line other : Text} (added : fileLog? line = some other) :
    isFileLog other = true ∧ openStatement.startsText other = false := by
  refine ⟨?_, not_starts_of_leads led_open (by decide)
    (leads_of_calls (calls_file_log added))⟩
  obtain ⟨-, left, form, gap, name, c, more, -, blank, -, -, -, -, rfl⟩ := file_log_some added
  have solid : isSolid (fileLogCall ++ (", \"Opened file: \" + ".toList ++ (name ++ [')']))) = true := by
    have head : fileLogCall.head? = some 'C' := by decide
    simp only [isSolid, List.head?_append, head, ← List.append_assoc, List.getLast?_concat,
      Option.some_or]
    decide
  rw [List.append_assoc, List.append_assoc, List.append_assoc, isFileLog,
    trim_append_left _ _ blank, trim_of_solid _ solid, startsWith, List.isPrefixOf_iff_prefix]
  exact List.prefix_append _ _

theorem screenshot_answers {line other : Text} (added : screenshot? line = some other) :
    isScreenshot other = true ∧ drawStatement.startsText other = false ∧
      openStatement.startsText other = false := by
  have leads := leads_of_calls (calls_screenshot added)
  obtain ⟨-, left, more, blank, -, rfl⟩ := screenshot_some added
  refine ⟨?_, not_draw_of_leads leads (by decide),
    not_starts_of_leads led_open (by decide) leads⟩
  rw [isScreenshot, trim_append_left _ _ blank]
  decide

theorem open_is_no_draw {line : Text} (draws : drawStatement.startsText line = true) :
    openStatement.startsText line = false :=
  not_starts_of_draw led_open (by decide) draws

theorem logged_after_log_files (lines : List Text) :
    Answered openStatement.startsText isFileLog (Action.logFiles.perform options stamp lines) := by
  rw [Answered, Action.perform, masked_log_files]
  refine answered_of_follow (fun line opens => ?_) (fun _ _ => file_log_answers) (masked lines)
  rw [fileLog?, Option.isSome_map]
  exact opens

theorem shot_after_take_shots (lines : List Text) :
    Answered drawStatement.startsText isScreenshot (Action.takeShots.perform options stamp lines) := by
  rw [Answered, Action.perform, masked_take_shots]
  refine answered_of_follow (fun line draws => ?_)
    (fun _ _ added => ⟨(screenshot_answers added).1, (screenshot_answers added).2.1⟩) (masked lines)
  rw [screenshot?, Option.isSome_map]
  exact draws

theorem open_of_blank : openStatement.startsText [] = false := by decide

theorem logged_kept (plain : Unbroken stamp) :
    ∀ action ∈ actionsOf options .screenshots,
      KeptBy options stamp (Answered openStatement.startsText isFileLog) action := by
  intro action member lines _ answered
  rw [actionsOf, List.mem_cons, List.mem_singleton] at member
  rcases member with rfl | rfl
  · rw [Action.perform]
    split
    · exact answered
    · exact answered_insert (contained_support options stamp plain lines .screenshots) open_of_blank
        (fun _ => header_is_no_open) answered
  · rw [Answered, Action.perform, masked_take_shots]
    exact answered_follow (fun _ _ added => ⟨open_is_no_draw (screenshot_some added).1,
      (screenshot_answers added).2.2⟩) _ answered

end Actions

/-! The whole run. -/

/-- The passes around one that is selected. -/
theorem selected_around {options : Options} {mode : Mode} {feature : Feature}
    {before after : List Feature} (order : Feature.all = before ++ feature :: after)
    (chosen : isSelected options mode feature = true) :
    selected options mode = before.filter (isSelected options mode) ++
      feature :: after.filter (isSelected options mode) := by
  rw [selected, order, List.filter_append, List.filter_cons_of_pos chosen]

theorem instrument_run {options : Options} {mode : Mode} {stamp source : Text} {out : Instrumented}
    (ran : instrument? options mode stamp source = some out) :
    ∃ revision, runPasses? options stamp source (selected options mode) = some revision ∧
      revision.program = out.program ∧ revision.changes = out.changes := by
  obtain ⟨revision, passed, rfl⟩ := Option.map_eq_some_iff.mp ran
  exact ⟨revision, passed, rfl, rfl⟩

/-- What an action of a selected pass establishes holds in the end when all actions behind it
keep it. -/
theorem instrument_establishes {options : Options} {mode : Mode} {stamp source : Text}
    {out : Instrumented} {property : List Text → Prop} (plain : Unbroken stamp)
    (ignores : IgnoresEnd property) (before : List Feature) (feature : Feature)
    (after : List Feature) (order : Feature.all = before ++ feature :: after)
    (chosen : isSelected options mode feature = true) (earlier : List Action) (action : Action)
    (later : List Action) (row : actionsOf options feature = earlier ++ action :: later)
    (established : ∀ lines, AllUnbroken lines → property (action.perform options stamp lines))
    (kept : ∀ other ∈ later, KeptBy options stamp property other)
    (keptBehind : ∀ other ∈ after, ∀ action ∈ actionsOf options other,
      KeptBy options stamp property action)
    (ran : instrument? options mode stamp source = some out) :
    property (splitLines out.program) := by
  obtain ⟨revision, passed, same, -⟩ := instrument_run ran
  rw [selected_around order chosen] at passed
  rw [← same]
  refine run_passes_establishes plain ignores (fun program revision ranPass =>
    run_pass_establishes plain ignores row established kept ranPass) ?_ passed
  exact fun other member => keptBehind other (List.mem_of_mem_filter member)

theorem finishing_of_resources (options : Options) :
    ∀ feature ∈ [Feature.graphics, .logging, .screenshots], ∀ action ∈ actionsOf options feature,
      IsFinishing action := by
  simp [actionsOf, IsFinishing]

section Run

variable {options : Options} {mode : Mode} {stamp source : Text} {out : Instrumented}

theorem no_request_in_output (plain : Unbroken stamp) (tracks : options.resources = true)
    (ran : instrument? options mode stamp source = some out) :
    NoneOutside asksForFile (splitLines out.program) := by
  have kept : ∀ action, IsFinishing action → KeptBy options stamp (NoneOutside asksForFile) action := by
    intro action finishing
    obtain ⟨later, moves, other⟩ := later_of_finishing finishing
    exact no_request_kept plain action later moves other
  have keptByCleanup : KeptBy options stamp (NoneOutside asksForFile) .cleanUp :=
    no_request_kept plain .cleanUp (by simp [IsLater]) (by simp) (by simp)
  refine instrument_establishes plain (none_outside_ignores_end (by decide))
    [.console, .flowControl] .resources [.graphics, .logging, .screenshots] rfl tracks
    [.support .resources] (.exchange .freefile) [.cleanUp] rfl no_request_after_exchange ?_ ?_ ran
  · intro other member
    rw [List.mem_singleton.mp member]
    exact keptByCleanup
  · exact fun other member action listed =>
      kept action (finishing_of_resources options other member action listed)

theorem guarded_output (plain : Unbroken stamp) (tracks : options.resources = true)
    (ran : instrument? options mode stamp source = some out) :
    Guarded (splitLines out.program) :=
  instrument_establishes plain guarded_ignores_end [.console, .flowControl] .resources
    [.graphics, .logging, .screenshots] rfl tracks [.support .resources, .exchange .freefile] .cleanUp
    [] rfl (fun lines _ => guarded_after_cleanup lines) (by simp)
    (fun other member action listed =>
      guarded_kept plain (finishing_of_resources options other member action listed)) ran

/-- The actions of the passes behind the console pass all come later than its own. -/
theorem later_of_console (options : Options) :
    ∀ feature ∈ [Feature.flowControl, .resources, .graphics, .logging, .screenshots],
      ∀ action ∈ actionsOf options feature, IsLater action := by
  simp [actionsOf, IsLater]

theorem no_end_in_output (plain : Unbroken stamp) (shows : options.console = true)
    (exits : options.autoExit = true)
    (ran : instrument? options mode stamp source = some out) :
    NoneOutside bareEnd.startsText (splitLines out.program) := by
  have row : actionsOf options .console =
      [.normalize, .direct, .support .console, .pause] ++ .exit :: [] := by
    rw [actionsOf, exits, if_pos rfl]
  exact instrument_establishes plain (none_outside_ignores_end (no_end_of_blank [] blank_nil)) []
    .console [.flowControl, .resources, .graphics, .logging, .screenshots] rfl shows
    [.normalize, .direct, .support .console, .pause] .exit [] row no_end_after_exit (by simp)
    (fun other member action listed =>
      no_end_kept plain action (later_of_console options other member action listed)) ran

theorem logged_output (plain : Unbroken stamp) (logs : options.logging = true)
    (ran : instrument? options mode stamp source = some out) :
    Answered openStatement.startsText isFileLog (splitLines out.program) := by
  refine instrument_establishes plain (answered_ignores_end open_of_blank)
    [.console, .flowControl, .resources, .graphics] .logging [.screenshots] rfl logs
    [.support .logging] .logFiles [] rfl (fun lines _ => logged_after_log_files lines) (by simp) ?_ ran
  intro other member
  rw [List.mem_singleton.mp member]
  exact logged_kept plain

theorem shot_output (plain : Unbroken stamp) (shoots : options.screenshots = true)
    (draws : mode.draws = true) (ran : instrument? options mode stamp source = some out) :
    Answered drawStatement.startsText isScreenshot (splitLines out.program) :=
  instrument_establishes plain (answered_ignores_end (by decide))
    [.console, .flowControl, .resources, .graphics, .logging] .screenshots [] rfl
    (by rw [isSelected, shoots, draws]; rfl) [.support .screenshots] .takeShots [] rfl
    (fun lines _ => shot_after_take_shots lines) (by simp) (by simp) ran

end Run

/-- Whatever is instrumented, the selected passes leave nothing undone outside blocks. -/
theorem guarantees_of_output (options : Options) (mode : Mode) (stamp source : Text)
    (out : Instrumented) (plain : Unbroken stamp)
    (ran : instrument? options mode stamp source = some out) :
    (options.resources = true → RequestsTracked (splitLines out.program) ∧
      ExitsCleaned (splitLines out.program)) ∧
    (options.console = true → options.autoExit = true → EndsReplaced (splitLines out.program)) ∧
    (options.logging = true →
      StatementsFollowed openStatement isFileLog (splitLines out.program)) ∧
    (options.screenshots = true → mode.draws = true →
      StatementsFollowed drawStatement isScreenshot (splitLines out.program)) := by
  refine ⟨fun tracks => ⟨?_, ?_⟩, fun shows exits => ?_, fun logs => ?_, fun shoots draws => ?_⟩
  · exact requests_tracked (no_request_in_output plain tracks ran)
  · exact exits_cleaned (guarded_output plain tracks ran)
  · exact no_end_in_output plain shows exits ran
  · exact statements_followed (by decide) (logged_output plain logs ran)
  · exact statements_followed (by decide) (shot_output plain shoots draws ran)

/-- A program with a statement of each kind, to which all passes apply. -/
theorem guarantees_of_drawing_program : ∃ out,
    instrument? {} .mixed []
      "OPEN \"a\" FOR INPUT AS #1\nPRINT FREEFILE\nLINE (0, 0)-(9, 9)\nSYSTEM\nEND".toList = some out ∧
    RequestsTracked (splitLines out.program) ∧ ExitsCleaned (splitLines out.program) ∧
    EndsReplaced (splitLines out.program) ∧
    StatementsFollowed openStatement isFileLog (splitLines out.program) ∧
    StatementsFollowed drawStatement isScreenshot (splitLines out.program) := by
  have ends := guarantees_of_output {} .mixed []
    "OPEN \"a\" FOR INPUT AS #1\nPRINT FREEFILE\nLINE (0, 0)-(9, 9)\nSYSTEM\nEND".toList _ unbroken_nil rfl
  exact ⟨_, rfl, (ends.1 rfl).1, (ends.1 rfl).2, ends.2.1 rfl rfl, ends.2.2.1 rfl,
    ends.2.2.2 rfl rfl⟩

end BasicBench.Instrument
