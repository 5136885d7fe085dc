import BasicBench.Proofs.Enhancements
import BasicBench.Proofs.PromptMatches

/-!
Whether the remedy for a wait behind a prompt has been carried out. It counts as applied when the
flow control is built in. But pauses are put in place of waits by the console's pass, so a wait is
gone only with that one, and the wrapping behind it can bring a prompt together with another wait.
-/

set_option autoImplicit false

namespace BasicBench.Instrument

open Text Pattern

/-- Every line that quotes the prompt is a prompt statement by itself, which no edit changes. -/
def PromptsAlone (lines : List Text) : Prop :=
  ∀ line ∈ lines, Quotes line →
    promptStatement.startsText line = true ∧ ∀ edit : Edit, edit.apply line = line

theorem tame_of_prompts_alone {lines : List Text} (alone : PromptsAlone lines) {line : Text}
    (member : line ∈ lines) : Tame line := by
  intro quotes
  rcases alone line member quotes with ⟨prompts, fixed⟩
  exact ⟨.inl prompts, fun edit => (apply_rests_iff edit line).mp (fixed edit)⟩

/-- The lines outside blocks of the output show a prompt with its wait where the console was left
alone, or where the wrapping has brought a prompt together with a wait. -/
theorem wait_in_output_iff {options : Options} {mode : Mode} {stamp source : Text}
    {out : Instrumented} (plain : Unbroken stamp)
    (unmarked : ∀ line ∈ splitLines source, markerKind? line = none)
    (alone : PromptsAlone (splitLines source)) (waits : promptAndWait.occursIn source = true)
    (ran : instrument? options mode stamp source = some out) :
    promptAndWait.occursIn (joinLines (outsideLines (splitLines out.program)) false) = true ↔
      options.console = false ∨ (options.flowControl = true ∧
        ∃ shown, Check.Leaves options mode stamp source [.console] shown ∧ WaitsMeet shown) := by
  have tame : ∀ line ∈ splitLines source, Tame line := fun line => tame_of_prompts_alone alone
  have stalls := stalls_of_match tame waits
  rcases waits_if_output plain unmarked (fun line outside => tame line (mem_of_mem_masked outside))
    ran with ⟨tameOut, stallsOut⟩
  have unbroken : AllUnbroken (outsideLines (splitLines out.program)) := by
    intro line member
    rw [mem_outside_lines_iff] at member
    exact all_unbroken_split out.program line (mem_of_mem_masked member)
  rw [joined_match_iff unbroken fun line member => tameOut line ((mem_outside_lines_iff ..).mp member)]
  change Stalls (outsideRoles (splitLines out.program)) ↔ _
  rw [stallsOut, and_iff_left stalls]

/-! Programs without procedures. -/

/-- No procedure begins outside blocks. -/
def NoProcedures (lines : List Text) : Prop :=
  ∀ line, Outside lines line → procedureStart.startsText line = false

theorem not_start_of_blank {line : Text} (blank : Blank line) :
    procedureStart.startsText line = false := by
  have header : isHeader line false = true := by
    rw [isHeader, trim_of_blank line blank]
    rfl
  exact (top_of_header header).1

theorem no_procedures_ignores_end : IgnoresEnd NoProcedures :=
  outside_ignores_end (not_start_of_blank blank_nil)

theorem not_start_of_console {line : Text} (ours : ConsoleLine line) :
    procedureStart.startsText line = false := by
  cases ours with
  | directive => decide
  | gap blank => exact not_start_of_blank blank
  | pause blank => exact no_procedure_start (leads_of_calls (calls_pause _ blank)) (by decide)
  | exit blank => exact no_procedure_start (leads_of_calls (calls_exit _ blank)) (by decide)

theorem console_of_mem_actions {options : Options} {action : Action}
    (member : action ∈ actionsOf options .console) : action.isConsole = true := by
  rw [actionsOf] at member
  split at member
  · revert action
    decide
  · revert action
    decide

/-- The console's pass brings no procedure in. -/
theorem no_procedures_kept {options : Options} {stamp : Text} (plain : Unbroken stamp)
    {action : Action} (member : action ∈ actionsOf options .console) :
    KeptBy options stamp NoProcedures action := by
  intro lines unbroken none line outside
  have cases := outside_console_cases plain (console_of_mem_actions member) unbroken outside
  exact cases.elim (none line) not_start_of_console

/-- Prompts and waits come together only across procedures. -/
theorem apart_without_procedures {options : Options} {mode : Mode} {stamp source shown : Text}
    (plain : Unbroken stamp) (unmarked : ∀ line ∈ splitLines source, markerKind? line = none)
    (tame : AllTame (splitLines source)) (none : NoProcedures (splitLines source))
    (shows : options.console = true)
    (leaves : Check.Leaves options mode stamp source [.console] shown) : ¬WaitsMeet shown := by
  rcases (Check.leaves_concat [] _ _).mp leaves with ⟨start, nothing, step⟩
  rw [(Check.leaves_nothing start).mp nothing] at step
  have waits := (waits_if_shown plain unmarked tame step).2
  have still : NoProcedures (splitLines shown) := by
    rw [Check.Step, isSelected, if_pos shows] at step
    rcases step with ⟨changes, ran⟩
    exact run_pass_keeps plain no_procedures_ignores_end
      (fun action member => no_procedures_kept plain member) ran none
  rintro ⟨-, meet⟩
  have stalls := waits.mp (Sections.stalls_of_main still ((prompt_waits_iff _).mp meet))
  rw [shows] at stalls
  cases stalls.1

/-! The issue and its remedy. -/

/-- What the rule for a kind of issue reports. -/
def reported? (mode : Mode) (program : Text) : IssueKind → Option Issue
  | .consoleVisibility => consoleIssue? mode program
  | .flowControl => waitIssue? program
  | .fileHandle => fileIssue? program
  | .graphicsContext => imageIssue? program
  | .processManagement => exitIssue? program

theorem issues_eq (mode : Mode) (program : Text) :
    issues mode program = IssueKind.all.filterMap (reported? mode program) := by
  rw [List.filterMap_eq_flatMap_toList]
  simp [issues, IssueKind.all, reported?]

section Kinds

variable {mode : Mode} {program : Text} {issue : Issue}

/-- A rule reports issues of its own kind, under the name of the first of them. -/
theorem reported_of_kind {kind : IssueKind} (made : reported? mode program kind = some issue) :
    issue.kind = kind ∧ issue.id = kind.label ++ "_1" := by
  cases kind with
  | consoleVisibility =>
      rw [reported?, consoleIssue?] at made
      split at made
      · cases made
      · exact Option.some.inj made ▸ ⟨rfl, rfl⟩
  | flowControl =>
      rw [reported?, waitIssue?, Option.map_eq_some_iff] at made
      rcases made with ⟨found, -, rfl⟩
      exact ⟨rfl, rfl⟩
  | fileHandle =>
      rw [reported?, fileIssue?] at made
      split at made
      · cases made
      · exact Option.some.inj made ▸ ⟨rfl, rfl⟩
  | graphicsContext =>
      rw [reported?, imageIssue?] at made
      split at made
      · cases made
      split at made
      · cases made
      · exact Option.some.inj made ▸ ⟨rfl, rfl⟩
  | processManagement =>
      rw [reported?, exitIssue?, Option.bind_eq_some_iff] at made
      rcases made with ⟨found, -, made⟩
      split at made
      · cases made
      · exact Option.some.inj made ▸ ⟨rfl, rfl⟩

/-- Only a prompt with a wait is reported as an issue of the flow control. -/
theorem wait_of_issue (found : issue ∈ issues mode program) (kind : issue.kind = .flowControl) :
    promptAndWait.occursIn program = true := by
  rw [issues_eq, List.mem_filterMap] at found
  rcases found with ⟨rule, -, made⟩
  obtain rfl : rule = .flowControl := (reported_of_kind made).1.symm.trans kind
  rw [reported?, waitIssue?, Option.map_eq_some_iff] at made
  rcases made with ⟨match', matched, -⟩
  rw [occursIn, matched]
  rfl

end Kinds

theorem mem_remedies {found : List Issue} {issue : Issue} (member : issue ∈ found) :
    ⟨issue.id, issue.kind.advice⟩ ∈ remedies found := by
  rw [remedies, List.mem_mergeSort]
  exact List.mem_map_of_mem member

theorem features_of_instrumented {options : Options} {mode : Mode} {stamp source : Text}
    {out : Instrumented} (ran : instrument? options mode stamp source = some out) :
    out.features = selected options mode := by
  rw [instrument?, Option.map_eq_some_iff] at ran
  rcases ran with ⟨revision, -, rfl⟩
  rfl

end BasicBench.Instrument

namespace BasicBench.Sessions.Store

open Instrument Text Pattern

variable {store : Store} {request : Request} {circumstances : Circumstances}
  {enhancement : Enhancement}

/-- What an enhancement that succeeds is made of. -/
structure Prepared (request : Request) (circumstances : Circumstances)
    (enhancement : Enhancement) : Prop where
  read : Options.read request.options = .ok enhancement.session.options
  mode : enhancement.session.mode = Mode.detect request.source
  issues : enhancement.session.issues = Instrument.issues enhancement.session.mode request.source
  remedies : enhancement.session.remedies = Instrument.remedies enhancement.session.issues
  ran : instrument? enhancement.session.options enhancement.session.mode circumstances.stamp
    request.source = some enhancement.instrumented

theorem prepared_of_enhanced (enhanced : (store.enhance request circumstances).2 = .ok enhancement) :
    Prepared request circumstances enhancement := by
  rw [enhance] at enhanced
  split at enhanced
  · cases enhanced
  next session opened began =>
    split at enhanced
    · cases enhanced
    next instrumented ran =>
      rw [← Except.ok.inj enhanced]
      rw [openSession] at began
      split at began
      · cases began
      next options read =>
        dsimp only at began
        split at began
        next created made =>
          rcases create_some made with ⟨id, -, -, same, -⟩
          rw [Except.ok.inj began] at same
          dsimp only at same
          refine ⟨?_, by rw [same], by rw [same], by rw [same], ran⟩
          rw [read, same]
        next => cases began

/-- The remedy for a wait counts as applied exactly when the flow control is on. -/
theorem wait_remedy_counts_iff (prepared : Prepared request circumstances enhancement)
    {issue : Issue} (found : issue ∈ enhancement.session.issues) (kind : issue.kind = .flowControl) :
    ⟨issue.id, issue.kind.advice⟩ ∈ applied enhancement.session enhancement.instrumented ↔
      enhancement.session.options.flowControl = true := by
  have listed := mem_remedies found
  rw [← prepared.remedies] at listed
  rw [applied, List.mem_filter, and_iff_right listed, features_of_instrumented prepared.ran,
    List.contains_iff_mem, selected, List.mem_filter, kind]
  have known : Feature.flowControl ∈ Feature.all := by decide
  exact and_iff_right known

/-- A wait that is reported counts as remedied exactly when the flow control is on. Where prompts
stand by themselves, it is gone exactly when the console is taken care of and the wrapping has not
brought a prompt together with another wait. -/
theorem counted_wait_gone_iff (store : Store) (request : Request) (circumstances : Circumstances)
    (enhancement : Enhancement) (issue : Issue) (plain : Unbroken circumstances.stamp)
    (unmarked : ∀ line ∈ splitLines request.source, markerKind? line = none)
    (alone : PromptsAlone (splitLines request.source))
    (enhanced : (store.enhance request circumstances).2 = .ok enhancement)
    (found : issue ∈ enhancement.session.issues) (kind : issue.kind = .flowControl) :
    (⟨issue.id, issue.kind.advice⟩ ∈ applied enhancement.session enhancement.instrumented ↔
      enhancement.session.options.flowControl = true) ∧
    (promptAndWait.occursIn (joinLines (outsideLines (splitLines enhancement.instrumented.program))
        false) = false ↔
      enhancement.session.options.console = true ∧
        (enhancement.session.options.flowControl = true → ∀ shown,
          Check.Leaves enhancement.session.options enhancement.session.mode circumstances.stamp
            request.source [.console] shown → ¬WaitsMeet shown)) := by
  have prepared := prepared_of_enhanced enhanced
  refine ⟨wait_remedy_counts_iff prepared found kind, ?_⟩
  rw [prepared.issues] at found
  have waits := wait_in_output_iff plain unmarked alone (wait_of_issue found kind) prepared.ran
  rw [← Bool.not_eq_true, waits]
  simp only [not_or, not_and, not_exists, Bool.not_eq_false]

/-- A program that waits behind a prompt. -/
def waitingRequest (console : Bool) : Request where
  source := "$CONSOLE\nPRINT \"Press any key\"\nSLEEP".toList
  options := .object [("enableConsole", .bool console), ("enableLogging", .bool false),
    ("enableScreenshots", .bool false), ("enableResourceTracking", .bool false)]

section Waiting

variable (console : Bool)

theorem waiting_lines : ∀ line ∈ splitLines (waitingRequest console).source,
    markerKind? line = none ∧ procedureStart.startsText line = false ∧
      (line = "PRINT \"Press any key\"".toList ∨ ¬Quotes line) := by
  change ∀ line ∈ splitLines (waitingRequest true).source, _
  decide +kernel

theorem waiting_unmarked : ∀ line ∈ splitLines (waitingRequest console).source,
    markerKind? line = none :=
  fun line member => (waiting_lines console line member).1

theorem waiting_prompts_alone : PromptsAlone (splitLines (waitingRequest console).source) := by
  intro line member quotes
  rcases (waiting_lines console line member).2.2 with rfl | none
  · refine ⟨by decide +kernel, ?_⟩
    intro edit
    cases edit <;> decide +kernel
  · exact absurd quotes none

theorem waiting_options : Options.read (waitingRequest console).options =
    .ok { console, logging := false, screenshots := false, resources := false } := rfl

theorem waiting_succeeds : ∃ enhancement,
    (empty.enhance (waitingRequest console) firstOffer).2 = .ok enhancement := by
  cases enhanced : (empty.enhance (waitingRequest console) firstOffer).2 with
  | ok enhancement => exact ⟨enhancement, rfl⟩
  | error fault =>
      exfalso
      rcases failed_enhancement_cases enhanced with ⟨-, -, unopened⟩ | ⟨-, long, -⟩
      · apply unopened
        apply open_session_iff.mpr
        exact ⟨⟨_, waiting_options console⟩, "debug_1_000000000", by decide, by decide⟩
      · rcases long with ⟨options, read, -, -, long⟩
        rw [← Json.Reading.ok.inj ((waiting_options console).symm.trans read)] at long
        change (longTimeout : Int) ≤ 30 at long
        exact absurd long (by decide +kernel)

/-- The wait is reported. -/
theorem waiting_reported : ∃ issue ∈ issues (Mode.detect (waitingRequest console).source)
    (waitingRequest console).source, issue.kind = .flowControl := by
  have found : (issues (Mode.detect (waitingRequest true).source)
      (waitingRequest true).source).head? = some _ := rfl
  exact ⟨_, List.mem_of_mem_head? found, rfl⟩

theorem waiting_enhanced : ∃ enhancement issue,
    (empty.enhance (waitingRequest console) firstOffer).2 = .ok enhancement ∧
    enhancement.session.options =
      { console, logging := false, screenshots := false, resources := false } ∧
    issue ∈ enhancement.session.issues ∧ issue.kind = .flowControl := by
  rcases waiting_succeeds console with ⟨enhancement, enhanced⟩
  rcases waiting_reported console with ⟨issue, found, kind⟩
  have prepared := prepared_of_enhanced enhanced
  rw [← prepared.mode, ← prepared.issues] at found
  have options := Json.Reading.ok.inj (prepared.read.symm.trans (waiting_options console))
  exact ⟨enhancement, issue, enhanced, options, found, kind⟩

end Waiting

/-- With the console taken care of, the wait is gone. -/
theorem wait_gone_with_console : ∃ enhancement issue,
    (empty.enhance (waitingRequest true) firstOffer).2 = .ok enhancement ∧
    issue ∈ enhancement.session.issues ∧ issue.kind = .flowControl ∧
    ⟨issue.id, issue.kind.advice⟩ ∈ applied enhancement.session enhancement.instrumented ∧
    promptAndWait.occursIn (joinLines (outsideLines (splitLines enhancement.instrumented.program))
        false) = false := by
  rcases waiting_enhanced true with ⟨enhancement, issue, enhanced, options, found, kind⟩
  have plain : Unbroken firstOffer.stamp := by decide
  have alone := waiting_prompts_alone true
  have tame : AllTame (splitLines (waitingRequest true).source) :=
    fun line outside => tame_of_prompts_alone alone (mem_of_mem_masked outside)
  have none : NoProcedures (splitLines (waitingRequest true).source) :=
    fun line outside => (waiting_lines true line (mem_of_mem_masked outside)).2.1
  rcases counted_wait_gone_iff empty (waitingRequest true) firstOffer enhancement issue plain
    (waiting_unmarked true) alone enhanced found kind with ⟨counts, gone⟩
  rw [options] at counts gone
  refine ⟨enhancement, issue, enhanced, found, kind, counts.mpr rfl, gone.mpr ⟨rfl, ?_⟩⟩
  intro _ shown leaves
  exact apart_without_procedures plain (waiting_unmarked true) tame none rfl leaves

/-- Without the console it is still there, and counts as remedied all the same. -/
theorem wait_stays_without_console : ∃ enhancement issue,
    (empty.enhance (waitingRequest false) firstOffer).2 = .ok enhancement ∧
    (∀ line ∈ splitLines (waitingRequest false).source, markerKind? line = none) ∧
    issue ∈ enhancement.session.issues ∧ issue.kind = .flowControl ∧
    ⟨issue.id, issue.kind.advice⟩ ∈ applied enhancement.session enhancement.instrumented ∧
    promptAndWait.occursIn (joinLines (outsideLines (splitLines enhancement.instrumented.program))
        false) = true := by
  rcases waiting_enhanced false with ⟨enhancement, issue, enhanced, options, found, kind⟩
  have prepared := prepared_of_enhanced enhanced
  have reported := found
  rw [prepared.issues] at reported
  have counts := wait_remedy_counts_iff prepared found kind
  have waits := wait_in_output_iff (by decide) (waiting_unmarked false)
    (waiting_prompts_alone false) (wait_of_issue reported kind) prepared.ran
  rw [options] at counts waits
  exact ⟨enhancement, issue, enhanced, waiting_unmarked false, found, kind, counts.mpr rfl,
    waits.mpr (.inl rfl)⟩

end BasicBench.Sessions.Store
