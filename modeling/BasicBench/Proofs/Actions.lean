import BasicBench.Instrument.Transform
import BasicBench.Proofs.SupportLines

/-!
The passes taken apart. Every pass is a row of actions on the lines of a program, each of which
reports its changes exactly when it changes a line. A property of programs that the actions keep
is therefore kept by a pass, by the passes that are selected, and by any sequence of passes.
-/

set_option autoImplicit false

namespace BasicBench.Instrument

open Text Pattern

/-- What the passes are made of. -/
inductive Action where
  | normalize | direct | support (feature : Feature) | pause | exit | wrap
  | exchange (edit : Edit) | cleanUp | logFiles | takeShots
  deriving DecidableEq, Repr

def normalizeLine (line : Text) : Text :=
  if consoleOff.startsText line then "$CONSOLE".toList else line

/-- The block of a feature as it is added to these lines. -/
def supportBlock (options : Options) (stamp : Text) (lines : List Text) : Feature → List Text
  | .console => (consoleBlock? options.timeout options.autoExit).getD []
  | .flowControl => []
  | .resources => resourceBlock
  | .graphics => graphicsBlock (hasBlock .resources lines)
  | .logging => loggingBlock stamp options.verbose
  | .screenshots => screenshotBlock stamp (hasBlock .logging lines)

namespace Action

def perform (options : Options) (stamp : Text) (lines : List Text) : Action → List Text
  | normalize => lines.map normalizeLine
  | direct =>
      if lines.any consoleDirective.startsText then lines else "$CONSOLE".toList :: lines
  | support feature =>
      if hasBlock feature lines then lines
      else insertBlock (supportBlock options stamp lines feature) lines
  | pause => replaceWaits (masked lines)
  | exit => editOutside replaceEnd lines
  | wrap => (flowControlLines options lines).lines
  | exchange edit => editOutside edit.apply lines
  | cleanUp => insertCleanup none (masked lines)
  | logFiles => followOutside fileLog? isFileLog (masked lines)
  | takeShots => followOutside screenshot? isScreenshot (masked lines)

def changes : Action → List Change
  | normalize => [.normalizedConsole]
  | direct => [.addedConsole]
  | support .console => [.injectedConsole]
  | support .flowControl => [.addedFlowControl]
  | support .resources => [.addedResources]
  | support .graphics => [.addedGraphics]
  | support .logging => [.addedLogging]
  | support .screenshots => [.addedScreenshots]
  | pause => [.replacedWaits]
  | exit => [.replacedEnds]
  | wrap => [.wrappedMain, .addedFlowControl]
  | exchange .freefile => [.replacedFreefile]
  | exchange .image => [.replacedNewimage]
  | exchange .point => [.replacedPset]
  | cleanUp => [.addedCleanup]
  | logFiles => [.addedFileLogging]
  | takeShots => [.addedAutomaticScreenshots]

end Action

/-- The actions of a pass, in order. -/
def actionsOf (options : Options) : Feature → List Action
  | .console =>
      [.normalize, .direct, .support .console, .pause] ++ if options.autoExit then [.exit] else []
  | .flowControl => [.wrap]
  | .resources => [.support .resources, .exchange .freefile, .cleanUp]
  | .graphics => [.support .graphics, .exchange .image, .exchange .point]
  | .logging => [.support .logging, .logFiles]
  | .screenshots => [.support .screenshots, .takeShots]

/-- Actions performed one after the other. -/
def performAll (options : Options) (stamp : Text) (actions : List Action) (lines : List Text) :
    List Text :=
  actions.foldl (fun lines action => action.perform options stamp lines) lines

/-- An action on a draft. -/
def Draft.act (options : Options) (stamp : Text) (draft : Draft) (action : Action) : Draft :=
  let lines := action.perform options stamp draft.lines
  if lines = draft.lines then draft else ⟨lines, draft.changes ++ action.changes⟩

/-- What a pass makes of the lines of a program. -/
def passDraft? (options : Options) (stamp : Text) (lines : List Text) : Feature → Option Draft
  | .console => consoleLines? options lines
  | .flowControl => some (flowControlLines options lines)
  | .resources => some (resourceLines lines)
  | .graphics => some (graphicsLines lines)
  | .logging => some (loggingLines options stamp lines)
  | .screenshots => some (screenshotLines stamp lines)

theorem run_pass_eq (options : Options) (stamp : Text) (feature : Feature) (program : Text) :
    runPass? options stamp feature program =
      (passDraft? options stamp (splitLines program) feature).map fun draft =>
        if feature = .flowControl ∧ draft.changes = [] then ⟨program, []⟩
        else draft.toProgram program := by
  cases feature with
  | flowControl => simp [runPass?, passDraft?]
  | _ => simp [runPass?, passDraft?]

/-! A draft that is acted on. -/

section Acts

variable (options : Options) (stamp : Text) (draft : Draft)

theorem act_lines (action : Action) :
    (draft.act options stamp action).lines = action.perform options stamp draft.lines := by
  simp only [Draft.act]
  split
  next same => exact same.symm
  next => rfl

theorem act_update (action : Action) (change : Change) (single : action.changes = [change]) :
    draft.act options stamp action =
      draft.update (action.perform options stamp draft.lines) change := by
  simp only [Draft.act, Draft.update, single]

theorem longer_insert (added lines : List Text) : insertBlock added lines ≠ lines := by
  intro same
  have length := congrArg List.length same
  simp only [insertBlock, List.length_append, List.length_take, List.length_drop,
    List.length_cons, List.length_nil] at length
  omega

theorem act_add_block (feature : Feature) (change : Change)
    (single : (Action.support feature).changes = [change]) :
    draft.act options stamp (.support feature) =
      draft.addBlock feature (supportBlock options stamp draft.lines feature) change := by
  simp only [Draft.act, Draft.addBlock, single, Action.perform]
  by_cases present : hasBlock feature draft.lines = true
  · simp [present]
  · simp [present, longer_insert]

theorem act_direct :
    draft.act options stamp .direct =
      if draft.lines.any consoleDirective.startsText then draft
      else ⟨"$CONSOLE".toList :: draft.lines, draft.changes ++ [.addedConsole]⟩ := by
  simp only [Draft.act, Action.perform, Action.changes]
  by_cases present : draft.lines.any consoleDirective.startsText = true
  · simp [present]
  · have longer : "$CONSOLE".toList :: draft.lines ≠ draft.lines := fun same => by
      simpa using congrArg List.length same
    simp only [present, Bool.false_eq_true, if_false, if_neg longer]

end Acts

theorem wrapper_head_shown (hasConsole autoExit : Bool) :
    (asLines (wrapper hasConsole autoExit)).any wrapperHead.startsText = true := by
  refine List.any_eq_true.mpr ⟨"SUB AutoTestWrapper".toList, ?_, by decide⟩
  simp [asLines, wrapper]

/-- Nothing is wrapped, or a wrapper is put where there was none. -/
theorem flow_control_cases (options : Options) (lines : List Text) :
    flowControlLines options lines = ⟨lines, []⟩ ∨
      ((flowControlLines options lines).changes = Action.wrap.changes ∧
        lines.any wrapperHead.startsText = false ∧
        (flowControlLines options lines).lines.any wrapperHead.startsText = true) := by
  unfold flowControlLines
  simp only []
  split
  · exact .inl rfl
  next wraps =>
    simp only [Bool.or_eq_true, not_or, Bool.not_eq_true] at wraps
    refine .inr ⟨rfl, wraps.1, ?_⟩
    simp only [List.any_append, wrapper_head_shown, Bool.or_true, Bool.true_or]

theorem act_wrap (options : Options) (stamp : Text) (lines : List Text) :
    Draft.act options stamp ⟨lines, []⟩ .wrap = flowControlLines options lines := by
  change (if (flowControlLines options lines).lines = lines then Draft.mk lines []
    else ⟨(flowControlLines options lines).lines, Action.wrap.changes⟩) = _
  rcases flow_control_cases options lines with same | ⟨changes, without, wrapped⟩
  · rw [same, if_pos rfl]
  · have differs : (flowControlLines options lines).lines ≠ lines := by
      intro same
      rw [same, without] at wrapped
      exact absurd wrapped (by decide)
    rw [if_neg differs, ← changes]

theorem act_pause_and_exit (options : Options) (stamp : Text) (draft : Draft) :
    (if options.autoExit then some ((draft.update (replaceWaits (masked draft.lines))
        .replacedWaits).update (editOutside replaceEnd (draft.update
          (replaceWaits (masked draft.lines)) .replacedWaits).lines) .replacedEnds)
      else some (draft.update (replaceWaits (masked draft.lines)) .replacedWaits)) =
    some ((if options.autoExit then [Action.exit] else []).foldl (Draft.act options stamp)
      (draft.act options stamp .pause)) := by
  have pauses := act_update options stamp draft .pause .replacedWaits rfl
  have waits : Action.pause.perform options stamp draft.lines =
    replaceWaits (masked draft.lines) := rfl
  rw [← waits, ← pauses]
  split
  · exact congrArg some (act_update options stamp _ .exit .replacedEnds rfl).symm
  · rfl

/-- The console pass fails only where its block is missing and cannot be built. -/
theorem console_lines_iff (options : Options) (stamp : Text) (lines : List Text) (draft : Draft) :
    consoleLines? options lines = some draft ↔
      (hasBlock .console (performAll options stamp [.normalize, .direct] lines) = true ∨
        (consoleBlock? options.timeout options.autoExit).isSome = true) ∧
      draft = (actionsOf options .console).foldl (Draft.act options stamp) ⟨lines, []⟩ := by
  unfold consoleLines?
  have normalizes := act_update options stamp ⟨lines, []⟩ .normalize .normalizedConsole rfl
  have maps : Action.normalize.perform options stamp lines = lines.map fun line =>
      if consoleOff.startsText line then "$CONSOLE".toList else line := rfl
  have directs : performAll options stamp [.normalize, .direct] lines =
      (Draft.act options stamp (Draft.act options stamp ⟨lines, []⟩ .normalize) .direct).lines := by
    rw [act_lines, act_lines]
    rfl
  rw [← maps, ← normalizes, directs]
  simp only [actionsOf, List.cons_append, List.nil_append, List.foldl_cons]
  generalize Draft.act options stamp ⟨lines, []⟩ .normalize = normalized
  rw [← act_direct options stamp normalized]
  generalize Draft.act options stamp normalized .direct = directed
  have supports := act_add_block options stamp directed .console .injectedConsole rfl
  simp only [Option.bind_eq_bind]
  by_cases present : hasBlock .console directed.lines = true
  · rw [Draft.addBlock, if_pos present] at supports
    rw [if_pos present, Option.bind_some, supports, act_pause_and_exit options stamp directed,
      Option.some.injEq, eq_comm]
    simp only [present, true_or, true_and]
  · rw [if_neg present]
    cases built : consoleBlock? options.timeout options.autoExit with
    | none => simp [present]
    | some added =>
        rw [supportBlock, built, Option.getD_some] at supports
        rw [Option.map_some, Option.bind_some, ← supports, act_pause_and_exit options stamp,
          Option.some.injEq, eq_comm]
        simp only [Option.isSome_some, or_true, true_and]

/-- A pass performs its actions one after the other. -/
theorem pass_draft_eq (options : Options) (stamp : Text) (lines : List Text) (feature : Feature)
    (draft : Draft) (drafted : passDraft? options stamp lines feature = some draft) :
    draft = (actionsOf options feature).foldl (Draft.act options stamp) ⟨lines, []⟩ := by
  cases feature with
  | console => exact ((console_lines_iff options stamp lines draft).mp drafted).2
  | flowControl =>
      obtain rfl := Option.some.inj drafted
      exact (act_wrap options stamp lines).symm
  | resources =>
      obtain rfl := Option.some.inj drafted
      simp only [actionsOf, List.foldl_cons, List.foldl_nil]
      rw [act_update _ _ _ .cleanUp .addedCleanup rfl,
        act_update _ _ _ (.exchange .freefile) .replacedFreefile rfl,
        act_add_block _ _ _ .resources .addedResources rfl]
      rfl
  | graphics =>
      obtain rfl := Option.some.inj drafted
      simp only [actionsOf, List.foldl_cons, List.foldl_nil]
      rw [act_update _ _ _ (.exchange .point) .replacedPset rfl,
        act_update _ _ _ (.exchange .image) .replacedNewimage rfl,
        act_add_block _ _ _ .graphics .addedGraphics rfl]
      rfl
  | logging =>
      obtain rfl := Option.some.inj drafted
      simp only [actionsOf, List.foldl_cons, List.foldl_nil]
      rw [act_update _ _ _ .logFiles .addedFileLogging rfl,
        act_add_block _ _ _ .logging .addedLogging rfl]
      rfl
  | screenshots =>
      obtain rfl := Option.some.inj drafted
      simp only [actionsOf, List.foldl_cons, List.foldl_nil]
      rw [act_update _ _ _ .takeShots .addedAutomaticScreenshots rfl,
        act_add_block _ _ _ .screenshots .addedScreenshots rfl]
      rfl

end BasicBench.Instrument
