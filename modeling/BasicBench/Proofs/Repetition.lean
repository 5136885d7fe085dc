import BasicBench.Proofs.Landmarks

/-!
Passes in any order and any number. A pass that owns a block leaves exactly one opening marker of
it where there was none and otherwise as many as there were, and no pass touches the markers of
another. The same holds of the console directive and the console pass. By induction this goes for
every sequence of passes, each with options and a time stamp of its own.
-/

set_option autoImplicit false

namespace BasicBench.Instrument

open Text Pattern

/-- One pass of a sequence. -/
structure Turn where
  feature : Feature
  options : Options
  stamp : Text

/-- Runs passes one after the other. -/
def runTurns? (program : Text) : List Turn → Option Text
  | [] => some program
  | turn :: rest => do
      let revision ← runPass? turn.options turn.stamp turn.feature program
      runTurns? revision.program rest

/-- The number of lines that are the opening marker of a feature. -/
def markerCount (feature : Feature) (program : Text) : Nat :=
  (splitLines program).countP (isMarkerOf feature)

/-- The number of lines that are a console directive. -/
def directiveCount (program : Text) : Nat :=
  (splitLines program).countP consoleDirective.startsText

section Counts

variable {options : Options} {stamp : Text} {check : Text → Bool}

/-- A blank line at the end changes no number. -/
theorem count_of_agree (landmark : Landmark check) {left right : List Text}
    (agree : AgreeButEnd left right) : left.countP check = right.countP check := by
  have longer : ∀ lines, (lines ++ [[]]).countP check = lines.countP check := fun lines => by
    rw [List.countP_append, List.countP_singleton, landmark.blank [] blank_nil]
    simp
  rcases agree with rfl | rfl | rfl
  · rfl
  · exact (longer left).symm
  · exact longer right

/-- Actions that add no block and no directive. -/
def IsQuiet (action : Action) : Prop := (∀ feature, action ≠ .support feature) ∧ action ≠ .direct

theorem count_quiet (landmark : Landmark check) (plain : Unbroken stamp) (actions : List Action)
    (quiet : ∀ action ∈ actions, IsQuiet action) (lines : List Text)
    (unbroken : AllUnbroken lines) :
    (performAll options stamp actions lines).countP check = lines.countP check := by
  have kept : ∀ action ∈ actions, KeptBy options stamp
      (fun other => other.countP check = lines.countP check) action := by
    intro action member other otherUnbroken counted
    have same := landmark.count_perform options stamp other otherUnbroken action
      (quiet action member).1 (quiet action member).2
    exact same.trans counted
  exact perform_all_keeps plain kept unbroken rfl

/-- What a pass does before it adds its block. -/
def leadingActions : Feature → List Action
  | .console => [.normalize, .direct]
  | _ => []

/-- What a pass does once its block is there. -/
def trailingActions (options : Options) : Feature → List Action
  | .console => .pause :: if options.autoExit then [.exit] else []
  | .flowControl => []
  | .resources => [.exchange .freefile, .cleanUp]
  | .graphics => [.exchange .image, .exchange .point]
  | .logging => [.logFiles]
  | .screenshots => [.takeShots]

theorem actions_around_support (options : Options) (feature : Feature)
    (owns : feature ≠ .flowControl) :
    actionsOf options feature =
      leadingActions feature ++ .support feature :: trailingActions options feature := by
  cases feature with
  | flowControl => exact absurd rfl owns
  | _ => rfl

theorem trailing_quiet (options : Options) (feature : Feature) :
    ∀ action ∈ trailingActions options feature, IsQuiet action := by
  cases feature with
  | console => cases autoExit : options.autoExit <;> simp [trailingActions, autoExit, IsQuiet]
  | _ => simp [trailingActions, IsQuiet]

theorem perform_all_append (first second : List Action) (lines : List Text) :
    performAll options stamp (first ++ second) lines =
      performAll options stamp second (performAll options stamp first lines) :=
  List.foldl_append

/-- Where a pass succeeds, the block that is missing is there to be added. -/
theorem support_of_missing (plain : Unbroken stamp) {feature : Feature} {lines : List Text}
    {draft : Draft} (owns : feature ≠ .flowControl)
    (drafted : passDraft? options stamp lines feature = some draft)
    (missing : hasBlock feature (performAll options stamp (leadingActions feature) lines) = false) :
    IsSupport feature (supportBlock options stamp
      (performAll options stamp (leadingActions feature) lines) feature) := by
  rcases support_block_cases options stamp (performAll options stamp (leadingActions feature) lines)
    feature plain with support | ⟨-, flow | ⟨rfl, unbuilt⟩⟩
  · exact support
  · exact absurd flow owns
  · have built := ((console_lines_iff options stamp lines draft).mp drafted).1
    rw [unbuilt, Option.isSome_none] at built
    have present := built.resolve_right (by decide)
    rw [leadingActions, present] at missing
    cases missing

theorem support_of_draft (plain : Unbroken stamp) {feature : Feature} {lines : List Text}
    {draft : Draft} (owns : feature ≠ .flowControl)
    (drafted : passDraft? options stamp lines feature = some draft) :
    ∃ added, IsSupport feature added ∧
      (Action.support feature).perform options stamp
          (performAll options stamp (leadingActions feature) lines) =
        if hasBlock feature (performAll options stamp (leadingActions feature) lines)
        then performAll options stamp (leadingActions feature) lines
        else insertBlock added (performAll options stamp (leadingActions feature) lines) := by
  cases present : hasBlock feature (performAll options stamp (leadingActions feature) lines) with
  | true =>
      refine ⟨block feature [], ⟨[], rfl, by simp⟩, ?_⟩
      rw [Action.perform, present]
      rfl
  | false =>
      refine ⟨_, support_of_missing plain owns drafted present, ?_⟩
      rw [Action.perform, present]

/-- Counting over the actions of a pass: only its block and the actions before it count. -/
theorem count_pass (landmark : Landmark check) (plain : Unbroken stamp) {feature : Feature}
    {lines : List Text} {draft : Draft} (owns : feature ≠ .flowControl) (unbroken : AllUnbroken lines)
    (drafted : passDraft? options stamp lines feature = some draft) :
    ∃ added, IsSupport feature added ∧
      (performAll options stamp (actionsOf options feature) lines).countP check =
        (performAll options stamp (leadingActions feature) lines).countP check +
          if hasBlock feature (performAll options stamp (leadingActions feature) lines) then 0
          else added.countP check := by
  obtain ⟨added, support, performed⟩ := support_of_draft plain owns drafted
  refine ⟨added, support, ?_⟩
  have middleUnbroken : AllUnbroken (performAll options stamp (leadingActions feature) lines) :=
    unbroken_perform_all plain (leadingActions feature) lines unbroken
  have afterUnbroken := unbroken_perform options stamp plain _ middleUnbroken (.support feature)
  have step : performAll options stamp
      (.support feature :: trailingActions options feature)
      (performAll options stamp (leadingActions feature) lines) =
      performAll options stamp (trailingActions options feature)
        ((Action.support feature).perform options stamp
          (performAll options stamp (leadingActions feature) lines)) := rfl
  rw [actions_around_support options feature owns, perform_all_append, step,
    count_quiet landmark plain _ (trailing_quiet options feature) _ afterUnbroken, performed]
  split
  · rfl
  · exact landmark.count_insert added _

theorem count_direct (options : Options) (stamp : Text) (check : Text → Bool) (lines : List Text) :
    (Action.direct.perform options stamp lines).countP check =
      lines.countP check + if lines.any consoleDirective.startsText then 0
        else if check "$CONSOLE".toList then 1 else 0 := by
  rw [Action.perform]
  split
  · rfl
  · exact List.countP_cons

/-- No marker is counted by what a pass does before it adds its block. -/
theorem count_marker_leading (options : Options) (stamp : Text) (feature other : Feature)
    (lines : List Text) (unbroken : AllUnbroken lines) :
    (performAll options stamp (leadingActions feature) lines).countP (isMarkerOf other) =
      lines.countP (isMarkerOf other) := by
  cases feature with
  | console =>
      have normalized := (landmark_marker other).count_perform options stamp lines unbroken .normalize
        (by simp) (by simp)
      have directed := count_direct options stamp (isMarkerOf other)
        (Action.normalize.perform options stamp lines)
      have directive : isMarkerOf other "$CONSOLE".toList = false :=
        not_marker_of_kind (by decide)
      rw [directive, normalized] at directed
      refine directed.trans ?_
      simp
  | _ => rfl

/-- What a pass makes of the number of opening markers. -/
theorem marker_count_pass (plain : Unbroken stamp) {feature other : Feature} {program : Text}
    {revision : Revision} (owned : other ≠ .flowControl)
    (ran : runPass? options stamp feature program = some revision) :
    markerCount other revision.program =
      if feature = other then max 1 (markerCount other program) else markerCount other program := by
  have landmark := landmark_marker other
  have unbroken := all_unbroken_split program
  rw [markerCount, markerCount]
  refine (count_of_agree landmark (run_pass_lines plain ran)).trans ?_
  by_cases flow : feature = .flowControl
  · subst flow
    rw [if_neg owned.symm]
    exact count_quiet landmark plain [.wrap] (by simp [IsQuiet]) _ unbroken
  · rw [run_pass_eq] at ran
    obtain ⟨draft, drafted, -⟩ := Option.map_eq_some_iff.mp ran
    obtain ⟨added, support, counted⟩ := count_pass landmark plain flow unbroken drafted
    have leading := fun other => count_marker_leading options stamp feature other
      (splitLines program) unbroken
    rw [counted, leading, count_marker_in_support support]
    by_cases same : feature = other
    · subst same
      rw [if_pos rfl, if_pos rfl]
      have present := has_block_iff feature
        (performAll options stamp (leadingActions feature) (splitLines program))
      rw [leading] at present
      by_cases missing : (splitLines program).countP (isMarkerOf feature) = 0
      · rw [if_neg (by rw [present]; omega)]
        omega
      · rw [if_pos (by rw [present]; omega)]
        omega
    · have differs : ¬other = feature := fun equal => same equal.symm
      simp only [if_neg same, if_neg differs, ite_self, Nat.add_zero]

/-- What a pass makes of the number of console directives. -/
theorem directive_count_pass (plain : Unbroken stamp) {feature : Feature} {program : Text}
    {revision : Revision} (ran : runPass? options stamp feature program = some revision) :
    directiveCount revision.program =
      if feature = .console then max 1 (directiveCount program) else directiveCount program := by
  have landmark := landmark_directive
  have unbroken := all_unbroken_split program
  rw [directiveCount, directiveCount]
  refine (count_of_agree landmark (run_pass_lines plain ran)).trans ?_
  by_cases flow : feature = .flowControl
  · subst flow
    exact count_quiet landmark plain [.wrap] (by simp [IsQuiet]) _ unbroken
  · rw [run_pass_eq] at ran
    obtain ⟨draft, drafted, -⟩ := Option.map_eq_some_iff.mp ran
    obtain ⟨added, support, counted⟩ := count_pass landmark plain flow unbroken drafted
    rw [counted, count_directive_in_support support, ite_self, Nat.add_zero]
    cases feature with
    | console =>
        have normalized := landmark.count_perform options stamp _ unbroken .normalize (by simp)
          (by simp)
        have directed := count_direct options stamp
          consoleDirective.startsText (Action.normalize.perform options stamp (splitLines program))
        have directive : consoleDirective.startsText "$CONSOLE".toList = true := by decide
        refine directed.trans ?_
        rw [directive, if_pos rfl, if_pos rfl, normalized]
        have present := List.countP_pos_iff (p := consoleDirective.startsText)
          (l := Action.normalize.perform options stamp (splitLines program))
        rw [← List.any_eq_true, normalized] at present
        by_cases missing : (splitLines program).countP consoleDirective.startsText = 0
        · rw [if_neg (by rw [← present]; omega)]
          omega
        · rw [if_pos (by rw [← present]; omega)]
          omega
    | _ => rfl

end Counts

/-- To see twice that there is one at least is to see it once. -/
theorem at_least_one_of_either {first second : Prop} [Decidable first] [Decidable second]
    (count : Nat) :
    (if second then max 1 (if first then max 1 count else count)
      else if first then max 1 count else count) =
      if first ∨ second then max 1 count else count := by
  by_cases here : first
  · by_cases later : second
    · rw [if_pos later, if_pos here, if_pos (.inl here)]
      omega
    · rw [if_neg later, if_pos here, if_pos (.inl here)]
  · by_cases later : second
    · rw [if_pos later, if_neg here, if_pos (.inr later)]
    · rw [if_neg later, if_neg here, if_neg (not_or.mpr ⟨here, later⟩)]

/-- Blocks and the console directive are neither repeated nor lost. -/
theorem counts_after_turns (turns : List Turn) (source final : Text)
    (plain : ∀ turn ∈ turns, Unbroken turn.stamp) (ran : runTurns? source turns = some final) :
    (∀ feature, feature ≠ Feature.flowControl → markerCount feature final =
      if turns.any (·.feature = feature) then max 1 (markerCount feature source)
      else markerCount feature source) ∧
    directiveCount final =
      if turns.any (·.feature = .console) then max 1 (directiveCount source)
      else directiveCount source := by
  induction turns generalizing source with
  | nil =>
      obtain rfl := Option.some.inj ran
      simp
  | cons turn turns induction =>
      rw [runTurns?, Option.bind_eq_bind, Option.bind_eq_some_iff] at ran
      obtain ⟨revision, ranFirst, ranLater⟩ := ran
      have stamp := plain turn (by simp)
      obtain ⟨markers, directives⟩ :=
        induction revision.program (fun other member => plain other (by simp [member])) ranLater
      constructor
      · intro feature owned
        rw [markers feature owned, marker_count_pass stamp owned ranFirst, at_least_one_of_either]
        simp only [List.any_cons, Bool.or_eq_true, decide_eq_true_eq]
      · rw [directives, directive_count_pass stamp ranFirst, at_least_one_of_either]
        simp only [List.any_cons, Bool.or_eq_true, decide_eq_true_eq]

/-- Two passes, the first of which runs twice, on a program without any blocks. -/
theorem counts_after_repeated_pass : ∃ final,
    runTurns? "PRINT 1\nSYSTEM".toList
      [⟨.resources, {}, []⟩, ⟨.graphics, {}, []⟩, ⟨.resources, {}, []⟩] = some final ∧
    markerCount .resources final = 1 ∧ markerCount .graphics final = 1 ∧
    markerCount .logging final = 0 ∧ directiveCount final = 0 := by
  have counted := counts_after_turns
    [⟨.resources, {}, []⟩, ⟨.graphics, {}, []⟩, ⟨.resources, {}, []⟩] "PRINT 1\nSYSTEM".toList _
    (by simp [unbroken_nil]) rfl
  have resources : markerCount .resources "PRINT 1\nSYSTEM".toList = 0 := by decide
  have graphics : markerCount .graphics "PRINT 1\nSYSTEM".toList = 0 := by decide
  have logging : markerCount .logging "PRINT 1\nSYSTEM".toList = 0 := by decide
  have directives : directiveCount "PRINT 1\nSYSTEM".toList = 0 := by decide
  refine ⟨_, rfl, ?_, ?_, ?_, ?_⟩
  · rw [counted.1 .resources (by decide), resources]
    decide
  · rw [counted.1 .graphics (by decide), graphics]
    decide
  · rw [counted.1 .logging (by decide), logging]
    decide
  · rw [counted.2, directives]
    decide

end BasicBench.Instrument
