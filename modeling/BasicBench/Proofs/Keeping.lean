import BasicBench.Proofs.Actions
import BasicBench.Proofs.Insertions
import BasicBench.Proofs.Wrapping

/-!
What the actions keep. First of all they keep lines unbroken, so splitting the program that a
pass writes gives back the lines that its actions left, a blank line at the end excepted. A
property of lines that ignores such a line and is kept by every action of a pass is therefore a
property of the programs on both sides of it.
-/

set_option autoImplicit false

namespace BasicBench.Instrument

open Text Pattern

/-- Lines that are lines: none holds a line end. -/
def AllUnbroken (lines : List Text) : Prop := ∀ line ∈ lines, Unbroken line

theorem all_unbroken_split (program : Text) : AllUnbroken (splitLines program) :=
  mem_split_lines_unbroken program

theorem markers_unbroken (feature : Feature) :
    Unbroken (openingMarker feature) ∧ Unbroken (closingMarker feature) := by
  have title : Unbroken feature.title.toList := by
    cases feature <;> exact unbroken_fixed (by decide)
  rw [openingMarker, closingMarker]
  simp only [String.toList_append, unbroken_append]
  exact ⟨⟨⟨unbroken_fixed (by decide), title⟩, unbroken_fixed (by decide)⟩,
    ⟨unbroken_fixed (by decide), title⟩, unbroken_fixed (by decide)⟩

theorem support_unbroken {feature : Feature} {added : List Text} (support : IsSupport feature added) :
    AllUnbroken added := by
  obtain ⟨body, rfl, all⟩ := support
  intro line member
  simp only [block, List.mem_append, List.mem_singleton] at member
  rcases member with (rfl | inside) | rfl
  · exact (markers_unbroken feature).1
  · exact ((support_line_iff line).mp (all line inside)).2.2
  · exact (markers_unbroken feature).2

/-- A block that is added is the block of its feature, where one can be built. -/
theorem support_block_cases (options : Options) (stamp : Text) (lines : List Text)
    (feature : Feature) (plain : Unbroken stamp) :
    IsSupport feature (supportBlock options stamp lines feature) ∨
      supportBlock options stamp lines feature = [] ∧ (feature = .flowControl ∨
        feature = .console ∧ consoleBlock? options.timeout options.autoExit = none) := by
  cases feature with
  | console =>
      cases built : consoleBlock? options.timeout options.autoExit with
      | none => exact .inr ⟨by rw [supportBlock, built]; rfl, .inr ⟨rfl, rfl⟩⟩
      | some added =>
          rw [supportBlock, built]
          exact .inl (support_console _ _ _ built)
  | flowControl => exact .inr ⟨rfl, .inl rfl⟩
  | resources => exact .inl support_resources
  | graphics => exact .inl (support_graphics _)
  | logging => exact .inl (support_logging stamp options.verbose plain)
  | screenshots => exact .inl (support_screenshots stamp _ plain)

theorem mem_insert_block {added lines : List Text} {line : Text} :
    line ∈ insertBlock added lines ↔ line ∈ lines ∨ line ∈ added ∨ line = [] := by
  have split := List.mem_append (a := line) (s := lines.take (headerLength lines))
    (t := lines.drop (headerLength lines))
  rw [List.take_append_drop] at split
  simp only [insertBlock, List.mem_append, List.mem_singleton, split]
  tauto

theorem mem_edit_outside {edit : Text → Text} {lines : List Text} {line : Text}
    (member : line ∈ editOutside edit lines) :
    line ∈ lines ∨ ∃ other ∈ lines, line = edit other := by
  obtain ⟨⟨other, inside⟩, tagged, same⟩ := List.mem_map.mp member
  have source := mem_of_mem_masked tagged
  cases inside with
  | true => exact .inl (same ▸ source)
  | false => exact .inr ⟨other, source, same.symm⟩

theorem mem_arranged {lines : List Text} {hasConsole autoExit : Bool} {line : Text}
    (member : line ∈ arrange (Sections.ofLines lines) hasConsole autoExit) :
    line ∈ lines ∨ line ∈ asLines (frontLines hasConsole autoExit) ∨
      (∃ other ∈ lines, line = indentLine other) ∨ line = "END SUB".toList ∨ line = [] := by
  have part : ∀ other ∈ (Sections.ofLines lines).parts, other ∈ lines :=
    fun other inside => (Sections.parts_of_lines lines).subset inside
  rw [arrange, List.mem_append, List.mem_append, List.mem_append] at member
  rcases member with top | front | body | back
  · exact .inl (part line (by simp [Sections.parts, top]))
  · exact .inr (.inl front)
  · rcases List.mem_map.mp body with ⟨other, main, rfl⟩
    have old := part other (by simp [Sections.parts, mem_main_of_mem_body main])
    exact .inr (.inr (.inl ⟨other, old, rfl⟩))
  · rw [backLines] at back
    split at back
    · exact .inr (.inr (.inr (.inl (List.mem_singleton.mp back))))
    · rcases List.mem_cons.mp back with rfl | later
      · exact .inr (.inr (.inr (.inl rfl)))
      · rcases List.mem_cons.mp later with rfl | below
        · exact .inr (.inr (.inr (.inr rfl)))
        · exact .inl (part line (by simp [Sections.parts, below]))

theorem mem_paused {lines : List Text} {line : Text} (member : line ∈ replaceWaits (masked lines)) :
    line ∈ lines ∨ ∃ left more, Blank left ∧ left ++ more ∈ lines ∧ line = pauseCall left := by
  rw [← lines_of_masked (replaceWaits (masked lines))] at member
  obtain ⟨entry, tagged, rfl⟩ := List.mem_map.mp member
  rcases pauses_cases (masked_replace_waits lines) tagged with old | ⟨left, more, blank, old, rfl⟩
  · exact .inl (mem_of_mem_masked old)
  · exact .inr ⟨left, more, blank, mem_of_mem_masked old, rfl⟩

theorem mem_followed {follow? : Text → Option Text} {isDone : Text → Bool} {lines : List Text}
    {line : Text} (member : line ∈ followOutside follow? isDone (masked lines)) :
    line ∈ lines ∨ ∃ other ∈ lines, follow? other = some line := by
  rw [← lines_of_follow_tagged] at member
  obtain ⟨entry, tagged, rfl⟩ := List.mem_map.mp member
  rcases follow_tagged_cases _ _ tagged with old | ⟨other, old, added⟩
  · exact .inl (mem_of_mem_masked old)
  · exact .inr ⟨other, mem_of_mem_masked old, added⟩

theorem mem_guarded {lines : List Text} {line : Text}
    (member : line ∈ insertCleanup none (masked lines)) :
    line ∈ lines ∨ ∃ other ∈ lines, line = indentation other ++ cleanupCall := by
  rw [← lines_of_guard_tagged] at member
  obtain ⟨entry, tagged, rfl⟩ := List.mem_map.mp member
  rcases guard_tagged_cases none tagged with old | ⟨other, old, rfl⟩
  · exact .inl (mem_of_mem_masked old)
  · exact .inr ⟨other.1, mem_of_mem_masked old, rfl⟩

/-! Actions on unbroken lines. -/

theorem unbroken_front {left more : Text} (unbroken : Unbroken (left ++ more)) : Unbroken left :=
  ((unbroken_append ..).mp unbroken).1

/-- A fixed text is put behind a part of a line. -/
theorem unbroken_behind {left more fixed : Text} (unbroken : Unbroken (left ++ more))
    (plain : Unbroken fixed) : Unbroken (left ++ fixed) :=
  (unbroken_append ..).mpr ⟨unbroken_front unbroken, plain⟩

theorem unbroken_indentation {line : Text} (unbroken : Unbroken line) :
    Unbroken (indentation line) :=
  unbroken_of_sublist (List.takeWhile_sublist _) unbroken

theorem unbroken_file_log {line other : Text} (added : fileLog? line = some other)
    (unbroken : Unbroken line) : Unbroken other := by
  obtain ⟨-, left, form, gap, name, c, more, rfl, -, -, -, -, -, rfl⟩ := file_log_some added
  have name : Unbroken name := fun d member => unbroken d (by simp [member])
  simp only [unbroken_append]
  exact ⟨⟨⟨⟨unbroken_front unbroken, unbroken_fixed (by decide)⟩,
    unbroken_fixed (by decide)⟩, name⟩, by decide⟩

theorem unbroken_screenshot {line other : Text} (added : screenshot? line = some other)
    (unbroken : Unbroken line) : Unbroken other := by
  obtain ⟨-, left, more, -, rfl, rfl⟩ := screenshot_some added
  exact unbroken_behind unbroken (unbroken_fixed (by decide))

theorem unbroken_followed {follow? : Text → Option Text} {isDone : Text → Bool} {lines : List Text}
    (unbroken : AllUnbroken lines)
    (added : ∀ line other, follow? line = some other → Unbroken line → Unbroken other) :
    AllUnbroken (followOutside follow? isDone (masked lines)) := by
  intro line member
  rcases mem_followed member with old | ⟨other, source, follows⟩
  · exact unbroken line old
  · exact added other line follows (unbroken other source)

theorem unbroken_edited {edit : Text → Text} {lines : List Text} (unbroken : AllUnbroken lines)
    (edited : ∀ line, Unbroken line → Unbroken (edit line)) :
    AllUnbroken (editOutside edit lines) := by
  intro line member
  rcases mem_edit_outside member with old | ⟨other, source, rfl⟩
  · exact unbroken line old
  · exact edited other (unbroken other source)

theorem unbroken_replace_end (line : Text) (unbroken : Unbroken line) :
    Unbroken (replaceEnd line) := by
  rcases replace_end_cases line unbroken with ⟨-, same⟩ | ⟨-, left, more, -, rfl, same⟩
  · rwa [same]
  · rw [same]
    exact unbroken_behind unbroken (unbroken_fixed (by decide))

theorem unbroken_indent_line (line : Text) (unbroken : Unbroken line) :
    Unbroken (indentLine line) := by
  rcases indent_line_cases line with ⟨-, same⟩ | same
  · rw [same]
    exact unbroken_nil
  · rw [same, unbroken_append]
    exact ⟨unbroken_fixed (by decide), unbroken⟩

/-- No action breaks a line. -/
theorem unbroken_perform (options : Options) (stamp : Text) (plain : Unbroken stamp)
    (lines : List Text) (unbroken : AllUnbroken lines) (action : Action) :
    AllUnbroken (action.perform options stamp lines) := by
  have directive : Unbroken "$CONSOLE".toList := unbroken_fixed (by decide)
  cases action with
  | normalize =>
      intro line member
      obtain ⟨other, source, rfl⟩ := List.mem_map.mp member
      rw [normalizeLine]
      split
      · exact directive
      · exact unbroken other source
  | direct =>
      rw [Action.perform]
      split
      · exact unbroken
      · intro line member
        rcases List.mem_cons.mp member with rfl | old
        · exact directive
        · exact unbroken line old
  | support feature =>
      rw [Action.perform]
      split
      · exact unbroken
      · intro line member
        rcases mem_insert_block.mp member with old | new | rfl
        · exact unbroken line old
        · rcases support_block_cases options stamp lines feature plain with support | ⟨none, -⟩
          · exact support_unbroken support line new
          · rw [none] at new
            exact absurd new List.not_mem_nil
        · exact unbroken_nil
  | pause =>
      intro line member
      rcases mem_paused member with old | ⟨left, more, -, source, rfl⟩
      · exact unbroken line old
      · exact unbroken_behind (unbroken _ source) (unbroken_fixed (by decide))
  | exit => exact unbroken_edited unbroken unbroken_replace_end
  | wrap =>
      rw [Action.perform, flow_control_eq]
      split
      · intro line member
        rcases mem_arranged member with old | front | ⟨other, source, rfl⟩ | rfl | rfl
        · exact unbroken line old
        · exact wrapper_line_unbroken line (front_lines_pass _ _ line front)
        · exact unbroken_indent_line other (unbroken other source)
        · exact unbroken_fixed (by decide)
        · exact unbroken_nil
      · exact unbroken
  | exchange edit => exact unbroken_edited unbroken edit.unbroken_apply
  | cleanUp =>
      intro line member
      rcases mem_guarded member with old | ⟨other, source, rfl⟩
      · exact unbroken line old
      · exact (unbroken_append ..).mpr
          ⟨unbroken_indentation (unbroken other source), unbroken_fixed (by decide)⟩
  | logFiles => exact unbroken_followed unbroken fun _ _ => unbroken_file_log
  | takeShots => exact unbroken_followed unbroken fun _ _ => unbroken_screenshot

/-! Whole passes. -/

section Runs

variable {options : Options} {stamp : Text}

theorem unbroken_perform_all (plain : Unbroken stamp) (actions : List Action) (lines : List Text)
    (unbroken : AllUnbroken lines) : AllUnbroken (performAll options stamp actions lines) := by
  induction actions generalizing lines with
  | nil => exact unbroken
  | cons action actions induction =>
      exact induction _ (unbroken_perform options stamp plain lines unbroken action)

theorem lines_of_acts (actions : List Action) (draft : Draft) :
    (actions.foldl (Draft.act options stamp) draft).lines =
      performAll options stamp actions draft.lines := by
  induction actions generalizing draft with
  | nil => rfl
  | cons action actions induction => rw [List.foldl_cons, induction, act_lines]; rfl

/-- The program that a pass writes has the lines that its actions left. -/
theorem run_pass_lines (plain : Unbroken stamp) {feature : Feature} {program : Text}
    {revision : Revision} (ran : runPass? options stamp feature program = some revision) :
    AgreeButEnd (splitLines revision.program)
      (performAll options stamp (actionsOf options feature) (splitLines program)) := by
  rw [run_pass_eq] at ran
  obtain ⟨draft, drafted, rfl⟩ := Option.map_eq_some_iff.mp ran
  have acted := pass_draft_eq options stamp _ feature draft drafted
  have lines : draft.lines =
      performAll options stamp (actionsOf options feature) (splitLines program) := by
    rw [acted, lines_of_acts]
  split
  next idle =>
    obtain ⟨rfl, unchanged⟩ := idle
    obtain rfl := Option.some.inj drafted
    rcases flow_control_cases options (splitLines program) with same | ⟨changes, -, -⟩
    · rw [same] at lines
      exact .inl lines
    · rw [changes] at unchanged
      exact absurd unchanged (by decide)
  next =>
    rw [← lines]
    refine split_join_agree _ _ ?_
    rw [lines]
    exact unbroken_perform_all plain _ _ (all_unbroken_split program)

/-- A property that does not look at a blank line at the end. -/
def IgnoresEnd (property : List Text → Prop) : Prop :=
  ∀ lines, property (lines ++ [[]]) ↔ property lines

/-- An action keeps a property of unbroken lines. -/
def KeptBy (options : Options) (stamp : Text) (property : List Text → Prop) (action : Action) :
    Prop :=
  ∀ lines, AllUnbroken lines → property lines → property (action.perform options stamp lines)

variable {property : List Text → Prop}

theorem perform_all_keeps (plain : Unbroken stamp) {actions : List Action}
    (kept : ∀ action ∈ actions, KeptBy options stamp property action) {lines : List Text}
    (unbroken : AllUnbroken lines) (holds : property lines) :
    property (performAll options stamp actions lines) := by
  induction actions generalizing lines with
  | nil => exact holds
  | cons action actions induction =>
      exact induction (fun other member => kept other (by simp [member]))
        (unbroken_perform options stamp plain lines unbroken action)
        (kept action (by simp) lines unbroken holds)

/-- What the actions of a pass keep, the pass keeps. -/
theorem run_pass_keeps (plain : Unbroken stamp) (ignores : IgnoresEnd property)
    {feature : Feature} (kept : ∀ action ∈ actionsOf options feature,
      KeptBy options stamp property action) {program : Text} {revision : Revision}
    (ran : runPass? options stamp feature program = some revision)
    (holds : property (splitLines program)) : property (splitLines revision.program) := by
  rw [agree_but_end_iff ignores (run_pass_lines plain ran)]
  exact perform_all_keeps plain kept (all_unbroken_split program) holds

/-- What one action of a pass establishes and the later ones keep, the pass establishes. -/
theorem run_pass_establishes (plain : Unbroken stamp) (ignores : IgnoresEnd property)
    {feature : Feature} {earlier later : List Action} {action : Action}
    (row : actionsOf options feature = earlier ++ action :: later)
    (established : ∀ lines, AllUnbroken lines → property (action.perform options stamp lines))
    (kept : ∀ other ∈ later, KeptBy options stamp property other) {program : Text}
    {revision : Revision} (ran : runPass? options stamp feature program = some revision) :
    property (splitLines revision.program) := by
  have before : AllUnbroken (performAll options stamp earlier (splitLines program)) :=
    unbroken_perform_all plain earlier _ (all_unbroken_split program)
  rw [agree_but_end_iff ignores (run_pass_lines plain ran), row, performAll, List.foldl_append,
    List.foldl_cons]
  exact perform_all_keeps plain kept (unbroken_perform options stamp plain _ before action)
    (established _ before)

theorem run_passes_cons {feature : Feature} {features : List Feature} {program : Text}
    {revision : Revision}
    (ran : runPasses? options stamp program (feature :: features) = some revision) :
    ∃ first last, runPass? options stamp feature program = some first ∧
      runPasses? options stamp first.program features = some last ∧
      revision = ⟨last.program, first.changes ++ last.changes⟩ := by
  rw [runPasses?, Option.bind_eq_bind, Option.bind_eq_some_iff] at ran
  obtain ⟨first, ranFirst, ran⟩ := ran
  rw [Option.bind_eq_some_iff] at ran
  obtain ⟨last, ranLast, same⟩ := ran
  exact ⟨first, last, ranFirst, ranLast, (Option.some.inj same).symm⟩

/-- What every pass keeps, a run of them keeps. -/
theorem run_passes_invariant {motive : Text → Prop} {features : List Feature}
    (kept : ∀ feature ∈ features, ∀ program revision,
      runPass? options stamp feature program = some revision →
        motive program → motive revision.program)
    {program : Text} {revision : Revision}
    (ran : runPasses? options stamp program features = some revision) (holds : motive program) :
    motive revision.program := by
  induction features generalizing program revision with
  | nil =>
      obtain rfl := Option.some.inj ran
      exact holds
  | cons feature features induction =>
      obtain ⟨first, last, ranFirst, ranLast, rfl⟩ := run_passes_cons ran
      have middle := kept feature List.mem_cons_self program first ranFirst holds
      have final : motive last.program :=
        induction (fun other member => kept other (List.mem_cons_of_mem _ member)) ranLast middle
      exact final

/-- What the actions of all passes keep, a run of them keeps. -/
theorem run_passes_keeps (plain : Unbroken stamp) (ignores : IgnoresEnd property)
    {features : List Feature} (kept : ∀ feature ∈ features,
      ∀ action ∈ actionsOf options feature, KeptBy options stamp property action)
    {program : Text} {revision : Revision}
    (ran : runPasses? options stamp program features = some revision)
    (holds : property (splitLines program)) : property (splitLines revision.program) := by
  refine run_passes_invariant (motive := fun text => property (splitLines text)) ?_ ran holds
  intro feature listed program revision ranPass before
  exact run_pass_keeps plain ignores (kept feature listed) ranPass before

/-- What one pass establishes and the later passes keep holds in the end. -/
theorem run_passes_establishes (plain : Unbroken stamp) (ignores : IgnoresEnd property)
    {earlier later : List Feature} {feature : Feature}
    (established : ∀ program revision, runPass? options stamp feature program = some revision →
      property (splitLines revision.program))
    (kept : ∀ feature ∈ later, ∀ action ∈ actionsOf options feature,
      KeptBy options stamp property action)
    {program : Text} {revision : Revision}
    (ran : runPasses? options stamp program (earlier ++ feature :: later) = some revision) :
    property (splitLines revision.program) := by
  induction earlier generalizing program revision with
  | nil =>
      obtain ⟨first, last, ranFirst, ranLast, rfl⟩ := run_passes_cons ran
      have final : property (splitLines last.program) :=
        run_passes_keeps plain ignores kept ranLast (established program first ranFirst)
      exact final
  | cons other earlier induction =>
      obtain ⟨first, last, -, ranLast, rfl⟩ := run_passes_cons ran
      have final : property (splitLines last.program) := induction ranLast
      exact final

end Runs

end BasicBench.Instrument
