import BasicBench.Proofs.Outside

/-!
The lines of a program after an action, inside and outside blocks alike. Each of them was there
before, is made from a line that was, or is one of the lines that the action writes itself.
-/

set_option autoImplicit false

namespace BasicBench.Instrument

open Text Pattern

/-- Where a line comes from once an action has been performed. -/
inductive Written (options : Options) (stamp : Text) (lines : List Text) (action : Action)
    (line : Text) : Prop
  | kept (old : line ∈ lines)
  | blank (empty : Blank line)
  | directive (same : line = "$CONSOLE".toList)
  | support (feature : Feature) (adds : action = .support feature)
      (added : line ∈ supportBlock options stamp lines feature)
  | pause (left : Text) (blank : Blank left) (same : line = pauseCall left)
  | exit (left : Text) (blank : Blank left) (same : line = exitCall left)
  | front (hasConsole : Bool) (listed : line ∈ asLines (frontLines hasConsole options.autoExit))
  | back (same : line = "END SUB".toList)
  | indented (other : Text) (old : other ∈ lines) (same : line = indentLine other)
  | edited (edit : Edit) (edits : action = .exchange edit) (other : Text) (old : other ∈ lines)
      (same : line = edit.apply other)
  | cleanup (left : Text) (blank : Blank left) (same : line = left ++ cleanupCall)
  | logged (other : Text) (old : other ∈ lines) (added : fileLog? other = some line)
  | shot (other : Text) (old : other ∈ lines) (adds : action = .takeShots)
      (added : screenshot? other = some line)

/-- Every line has such an origin. -/
theorem written_of_mem {options : Options} {stamp : Text} {lines : List Text}
    (unbroken : AllUnbroken lines) {action : Action} {line : Text}
    (member : line ∈ action.perform options stamp lines) :
    Written options stamp lines action line := by
  cases action with
  | normalize =>
      rcases List.mem_map.mp member with ⟨other, source, rfl⟩
      rw [normalizeLine]
      split
      · exact .directive rfl
      · exact .kept source
  | direct =>
      rw [Action.perform] at member
      split at member
      · exact .kept member
      · rcases List.mem_cons.mp member with rfl | old
        · exact .directive rfl
        · exact .kept old
  | support feature =>
      rw [Action.perform] at member
      split at member
      · exact .kept member
      · rcases mem_insert_block.mp member with old | new | rfl
        · exact .kept old
        · exact .support feature rfl new
        · exact .blank blank_nil
  | pause =>
      rcases mem_paused member with old | ⟨left, more, blank, -, same⟩
      · exact .kept old
      · exact .pause left blank same
  | exit =>
      rcases mem_edit_outside member with old | ⟨other, source, rfl⟩
      · exact .kept old
      · rcases replace_end_cases other (unbroken other source) with
          ⟨-, same⟩ | ⟨-, left, more, blank, -, same⟩
        · rw [same]
          exact .kept source
        · exact .exit left blank same
  | wrap =>
      rw [Action.perform, flow_control_eq] at member
      split at member
      · rcases mem_arranged member with old | front | ⟨other, old, same⟩ | same | rfl
        · exact .kept old
        · exact .front _ front
        · exact .indented other old same
        · exact .back same
        · exact .blank blank_nil
      · exact .kept member
  | exchange edit =>
      rcases mem_edit_outside member with old | ⟨other, source, same⟩
      · exact .kept old
      · exact .edited edit rfl other source same
  | cleanUp =>
      rcases mem_guarded member with old | ⟨other, -, same⟩
      · exact .kept old
      · exact .cleanup _ (blank_indentation other) same
  | logFiles =>
      rcases mem_followed member with old | ⟨other, old, added⟩
      · exact .kept old
      · exact .logged other old added
  | takeShots =>
      rcases mem_followed member with old | ⟨other, old, added⟩
      · exact .kept old
      · exact .shot other old rfl added

end BasicBench.Instrument
