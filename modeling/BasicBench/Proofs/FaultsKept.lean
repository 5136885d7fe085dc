import BasicBench.Proofs.BlockFaults
import BasicBench.Proofs.BracketActions
import BasicBench.Proofs.Guarantees

/-!
The instrumentation without the flow control keeps the faults of the block structure. The brackets
of a program only grow by those of blocks, and a block matches whatever the time stamp in it is,
also one with quotes that leaves the line of the stamp open.
-/

set_option autoImplicit false

namespace BasicBench.Check

open Text Pattern Instrument

/-! Blocks with any time stamp. -/

theorem brackets_block {feature : Feature} {body other : List Text}
    (same : brackets body = brackets other) :
    brackets (block feature body) = brackets (block feature other) := by
  rw [block, block, brackets_append, brackets_append, same, ← brackets_append, ← brackets_append]

theorem brackets_middle {line other : Text} (quiet : bracket? line = none)
    (quiet' : bracket? other = none) (above below : List Text) :
    brackets (above ++ line :: below) = brackets (above ++ other :: below) := by
  rw [brackets_append, brackets_append, brackets_cons_quiet quiet, brackets_cons_quiet quiet']

theorem log_name_quiet (stamp : Text) :
    bracket? ("    LogFile = \"qb64pe-logs/debug_".toList ++ stamp ++ ".log\"".toList) = none :=
  quiet_of_leads (by decide)
    (leads_stamped "LogFile" " = \"qb64pe-logs/debug_" _ stamp _ (by decide))

theorem screenshot_name_quiet (stamp : Text) :
    bracket? ("    ScreenshotBase = \"qb64pe-screenshots/debug_".toList ++ stamp ++ ['"']) =
      none :=
  quiet_of_leads (by decide)
    (leads_stamped "ScreenshotBase" " = \"qb64pe-screenshots/debug_" _ stamp _ (by decide))

theorem brackets_support_stamp (options : Options) (stamp other : Text) (lines : List Text)
    (feature : Feature) : brackets (supportBlock options stamp lines feature) =
      brackets (supportBlock options other lines feature) := by
  cases feature with
  | logging =>
      apply brackets_block
      simp only [List.append_assoc, List.cons_append]
      exact brackets_middle (log_name_quiet stamp) (log_name_quiet other) _ _
  | screenshots =>
      apply brackets_block
      simp only [List.append_assoc, List.cons_append]
      exact brackets_middle (screenshot_name_quiet stamp) (screenshot_name_quiet other) _ _
  | _ => rfl

/-- A block that is added matches, whatever the time stamp is. -/
theorem matched_support_block (options : Options) (stamp : Text) (lines : List Text)
    (feature : Feature) : Matched (brackets (supportBlock options stamp lines feature)) := by
  rw [brackets_support_stamp options stamp []]
  exact (sound_support_block options (by simp) lines feature).matched

/-! Actions. -/

theorem grows_insert_block {word : List (Bracket BlockKind)} {added : List Text}
    (matched : Matched (brackets added)) {lines : List Text} (grows : Grows word (brackets lines)) :
    Grows word (brackets (insertBlock added lines)) := by
  have blank : bracket? [] = none := quiet_of_blank blank_nil
  rw [insertBlock, List.append_assoc, List.append_assoc, List.singleton_append, brackets_append,
    brackets_append, brackets_cons_quiet blank]
  apply Grows.insert _ _ _ matched
  rwa [← brackets_append, List.take_append_drop]

/-- Every action but the wrapping leaves the brackets alone or puts some in that match. -/
theorem grows_kept (options : Options) (stamp : Text) (word : List (Bracket BlockKind))
    {action : Action} (other : action ≠ .wrap) :
    KeptBy options stamp (fun lines => Grows word (brackets lines)) action := by
  intro lines unbroken grows
  cases action with
  | support feature =>
      rw [Action.perform]
      split
      · exact grows
      · exact grows_insert_block (matched_support_block options stamp lines feature) grows
  | wrap => exact absurd rfl other
  | _ =>
      rw [brackets_perform options stamp unbroken other (by simp)]
      exact grows

/-! The whole run. -/

theorem grows_ignores_end (word : List (Bracket BlockKind)) :
    IgnoresEnd fun lines => Grows word (brackets lines) := by
  intro lines
  have blank : bracket? [] = none := quiet_of_blank blank_nil
  have same : brackets (lines ++ [[]]) = brackets lines := by
    rw [brackets_append, brackets_cons_quiet blank, brackets, brackets, List.filterMap_nil,
      List.append_nil]
  exact iff_of_eq (congrArg (Grows word) same)

/-- Only the flow control wraps a program. -/
theorem wrapless_of_selected {options : Options} {mode : Mode} (still : options.flowControl = false) :
    ∀ feature ∈ selected options mode, ∀ action ∈ actionsOf options feature, action ≠ .wrap := by
  intro feature member action listed wraps
  have chosen := List.of_mem_filter member
  rw [wraps] at listed
  cases feature with
  | flowControl =>
      rw [isSelected, still] at chosen
      cases chosen
  | console => cases auto : options.autoExit <;> simp [actionsOf, auto] at listed
  | _ => simp [actionsOf] at listed

theorem grows_of_output {options : Options} {mode : Mode} {stamp source : Text}
    {out : Instrumented} (plain : Unbroken stamp) (still : options.flowControl = false)
    (ran : instrument? options mode stamp source = some out) :
    Grows (brackets (splitLines source)) (brackets (splitLines out.program)) := by
  rcases instrument_run ran with ⟨revision, passed, same, -⟩
  rw [← same]
  apply run_passes_keeps plain (grows_ignores_end _) _ passed .same
  intro feature member action listed
  exact grows_kept options stamp _ (wrapless_of_selected still feature member action listed)

/-- Without the flow control a program has the same faults behind the instrumentation as before
it, in the same order and of the same categories. They move to other lines at most. -/
theorem faults_of_output (options : Options) (mode : Mode) (stamp source : Text)
    (out : Instrumented) (plain : Unbroken stamp) (still : options.flowControl = false)
    (ran : instrument? options mode stamp source = some out) :
    (blockFindings (SourceLine.ofText out.program)).map (·.category) =
        (blockFindings (SourceLine.ofText source)).map (·.category) ∧
      List.Forall₂ SameFault (blockFindings (SourceLine.ofText source))
        (blockFindings (SourceLine.ofText out.program)) := by
  have faults := same_faults_of_grows (grows_of_output plain still ran)
  refine ⟨?_, faults⟩
  apply Eq.symm
  rw [← List.forall₂_eq_eq_eq, List.forall₂_map_left_iff, List.forall₂_map_right_iff]
  exact faults.imp fun _ _ same => same.category_eq

/-- A closer on its own, a loop that ends twice and a procedure without an end, in a program to
which all other passes apply. A quote in the time stamp leaves lines of the blocks open. -/
theorem faults_of_unbalanced_program : ∃ out,
    instrument? { flowControl := false } .mixed "9\"30".toList
      "WEND\nFOR i = 1 TO 3: LINE (0, 0)-(i, 9)\nNEXT i\nNEXT\nSUB Show\nSYSTEM".toList = some out ∧
    (blockFindings (SourceLine.ofText out.program)).map (·.category) =
      ["unmatched-wend", "unmatched-next", "unclosed-sub-function"] := by
  have plain : Unbroken "9\"30".toList := unbroken_fixed (by decide)
  have kept := faults_of_output { flowControl := false } .mixed "9\"30".toList
    "WEND\nFOR i = 1 TO 3: LINE (0, 0)-(i, 9)\nNEXT i\nNEXT\nSUB Show\nSYSTEM".toList _ plain rfl rfl
  refine ⟨_, rfl, ?_⟩
  -- The stray closers stand above the open procedure, and there is nothing to sort.
  rw [kept.1, blockFindings, List.mergeSort_of_pairwise (by decide +kernel)]
  decide +kernel

end BasicBench.Check
