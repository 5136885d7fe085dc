import BasicBench.Proofs.SoundBlocks
import BasicBench.Proofs.Wrapping

/-!
The brackets of a program around a wrapper. The lines of a program stay closed when it is taken
apart into its top, its main part and its procedures, but its brackets come in another order. So
a wrapped program is sound exactly when they match in the new order.
-/

set_option autoImplicit false

namespace BasicBench.Check

open Text Instrument

/-- The brackets of a program with its main part in a procedure of its own. -/
def regrouped (sections : Sections) : List (Bracket BlockKind) :=
  brackets sections.top ++ (.opens .procedure :: (brackets sections.main ++
    .closes .procedure :: brackets sections.procedures))

theorem code_indent (left text : Text) (blank : Blank left) :
    isCodeText (left ++ text) = isCodeText text := by
  rw [isCodeText, isCodeText, SourceLine.isCode, SourceLine.isCode, SourceLine.isBlank,
    SourceLine.isBlank, SourceLine.isComment, SourceLine.isComment, SourceLine.trimmed,
    SourceLine.trimmed, trim_append_left left text blank]

theorem sealed_indent {left : Text} (blank : Blank left) (unbroken : '\n' ∉ left) (text : Text) :
    Sealed (left ++ text) ↔ Sealed text := by
  rw [Sealed, Sealed, code_indent left text blank, line_closed_indent left text blank unbroken]

theorem bracket_indent_line (line : Text) : bracket? (indentLine line) = bracket? line := by
  rcases indent_line_cases line with ⟨blank, same⟩ | same
  · rw [same, quiet_of_blank blank, quiet_of_blank blank_nil]
  · rw [same, bracket_indent _ line blank_indent]

theorem sealed_indent_line {line : Text} (closed : Sealed line) : Sealed (indentLine line) := by
  rcases indent_line_cases line with ⟨-, same⟩ | same
  · rw [same]
    exact sealed_of_not_code rfl
  · rw [same, sealed_indent blank_indent (by decide)]
    exact closed

theorem brackets_main_body (sections : Sections) :
    brackets (sections.mainBody.map indentLine) = brackets sections.main := by
  obtain ⟨blanks, split, empty⟩ := sections.main_split
  have none : brackets blanks = [] :=
    brackets_of_quiet fun line member => quiet_of_blank (empty line member)
  rw [brackets_map fun line _ => bracket_indent_line line, split, brackets_append, none,
    List.append_nil]

theorem front_lines_spell (hasConsole autoExit : Bool) :
    Spells (frontLines hasConsole autoExit) (procedureWord ++ [.opens .procedure]) := by
  cases hasConsole <;> cases autoExit <;>
    simp only [frontLines, wrapper, Bool.false_eq_true, if_true, if_false, List.cons_append,
      List.nil_append] <;>
    repeat first
      | refine spells_quiet (by decide +kernel) ?_
      | refine spells_bracket (by decide +kernel) ?_
  all_goals exact spells_nil

theorem end_sub_bracket : bracket? "END SUB".toList = some (.closes .procedure) ∧
    Sealed "END SUB".toList := by
  constructor <;> decide +kernel

theorem brackets_back_lines (procedures : List Text) :
    brackets (backLines procedures) = .closes .procedure :: brackets procedures := by
  have close (lines : List Text) :
      brackets ("END SUB".toList :: lines) = .closes .procedure :: brackets lines :=
    List.filterMap_cons_some end_sub_bracket.1
  rw [backLines]
  split
  next none => rw [close, List.isEmpty_iff.mp none]
  next => rw [close, brackets_cons_quiet (quiet_of_blank blank_nil)]

theorem mem_back_lines {procedures : List Text} {line : Text}
    (member : line ∈ backLines procedures) :
    line = "END SUB".toList ∨ line = [] ∨ line ∈ procedures := by
  rw [backLines] at member
  split at member
  · exact .inl (List.mem_singleton.mp member)
  · simpa only [List.mem_cons] using member

theorem brackets_arrange (sections : Sections) (hasConsole autoExit : Bool) :
    brackets (arrange sections hasConsole autoExit) = brackets sections.top ++
      (procedureWord ++ .opens .procedure :: (brackets sections.main ++
        .closes .procedure :: brackets sections.procedures)) := by
  rw [arrange, brackets_append, brackets_append, brackets_append, brackets_main_body,
    brackets_back_lines, (front_lines_spell hasConsole autoExit).brackets, List.append_assoc]
  rfl

/-- The lines of a program stay closed around a wrapper. -/
theorem arrange_closed {lines : List Text} (closed : ∀ line ∈ lines, Sealed line)
    (hasConsole autoExit : Bool) :
    ∀ line ∈ arrange (Sections.ofLines lines) hasConsole autoExit, Sealed line := by
  have part : ∀ line ∈ (Sections.ofLines lines).parts, Sealed line :=
    fun line member => closed line ((Sections.parts_of_lines lines).subset member)
  intro line member
  rw [arrange, List.mem_append, List.mem_append, List.mem_append] at member
  rcases member with top | front | body | back
  · exact part line (by simp [Sections.parts, top])
  · exact (front_lines_spell hasConsole autoExit).closed line front
  · obtain ⟨other, source, rfl⟩ := List.mem_map.mp body
    exact sealed_indent_line (part other
      (by simp [Sections.parts, mem_main_of_mem_body source]))
  · rcases mem_back_lines back with rfl | rfl | source
    · exact end_sub_bracket.2
    · exact sealed_of_not_code rfl
    · exact part line (by simp [Sections.parts, source])

/-- The procedures that are put in match among themselves, so the brackets have to match in their
new order. -/
theorem matched_arrange (sections : Sections) (hasConsole autoExit : Bool) :
    Matched (brackets (arrange sections hasConsole autoExit)) ↔ Matched (regrouped sections) := by
  have pair : Matched procedureWord := by decide
  rw [brackets_arrange, matched_insert _ pair, regrouped]

end BasicBench.Check
