import BasicBench.Proofs.Validity
import Mathlib.Data.List.Basic

/-!
Validity as a property of the lines of a program, whatever their numbers: the brackets of the
lines match in both families, and every line of code is closed. Lines that have this property
among themselves may be put in anywhere, so a program is judged by what remains without them.
-/

set_option autoImplicit false

namespace BasicBench.Check

open Text Keyword

/-- Whether a text is code where it stands as a line. -/
def isCodeText (text : Text) : Bool := (SourceLine.mk 0 text).isCode

/-- The bracket of a text that stands as a line. -/
def bracket? (text : Text) : Option (Bracket BlockKind) :=
  (blockEvent? ⟨0, text⟩).map (·.bracket)

def brackets (lines : List Text) : List (Bracket BlockKind) := lines.filterMap bracket?

/-- The loops match and the procedures match, each family on its own. -/
def Matched (word : List (Bracket BlockKind)) : Prop :=
  Balanced (word.filter (·.kind.isLoop)) ∧ Balanced (word.filter fun bracket => !bracket.kind.isLoop)

instance (word : List (Bracket BlockKind)) : Decidable (Matched word) :=
  inferInstanceAs (Decidable (_ ∧ _))

/-- A line that the checks of quotes and parentheses pass over or accept. -/
def Sealed (text : Text) : Prop := isCodeText text = true → LineClosed text

structure Sound (lines : List Text) : Prop where
  matched : Matched (brackets lines)
  closed : ∀ line ∈ lines, Sealed line

theorem block_brackets_eq (family : BlockKind → Bool) (lines : List SourceLine) :
    blockBrackets family lines =
      (brackets (lines.map (·.text))).filter fun bracket => family bracket.kind := by
  rw [blockBrackets, brackets, List.filterMap_map, List.map_filterMap]
  rfl

theorem blocks_matched_iff (number : Nat) (lines : List Text) :
    blockFindings (SourceLine.numberFrom number lines) = [] ↔ Matched (brackets lines) := by
  rw [block_findings_nil_iff, loopBrackets, procedureBrackets, block_brackets_eq,
    block_brackets_eq, SourceLine.number_from_text, Matched]

/-- Validity depends on the lines alone. -/
theorem is_valid_iff_sound (source : Text) (level : Level) (catalog : Catalog) :
    (Report.ofText source level catalog).isValid = true ↔ Sound (splitLines source) := by
  have texts : (SourceLine.ofText source).map (·.text) = splitLines source :=
    SourceLine.number_from_text 1 (splitLines source)
  have closed : (∀ line ∈ SourceLine.ofText source, line.isCode = true → LineClosed line.text) ↔
      ∀ text ∈ splitLines source, Sealed text := by
    rw [← texts, List.forall_mem_map]
    rfl
  rw [Report.ofText, is_valid_of_lines_iff, ← block_findings_nil_iff, closed,
    SourceLine.ofText, blocks_matched_iff]
  exact ⟨fun valid => ⟨valid.1, valid.2⟩, fun sound => ⟨sound.matched, sound.closed⟩⟩

/-- Whether a line that is code has no finding on its quotes and parentheses. -/
def isSealed (text : Text) : Bool :=
  !isCodeText text || ((quoteFindings ⟨0, text⟩).isEmpty && (parenthesisFindings ⟨0, text⟩).isEmpty)

theorem sealed_iff (text : Text) : isSealed text = true ↔ Sealed text := by
  have closed : LineClosed text ↔
      quoteFindings ⟨0, text⟩ = [] ∧ parenthesisFindings ⟨0, text⟩ = [] := line_closed_iff ⟨0, text⟩
  rw [Sealed, closed]
  simp [isSealed, or_iff_not_imp_left]

instance (text : Text) : Decidable (Sealed text) := decidable_of_iff _ (sealed_iff text)

theorem brackets_append (above below : List Text) :
    brackets (above ++ below) = brackets above ++ brackets below :=
  List.filterMap_append

theorem brackets_of_quiet {lines : List Text} (quiet : ∀ line ∈ lines, bracket? line = none) :
    brackets lines = [] :=
  List.filterMap_eq_nil_iff.mpr quiet

theorem brackets_cons_quiet {line : Text} (quiet : bracket? line = none) (lines : List Text) :
    brackets (line :: lines) = brackets lines :=
  List.filterMap_cons_none quiet

/-- Lines may change as long as their brackets stay. -/
theorem brackets_map {change : Text → Text} {lines : List Text}
    (same : ∀ line ∈ lines, bracket? (change line) = bracket? line) :
    brackets (lines.map change) = brackets lines := by
  rw [brackets, brackets, List.filterMap_map]
  exact List.filterMap_congr same

theorem matched_nil : Matched [] := ⟨.empty, .empty⟩

theorem matched_insert (above : List (Bracket BlockKind)) {inserted : List (Bracket BlockKind)}
    (matched : Matched inserted) (below : List (Bracket BlockKind)) :
    Matched (above ++ (inserted ++ below)) ↔ Matched (above ++ below) := by
  simp only [Matched, List.filter_append]
  rw [balanced_insert _ matched.1, balanced_insert _ matched.2]

/-- Lines that match among themselves do not matter to the others, but they have to be closed. -/
theorem sound_insert_iff (above : List Text) {inserted : List Text}
    (matched : Matched (brackets inserted)) (below : List Text) :
    Sound (above ++ (inserted ++ below)) ↔
      Sound (above ++ below) ∧ ∀ line ∈ inserted, Sealed line := by
  have blocks := matched_insert (brackets above) matched (brackets below)
  rw [← brackets_append, ← brackets_append, ← brackets_append] at blocks
  constructor
  · rintro ⟨inside, closed⟩
    refine ⟨⟨blocks.mp inside, fun line member => closed line ?_⟩, fun line member =>
      closed line (by simp [member])⟩
    rcases List.mem_append.mp member with here | there
    · simp [here]
    · simp [there]
  · rintro ⟨⟨outer, closed⟩, own⟩
    refine ⟨blocks.mpr outer, fun line member => ?_⟩
    rw [List.mem_append, List.mem_append] at member
    rcases member with here | new | there
    · exact closed line (by simp [here])
    · exact own line new
    · exact closed line (by simp [there])

theorem sound_insert (above : List Text) {inserted : List Text} (sound : Sound inserted)
    (below : List Text) : Sound (above ++ (inserted ++ below)) ↔ Sound (above ++ below) := by
  rw [sound_insert_iff above sound.matched below]
  exact and_iff_left sound.closed

theorem sound_nil : Sound [] :=
  ⟨matched_nil, fun _ member => absurd member List.not_mem_nil⟩

theorem sound_append {above below : List Text} (first : Sound above) (second : Sound below) :
    Sound (above ++ below) := by
  have both := (sound_insert [] first below).mpr second
  rwa [List.nil_append] at both

/-- A line without a bracket that is closed. -/
theorem sound_line {line : Text} (quiet : bracket? line = none) (closed : Sealed line) :
    Sound [line] := by
  refine ⟨?_, by simpa using closed⟩
  rw [brackets_cons_quiet quiet]
  exact matched_nil

theorem not_code_of_blank {text : Text} (blank : trim text = []) : isCodeText text = false := by
  simp [isCodeText, SourceLine.isCode, SourceLine.isBlank, SourceLine.trimmed, blank]

theorem quiet_of_not_code {text : Text} (idle : isCodeText text = false) :
    bracket? text = none := by
  rw [isCodeText] at idle
  simp [bracket?, blockEvent?, idle]

theorem sealed_of_not_code {text : Text} (idle : isCodeText text = false) : Sealed text := by
  intro code
  rw [idle] at code
  cases code

theorem sound_not_code {text : Text} (idle : isCodeText text = false) : Sound [text] :=
  sound_line (quiet_of_not_code idle) (sealed_of_not_code idle)

end BasicBench.Check
