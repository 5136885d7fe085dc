import BasicBench.Proofs.DialectReports
import BasicBench.Proofs.DrawingWords
import BasicBench.Proofs.Places
import Mathlib.Data.List.Nodup

/-!
Words that rules look for. A rule on words wants the edge of a word in front of them, so what it says
of a line is a question about the pieces of the line with no word character in front. The rules of
the table have categories of their own: an error of a category is on a line exactly when the pattern
of its one rule matches there.
-/

set_option autoImplicit false

namespace BasicBench

open Text Pattern

namespace Text.Pattern

section Edges

variable {before : Option Char} {piece rest : Text}

theorem takes_edge_word (inner : Pattern)
    (starts : ∀ before piece rest, inner.Takes before piece rest →
      piece.head?.any isWordChar = true) :
    (wordEdge ++ inner).Takes before piece rest ↔
      before.any isWordChar = false ∧ inner.Takes before piece rest := by
  have front (word : Text) (taken : inner.Takes before word rest) :
      (word ++ rest).head?.any isWordChar = true := by
    have first := starts _ _ _ taken
    cases word with
    | nil => cases first
    | cons c word => exact first
  rw [takes_append]
  constructor
  · intro taken
    obtain ⟨_, _, rfl, here, taken⟩ := taken
    obtain ⟨rfl, edge⟩ := (takes_word_edge ..).mp here
    change inner.Takes before _ rest at taken
    rw [front _ taken] at edge
    exact ⟨Bool.eq_false_iff.mpr edge, taken⟩
  · intro taken
    obtain ⟨alone, taken⟩ := taken
    have edge : before.any isWordChar ≠ (piece ++ rest).head?.any isWordChar := by
      rw [alone, front _ taken]
      decide
    exact ⟨[], piece, rfl, (takes_word_edge ..).mpr ⟨rfl, edge⟩, taken⟩

theorem takes_end_of_name (rejects : Char → Bool) :
    (notAhead (one rejects)).Takes before piece rest ↔
      piece = [] ∧ rest.head?.any rejects = false := by
  rw [takes_not_ahead]
  apply and_congr_right
  intro _
  cases rest with
  | nil => simp
  | cons c rest => simp

theorem takes_then_edge (inner : Pattern) :
    (inner ++ wordEdge).Takes before piece rest ↔
      inner.Takes before piece rest ∧
        (lastOf before piece).any isWordChar ≠ rest.head?.any isWordChar := by
  simp only [takes_append, takes_word_edge]
  constructor
  · intro taken
    obtain ⟨word, _, rfl, taken, rfl, edge⟩ := taken
    rw [List.append_nil]
    exact ⟨taken, edge⟩
  · intro taken
    exact ⟨piece, [], (List.append_nil piece).symm, taken.1, rfl, taken.2⟩

end Edges

/-! Patterns that look at nothing around their pieces. -/

/-- The pattern takes the pieces of one kind, wherever it is tried. -/
def Recognises (pattern : Pattern) (kind : Text → Prop) : Prop :=
  ∀ before piece rest, pattern.Takes before piece rest ↔ kind piece

/-- Two parts with blanks between them. -/
def Spaced (first second : Text → Prop) (piece : Text) : Prop :=
  ∃ head gap tail, piece = head ++ (gap ++ tail) ∧ first head ∧
    (gap ≠ [] ∧ ∀ c ∈ gap, isSpace c = true) ∧ second tail

theorem recognises_any_case (word : String) :
    (anyCase word).Recognises (SameText word.toList) :=
  fun before piece rest => takes_any_case before piece rest word

theorem recognises_spaced {opening closing : Pattern} {first second : Text → Prop}
    (front : opening.Recognises first) (back : closing.Recognises second) :
    (opening ++ blanks1 ++ closing).Recognises (Spaced first second) := by
  intro before piece rest
  rw [takes_assoc]
  simp only [takes_append, takes_blanks1]
  constructor
  · intro taken
    obtain ⟨head, _, rfl, opened, gap, tail, rfl, blank, closed⟩ := taken
    exact ⟨head, gap, tail, rfl, (front ..).mp opened, blank, (back ..).mp closed⟩
  · intro spaced
    obtain ⟨head, gap, tail, rfl, opened, blank, closed⟩ := spaced
    exact ⟨head, gap ++ tail, rfl, (front ..).mpr opened, gap, tail, rfl, blank,
      (back ..).mpr closed⟩

theorem word_start_of_same_text {word piece : Text} (head : word.head?.any isWordChar = true)
    (same : SameText word piece) : piece.head?.any isWordChar = true := by
  cases same with
  | nil => cases head
  | cons letter others => exact (word_char_of_same_letter letter).symm.trans head

section Spaced

variable {first second : Text → Prop} {piece : Text} (spaced : Spaced first second piece)
include spaced

theorem word_start_of_spaced
    (starts : ∀ head, first head → head.head?.any isWordChar = true) :
    piece.head?.any isWordChar = true := by
  obtain ⟨head, gap, tail, rfl, opened, -, -⟩ := spaced
  have letter := starts head opened
  cases head with
  | nil => cases letter
  | cons c head => exact letter

/-- The text ends as its second part does. -/
theorem last_of_spaced (before : Option Char) :
    ∃ middle tail, second tail ∧ lastOf before piece = lastOf middle tail := by
  obtain ⟨head, gap, tail, rfl, -, -, closed⟩ := spaced
  rw [last_of_append, last_of_append]
  exact ⟨_, tail, closed, rfl⟩

end Spaced

end Text.Pattern

namespace Check

/-! Lines with errors of a category. -/

/-- A piece of a line with no word character in front of it. -/
structure StandsAt (line : SourceLine) (above piece rest : Text) : Prop where
  split : line.text = above ++ (piece ++ rest)
  alone : (lastOf none above).any isWordChar = false

/-- The rules on other dialects find an error of the category on a line. -/
def ReportsError (category : String) (lines : List SourceLine) (line : SourceLine) : Prop :=
  ∃ finding ∈ dialectFindings lines, finding.line = line.number ∧
    finding.category = category ∧ finding.severity = .error

theorem mem_dialect_findings {rules : List DialectRule} {rule : DialectRule} (listed : rule ∈ rules)
    (free : rule.isAboutFixedArrays = false) {line : SourceLine} (code : line.isCode = true)
    {finding : Finding} (made : rule.finding? line = some finding) {lines : List SourceLine}
    (member : line ∈ lines) (dynamic : Bool) : finding ∈ dialectFindingsFrom rules dynamic lines := by
  induction lines generalizing dynamic with
  | nil => cases member
  | cons other rest induction =>
      rw [dialectFindingsFrom, List.mem_append]
      cases member with
      | head =>
          rw [ruleFindings, if_pos code, List.mem_filterMap]
          exact .inl ⟨rule, listed, by rw [free]; exact made⟩
      | tail _ later => exact .inr (induction later _)

theorem rule_categories_differ : (dialectRules.map (·.category)).Nodup := by decide

theorem rule_of_category {rule other : DialectRule} (listed : rule ∈ dialectRules)
    (otherListed : other ∈ dialectRules) (same : rule.category = other.category) : rule = other :=
  List.inj_on_of_nodup_map rule_categories_differ listed otherListed same

/-- The table has a rule on errors of the category with this pattern. -/
def RuledBy (category : String) (pattern : Pattern) : Prop :=
  ∃ rule ∈ dialectRules, rule.category = category ∧ rule.pattern = pattern ∧ rule.severity = .error

section Reports

variable {source : Text} {line : SourceLine} (member : line ∈ SourceLine.ofText source)
  (code : line.isCode = true) {category : String} {pattern : Pattern}
  (ruled : RuledBy category pattern) (free : category ≠ "dynamic_arrays")

include member code ruled free

/-- An error of the category is found on a line of code exactly when the pattern matches there. -/
theorem reports_error_iff :
    ReportsError category (SourceLine.ofText source) line ↔
      ∃ above piece rest, line.text = above ++ (piece ++ rest) ∧
        pattern.Takes (lastOf none above) piece rest := by
  obtain ⟨rule, listed, rfl, rfl, severity⟩ := ruled
  rw [← occurs_in_iff]
  constructor
  · intro reported
    obtain ⟨finding, found, number, named, -⟩ := reported
    obtain ⟨other, otherMember, -, maker, makerListed, made⟩ := mem_dialect_findings_from found
    obtain ⟨piece, matched, otherNumber, -⟩ := dialect_finding_shape made
    obtain rfl := SourceLine.eq_of_number otherMember member (otherNumber.symm.trans number)
    have same := (DialectRule.category_of_some made).symm.trans named
    obtain rfl := rule_of_category makerListed listed same
    exact Option.isSome_iff_exists.mpr ⟨piece, matched⟩
  · intro occurs
    obtain ⟨finding, made⟩ : ∃ finding, rule.finding? line = some finding := by
      rw [← Option.isSome_iff_exists, DialectRule.finding?, Option.isSome_map]
      exact occurs
    have always : rule.isAboutFixedArrays = false := beq_eq_false_iff_ne.mpr free
    have found := mem_dialect_findings listed always code made member false
    obtain ⟨piece, -, rfl⟩ := Option.map_eq_some_iff.mp made
    exact ⟨_, found, rfl, rfl, severity⟩

/-- Where the pattern wants the edge of a word in front, its matches are pieces that stand so. -/
theorem reports_standing_iff {kind : Text → Text → Prop}
    (takes : ∀ before piece rest, pattern.Takes before piece rest ↔
      before.any isWordChar = false ∧ kind piece rest) :
    ReportsError category (SourceLine.ofText source) line ↔
      ∃ above piece rest, StandsAt line above piece rest ∧ kind piece rest := by
  rw [reports_error_iff member code ruled free]
  constructor
  · intro matched
    obtain ⟨above, piece, rest, split, taken⟩ := matched
    obtain ⟨alone, here⟩ := (takes ..).mp taken
    exact ⟨above, piece, rest, ⟨split, alone⟩, here⟩
  · intro stands
    obtain ⟨above, piece, rest, ⟨split, alone⟩, here⟩ := stands
    exact ⟨above, piece, rest, split, (takes ..).mpr ⟨alone, here⟩⟩

end Reports

end Check
end BasicBench
