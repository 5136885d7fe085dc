import BasicBench.Proofs.HeaderLines
import BasicBench.Proofs.LineReports
import BasicBench.Proofs.RuleWords

/-!
Two reports on functions that are defined with `DEF FN`. The strict line checks look for the two
words with anything behind them. The rules on other dialects want a name to end where the second
word ends, so that they pass over a function whose name is joined to it.
-/

set_option autoImplicit false

namespace BasicBench

open Text Pattern

namespace Check

open Instrument (takes_any_of)

/-! The two words. -/

/-- `DEF` and `FN` in any mixture of cases, with blanks between them. -/
def SpellsDefFn (piece : Text) : Prop :=
  ∃ head gap tail, piece = head ++ (gap ++ tail) ∧ SameText "DEF".toList head ∧
    (gap ≠ [] ∧ ∀ c ∈ gap, isSpace c = true) ∧ SameText "FN".toList tail

/-- The other words that the rule on legacy keywords knows. -/
def otherLegacyWords : List Text :=
  ["TRON", "TROFF", "SETMEM", "SIGNAL", "ERDEV", "ERDEV$", "FILEATTR", "FRE", "IOCTL",
    "IOCTL$"].map (·.toList)

section Words

variable {before : Option Char} {piece rest : Text}

theorem takes_def_fn :
    (anyCase "DEF" ++ blanks1 ++ anyCase "FN").Takes before piece rest ↔ SpellsDefFn piece :=
  recognises_spaced (recognises_any_case "DEF") (recognises_any_case "FN") before piece rest

theorem word_start_of_def_fn (spelled : SpellsDefFn piece) :
    piece.head?.any isWordChar = true :=
  word_start_of_spaced spelled fun _ same => word_start_of_same_text (by decide) same

theorem takes_marked_word (word : String) :
    (anyCase word ++ optional (one (· == '$'))).Takes before piece rest ↔
      SameText word.toList piece ∨ SameText (word.toList ++ ['$']) piece := by
  simp only [takes_append, takes_any_case, takes_optional, takes_one, beq_iff_eq,
    exists_eq_left]
  constructor
  · intro taken
    obtain ⟨letters, _, rfl, same, rfl | rfl⟩ := taken
    · exact .inr (List.rel_append same (.cons (by decide) .nil))
    · rw [List.append_nil]
      exact .inl same
  · intro spelled
    cases spelled with
    | inl plain => exact ⟨piece, [], (List.append_nil _).symm, plain, .inr rfl⟩
    | inr marked =>
        have letters := List.forall₂_take word.toList.length marked
        have mark := List.forall₂_drop word.toList.length marked
        rw [List.take_left] at letters
        rw [List.drop_left] at mark
        obtain ⟨c, others, same, none, last⟩ := List.forall₂_cons_left_iff.mp mark
        rw [List.forall₂_nil_left_iff.mp none, mark_of_same_letter (by decide) same] at last
        exact ⟨_, _, (List.take_append_drop ..).symm, letters, .inl last⟩

/-- One of the words of the rule on legacy keywords. -/
def IsLegacyWord (piece : Text) : Prop :=
  SpellsDefFn piece ∨ ∃ word ∈ otherLegacyWords, SameText word piece

theorem takes_legacy_word : legacyWord.Takes before piece rest ↔ IsLegacyWord piece := by
  have erdev : "ERDEV".toList ++ ['$'] = "ERDEV$".toList := by decide
  have ioctl : "IOCTL".toList ++ ['$'] = "IOCTL$".toList := by decide
  simp only [legacyWord, takes_capture, takes_any_of, List.mem_cons, List.not_mem_nil, or_false,
    exists_eq_or_imp, exists_eq_left, takes_def_fn, takes_any_case, takes_marked_word,
    IsLegacyWord, otherLegacyWords, List.map_cons, List.map_nil, erdev, ioctl, or_assoc]

theorem word_start_of_legacy (legacy : IsLegacyWord piece) :
    piece.head?.any isWordChar = true := by
  have letters : ∀ word ∈ otherLegacyWords, word.head?.any isWordChar = true := by decide
  cases legacy with
  | inl spelled => exact word_start_of_def_fn spelled
  | inr other =>
      obtain ⟨word, listed, same⟩ := other
      exact word_start_of_same_text (letters word listed) same

theorem takes_deprecated_definition :
    (wordEdge ++ anyCase "DEF" ++ blanks1 ++ anyCase "FN").Takes before piece rest ↔
      before.any isWordChar = false ∧ SpellsDefFn piece := by
  have spelled : ∀ before piece rest,
      (anyCase "DEF" ++ (blanks1 ++ anyCase "FN")).Takes before piece rest ↔ SpellsDefFn piece :=
    fun _ _ _ => (takes_assoc ..).symm.trans takes_def_fn
  rw [takes_assoc, takes_assoc, takes_edge_word, spelled]
  intro before piece rest taken
  exact word_start_of_def_fn ((spelled before piece rest).mp taken)

theorem takes_legacy_keyword :
    legacyKeyword.Takes before piece rest ↔
      before.any isWordChar = false ∧ IsLegacyWord piece ∧ rest.head?.any notInName = false := by
  have front (word rest : Text) : (wordEdge ++ legacyWord).Takes before word rest ↔
      before.any isWordChar = false ∧ IsLegacyWord word := by
    rw [takes_edge_word, takes_legacy_word]
    intro before piece rest taken
    exact word_start_of_legacy (takes_legacy_word.mp taken)
  rw [legacyKeyword, takes_append]
  simp only [takes_end_of_name, front]
  constructor
  · intro taken
    obtain ⟨word, _, rfl, ⟨alone, legacy⟩, rfl, ends⟩ := taken
    rw [List.append_nil]
    exact ⟨alone, legacy, ends⟩
  · intro stands
    obtain ⟨alone, legacy, ends⟩ := stands
    exact ⟨piece, [], (List.append_nil piece).symm, ⟨alone, legacy⟩, rfl, ends⟩

end Words

/-! The reports. -/

/-- The strict checks call `DEF FN` deprecated on a line. -/
def ReportsDefFn (isKeyword : Text → Bool) (lines : List SourceLine) (line : SourceLine) : Prop :=
  ∃ finding ∈ lineFindings .strict isKeyword lines, finding.line = line.number ∧
    finding.category = "deprecated-construct" ∧ finding.message = "'DEF FN' is deprecated"

/-- The rules on other dialects find a legacy keyword on a line. -/
def ReportsLegacy (lines : List SourceLine) (line : SourceLine) : Prop :=
  ∃ finding ∈ dialectFindings lines, finding.line = line.number ∧
    finding.category = "legacy_keywords" ∧ finding.severity = .error

theorem of_category_deprecated (isKeyword : Text → Bool) (known : List Text)
    (lines : List SourceLine) :
    ofCategory "deprecated-construct" (findingsFrom .strict isKeyword known lines) =
      (lines.filter (·.isCode)).flatMap deprecatedFindings := by
  have mild (line : SourceLine) : ofCategory "deprecated-construct"
      (strictFindings .strict line ++ readabilityFindings .strict line) =
        deprecatedFindings line := by
    have all : strictFindings .strict line ++ readabilityFindings .strict line =
        deprecatedFindings line ++ typeFindings line := List.append_nil _
    rw [all, of_category_append, of_category_eq fun _ => deprecated_category,
      of_category_eq fun _ => type_category, if_pos rfl, if_neg (by decide), List.append_nil]
  induction lines generalizing known with
  | nil => rfl
  | cons line rest induction =>
      by_cases code : line.isCode = true
      · rw [findings_from_code .strict isKeyword known rest code, List.filter_cons_of_pos code,
          List.flatMap_cons, of_category_append, of_category_append, of_category_append, mild,
          of_category_eq fun _ => undeclared_category, if_neg (by decide), of_basic_category,
          induction]
        simp
      · rw [findings_from_other .strict isKeyword known rest code, List.filter_cons_of_neg code,
          induction]

theorem ruled_by_legacy_keyword : RuledBy "legacy_keywords" legacyKeyword := by
  simp [RuledBy, dialectRules]

section Reports

variable {source : Text} {line : SourceLine} (member : line ∈ SourceLine.ofText source)
  (code : line.isCode = true)

include member code

theorem reports_def_fn_iff (isKeyword : Text → Bool) :
    ReportsDefFn isKeyword (SourceLine.ofText source) line ↔
      ∃ above piece rest, StandsAt line above piece rest ∧ SpellsDefFn piece := by
  have listed (finding : Finding) :
      finding ∈ lineFindings .strict isKeyword (SourceLine.ofText source) ∧
        finding.category = "deprecated-construct" ↔ ∃ other ∈ SourceLine.ofText source,
          other.isCode = true ∧ finding ∈ deprecatedFindings other := by
    rw [← mem_of_category, lineFindings, of_category_deprecated, List.mem_flatMap]
    simp only [List.mem_filter, and_assoc]
  have first : ∀ construct ∈ deprecatedConstructs,
      "'" ++ construct.name ++ "' is deprecated" = "'DEF FN' is deprecated" →
        construct.pattern = wordEdge ++ anyCase "DEF" ++ blanks1 ++ anyCase "FN" := by
    simp [deprecatedConstructs]
  constructor
  · intro reported
    obtain ⟨finding, found, number, category, message⟩ := reported
    obtain ⟨other, otherMember, -, here⟩ := (listed finding).mp ⟨found, category⟩
    obtain ⟨construct, named, made⟩ := List.mem_filterMap.mp here
    obtain ⟨piece, matched, rfl⟩ := Option.map_eq_some_iff.mp made
    obtain rfl := SourceLine.eq_of_number otherMember member number
    have occurs : construct.pattern.occursIn other.text = true :=
      Option.isSome_iff_exists.mpr ⟨piece, matched⟩
    rw [first construct named message, occurs_in_iff] at occurs
    obtain ⟨above, piece, rest, split, taken⟩ := occurs
    obtain ⟨alone, spelled⟩ := takes_deprecated_definition.mp taken
    exact ⟨above, piece, rest, ⟨split, alone⟩, spelled⟩
  · intro stands
    obtain ⟨above, piece, rest, ⟨split, alone⟩, spelled⟩ := stands
    have occurs : (wordEdge ++ anyCase "DEF" ++ blanks1 ++ anyCase "FN").occursIn line.text = true :=
      (occurs_in_iff ..).mpr
        ⟨above, piece, rest, split, takes_deprecated_definition.mpr ⟨alone, spelled⟩⟩
    obtain ⟨piece, matched⟩ := Option.isSome_iff_exists.mp occurs
    have here : lineFinding line piece.column .warning "deprecated-construct"
        "'DEF FN' is deprecated" "Use FUNCTION instead" ∈ deprecatedFindings line := by
      rw [deprecatedFindings, List.mem_filterMap]
      exact ⟨_, List.mem_cons_self, by rw [matched]; rfl⟩
    obtain ⟨found, category⟩ := (listed _).mpr ⟨line, member, code, here⟩
    exact ⟨_, found, rfl, category, rfl⟩

theorem reports_legacy_iff :
    ReportsLegacy (SourceLine.ofText source) line ↔
      ∃ above piece rest, StandsAt line above piece rest ∧ IsLegacyWord piece ∧
        rest.head?.any notInName = false :=
  reports_standing_iff member code ruled_by_legacy_keyword (by decide)
    fun _ _ _ => takes_legacy_keyword

end Reports

/-- On a line of code the strict checks report `DEF FN` wherever no word character stands in front
of it. The rules on other dialects report a legacy keyword only if no name goes on behind one such
`DEF FN`, or if another legacy keyword stands on the line by itself. -/
theorem def_fn_reports_iff (isKeyword : Text → Bool) (source : Text) (line : SourceLine)
    (member : line ∈ SourceLine.ofText source) (code : line.isCode = true) :
    (ReportsDefFn isKeyword (SourceLine.ofText source) line ↔
      ∃ above piece rest, StandsAt line above piece rest ∧ SpellsDefFn piece) ∧
    (ReportsLegacy (SourceLine.ofText source) line ↔
      (∃ above piece rest, StandsAt line above piece rest ∧ SpellsDefFn piece ∧
        rest.head?.any notInName = false) ∨
      ∃ word ∈ otherLegacyWords, ∃ above piece rest, StandsAt line above piece rest ∧
        SameText word piece ∧ rest.head?.any notInName = false) := by
  constructor
  · exact reports_def_fn_iff member code isKeyword
  · rw [reports_legacy_iff member code]
    constructor
    · intro reported
      obtain ⟨above, piece, rest, stands, legacy, ends⟩ := reported
      cases legacy with
      | inl spelled => exact .inl ⟨above, piece, rest, stands, spelled, ends⟩
      | inr other =>
          obtain ⟨word, listed, same⟩ := other
          exact .inr ⟨word, listed, above, piece, rest, stands, same, ends⟩
    · intro stood
      cases stood with
      | inl definition =>
          obtain ⟨above, piece, rest, stands, spelled, ends⟩ := definition
          exact ⟨above, piece, rest, stands, .inl spelled, ends⟩
      | inr other =>
          obtain ⟨word, listed, above, piece, rest, stands, same, ends⟩ := other
          exact ⟨above, piece, rest, stands, .inr ⟨word, listed, same⟩, ends⟩

def definitionApart : Text := "DEF FN Square(x) = x * x".toList

/-- With a blank in front of the name both report the line. -/
theorem name_apart_reported_twice : ∃ line ∈ SourceLine.ofText definitionApart,
    line.isCode = true ∧
      ReportsDefFn (fun _ => false) (SourceLine.ofText definitionApart) line ∧
      ReportsLegacy (SourceLine.ofText definitionApart) line := by
  have member : (⟨1, definitionApart⟩ : SourceLine) ∈ SourceLine.ofText definitionApart :=
    List.mem_singleton.mpr rfl
  have code : (⟨1, definitionApart⟩ : SourceLine).isCode = true := by decide +kernel
  have stands : StandsAt ⟨1, definitionApart⟩ [] "DEF FN".toList " Square(x) = x * x".toList :=
    ⟨by decide +kernel, rfl⟩
  have blank : [' '] ≠ [] ∧ ∀ c ∈ [' '], isSpace c = true :=
    ⟨List.cons_ne_nil ' ' [], List.forall_mem_singleton.mpr (by decide)⟩
  have spelled : SpellsDefFn "DEF FN".toList :=
    ⟨"DEF".toList, [' '], "FN".toList, by decide, by decide, blank, by decide⟩
  obtain ⟨strict, legacy⟩ := def_fn_reports_iff (fun _ => false) definitionApart _ member code
  exact ⟨_, member, code, strict.mpr ⟨_, _, _, stands, spelled⟩,
    legacy.mpr (.inl ⟨_, _, _, stands, spelled, by decide⟩)⟩

def definitionJoined : Text := "DEF FNSquare(x) = x * x".toList

/-- With the name right behind `FN` the strict checks report the line, and the rules on other
dialects do not. -/
theorem joined_name_reported_once : ∃ line ∈ SourceLine.ofText definitionJoined,
    line.isCode = true ∧
      ReportsDefFn (fun _ => false) (SourceLine.ofText definitionJoined) line ∧
      ¬ReportsLegacy (SourceLine.ofText definitionJoined) line := by
  unfold ReportsDefFn ReportsLegacy
  decide +kernel

end Check
end BasicBench
