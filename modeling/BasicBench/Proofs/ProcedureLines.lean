import BasicBench.Proofs.LineBrackets
import BasicBench.Proofs.TopLines

/-!
Lines at which procedures begin and end, for the checks and for flow control. The checks look past
a line number and want a name, flow control does neither. What ends a procedure for flow control
ends one for the checks, and the other way round when no line number stands in front.
-/

set_option autoImplicit false

namespace BasicBench.Check

open Text Pattern Instrument Instrument.Edit

/-! The checks. -/

/-- The words that stand for a procedure. -/
def procedureWords : List String := ["SUB", "FUNCTION"]

/-- Whether a line opens a procedure for the checks. -/
def opensProcedure (line : Text) : Bool :=
  (bracket? line).any fun bracket =>
    match bracket with
    | .opens kind => !kind.isLoop
    | .closes _ => false

/-- Whether a line closes a procedure for the checks. -/
def closesProcedure (line : Text) : Bool :=
  (bracket? line).any fun bracket =>
    match bracket with
    | .opens _ => false
    | .closes kind => !kind.isLoop

theorem opens_procedure_iff (line : Text) : opensProcedure line = true ↔
    ∃ kind, bracket? line = some (.opens kind) ∧ kind.isLoop = false := by
  rw [opensProcedure, Option.any_eq_true]
  constructor
  · rintro ⟨_ | _, read, procedure⟩
    · exact ⟨_, read, by simpa using procedure⟩
    · cases procedure
  · rintro ⟨kind, read, procedure⟩
    exact ⟨_, read, by simpa using procedure⟩

theorem closes_procedure_iff (line : Text) : closesProcedure line = true ↔
    ∃ kind, bracket? line = some (.closes kind) ∧ kind.isLoop = false := by
  rw [closesProcedure, Option.any_eq_true]
  constructor
  · rintro ⟨_ | _, read, procedure⟩
    · cases procedure
    · exact ⟨_, read, by simpa using procedure⟩
  · rintro ⟨kind, read, procedure⟩
    exact ⟨_, read, by simpa using procedure⟩

theorem opens_not_closes {line : Text} (opens : opensProcedure line = true) :
    closesProcedure line = false := by
  obtain ⟨kind, read, -⟩ := (opens_procedure_iff line).mp opens
  rw [closesProcedure, read]
  rfl

theorem leads_of_bracket {line : Text} {bracket : Bracket BlockKind}
    (read : bracket? line = some bracket) :
    Opens (leadingWord bracket).toList (SourceLine.dropLabel (trim line)) :=
  opens_of_tells (bracket_iff.mp read).2

/-! Lines that a word leads. -/

/-- A line that begins with a letter is code, unless the letter may begin a remark. -/
theorem code_of_leads {c : Char} {word line : Text} (plain : isPlainForm c = true)
    (solid : isSpace c = false) (apart : c ≠ 'R' ∧ sameLetter c '\'' = false)
    (leads : Leads (c :: word) line) : isCodeText line = true := by
  obtain ⟨d, core, trimmed, same⟩ := leads_trim solid leads
  have shown : upper (trim line) = c :: upper core := by
    rw [trimmed, upper, List.flatMap_cons, upper_char_of_plain plain same]
    rfl
  have mark : startsWith ['\''] (trim line) = false := by
    rw [trimmed, startsWith, List.isPrefixOf_cons_cons, Bool.and_eq_false_iff]
    refine .inl (beq_eq_false_iff_ne.mpr ?_)
    rintro rfl
    rw [apart.2] at same
    cases same
  have word : (upper (trim line) == "REM".toList) = false := by
    rw [shown, beq_eq_false_iff_ne]
    exact fun remark => apart.1 (List.cons.inj remark).1
  have opening : startsWith "REM ".toList (upper (trim line)) = false := by
    rw [shown, show "REM ".toList = 'R' :: "EM ".toList by decide, startsWith,
      List.isPrefixOf_cons_cons, beq_eq_false_iff_ne.mpr apart.1.symm, Bool.false_and]
  have nonempty : (trim line).isEmpty = false := by
    rw [trimmed]
    rfl
  rw [isCodeText, SourceLine.isCode, SourceLine.isBlank, SourceLine.isComment, SourceLine.trimmed,
    nonempty, mark, word, opening]
  rfl

/-! Flow control. -/

theorem begins_is_code {line : Text} (begins : procedureStart.startsText line = true) :
    isCodeText line = true := by
  rcases leads_of_procedure_start begins with leads | leads
  · rw [show "SUB".toList = 'S' :: "UB".toList by decide] at leads
    exact code_of_leads (by decide) (by decide) (by decide) leads
  · rw [show "FUNCTION".toList = 'F' :: "UNCTION".toList by decide] at leads
    exact code_of_leads (by decide) (by decide) (by decide) leads

theorem ends_is_code {line : Text} (ends : procedureEnd.startsText line = true) :
    isCodeText line = true := by
  have leads := leads_of_starts led_procedure_end ends
  rw [show "END".toList = 'E' :: "ND".toList by decide] at leads
  exact code_of_leads (by decide) (by decide) (by decide) leads

theorem not_begins_of_idle {line : Text} (idle : isCodeText line = false) :
    procedureStart.startsText line = false := by
  rw [← Bool.not_eq_true] at idle ⊢
  exact mt begins_is_code idle

theorem not_ends_of_idle {line : Text} (idle : isCodeText line = false) :
    procedureEnd.startsText line = false := by
  rw [← Bool.not_eq_true] at idle ⊢
  exact mt ends_is_code idle

/-- A line without a line number that a word leads has the bracket of no other word. -/
theorem bracket_agrees {c : Char} {word line : Text} {bracket : Bracket BlockKind}
    (solid : isSolid (c :: word) = true) (plain : isDecimal (capital c) = false)
    (leads : Leads (c :: word) line) (read : bracket? line = some bracket) :
    compatible (c :: word) (leadingWord bracket).toList = true := by
  have opens := opens_trim solid leads
  have other := leads_of_bracket read
  rw [drop_label_of_opens plain opens] at other
  exact opens_compatible opens other

theorem begins_not_closes {line : Text} (begins : procedureStart.startsText line = true) :
    closesProcedure line = false := by
  rw [← Bool.not_eq_true, closes_procedure_iff]
  rintro ⟨kind, read, procedure⟩
  have word : leadingWord (.closes kind) = "END" := by simp [leadingWord, procedure]
  rcases leads_of_procedure_start begins with leads | leads
  · rw [show "SUB".toList = 'S' :: "UB".toList by decide] at leads
    have agree := bracket_agrees (by decide) (by decide) leads read
    rw [word] at agree
    exact absurd agree (by decide)
  · rw [show "FUNCTION".toList = 'F' :: "UNCTION".toList by decide] at leads
    have agree := bracket_agrees (by decide) (by decide) leads read
    rw [word] at agree
    exact absurd agree (by decide)

/-! Ends. -/

/-- An end of a procedure without what stands around it. -/
def WritesEnd (word : String) (core : Text) : Prop :=
  ∃ first gap last, core = first ++ gap ++ last ∧ SameText "END".toList first ∧ gap ≠ [] ∧
    Blank gap ∧ SameText word.toList last

theorem closer_starts_iff (word : String) (text : Text) :
    (anyCase "END" ++ blanks1 ++ anyCase word ++ wordEdge).startsText text = true ↔
      ∃ core rest, text = core ++ rest ∧ WritesEnd word core ∧
        (lastOf none core).any isWordChar ≠ rest.head?.any isWordChar := by
  simp only [starts_text_iff, takes_append, takes_any_case, takes_blanks1, takes_word_edge]
  constructor
  · rintro ⟨_, rest, rfl, _, _, rfl, ⟨_, last, rfl, ⟨first, gap, rfl, ends, wide, blank⟩, same⟩, rfl,
      edge⟩
    exact ⟨first ++ gap ++ last, rest, by simp, ⟨first, gap, last, rfl, ends, wide, blank, same⟩, edge⟩
  · rintro ⟨_, rest, rfl, ⟨first, gap, last, rfl, ends, wide, blank, same⟩, edge⟩
    exact ⟨_, rest, rfl, first ++ gap ++ last, [], by simp,
      ⟨first ++ gap, last, rfl, ⟨first, gap, rfl, ends, wide, blank⟩, same⟩, rfl, edge⟩

theorem not_nil_of_writes_end {word : String} {core : Text} (written : WritesEnd word core) :
    core ≠ [] := by
  obtain ⟨first, gap, last, rfl, -, wide, -⟩ := written
  simp [wide]

/-- What stands before a piece does not matter behind it. -/
theorem last_of_filled (before : Option Char) {piece : Text} (filled : piece ≠ []) :
    lastOf before piece = lastOf none piece := by
  simp [lastOf, List.getLast?_eq_some_getLast filled]

theorem procedure_end_iff (line : Text) : procedureEnd.startsText line = true ↔
    ∃ word ∈ procedureWords, ∃ left core rest, line = left ++ (core ++ rest) ∧ Blank left ∧
      WritesEnd word core ∧ (lastOf none core).any isWordChar ≠ rest.head?.any isWordChar := by
  have last (left : Text) {core : Text} (filled : core ≠ []) :
      lastOf none (left ++ core) = lastOf none core := by
    rw [last_of_append, last_of_filled _ filled]
  have either (piece : Text) : SameText "SUB".toList piece ∨ SameText "FUNCTION".toList piece ↔
      ∃ word ∈ procedureWords, SameText word.toList piece := by simp [procedureWords]
  simp only [procedureEnd, starts_text_iff, takes_append, takes_text_start, takes_capture,
    takes_or, takes_any_case, takes_blanks, takes_blanks1, takes_word_edge, either]
  constructor
  · rintro ⟨_, rest, rfl, _, _, rfl, ⟨_, form, rfl, ⟨_, gap, rfl, ⟨_, first, rfl, ⟨_, left, rfl,
      ⟨rfl, -⟩, blank⟩, ends⟩, wide, between⟩, word, listed, same⟩, rfl, edge⟩
    have written : WritesEnd word (first ++ gap ++ form) :=
      ⟨first, gap, form, rfl, ends, wide, between, same⟩
    refine ⟨word, listed, left, first ++ gap ++ form, rest, by simp, blank, written, ?_⟩
    rw [← last left (not_nil_of_writes_end written)]
    simpa using edge
  · rintro ⟨word, listed, left, core, rest, rfl, blank, written, edge⟩
    rw [← last left (not_nil_of_writes_end written)] at edge
    obtain ⟨first, gap, form, rfl, ends, wide, between, same⟩ := written
    exact ⟨left ++ first ++ gap ++ form, rest, by simp, left ++ first ++ gap ++ form, [], by simp,
      ⟨left ++ first ++ gap, form, rfl, ⟨left ++ first, gap, rfl, ⟨left, first, rfl,
        ⟨[], left, rfl, ⟨rfl, trivial⟩, blank⟩, ends⟩, wide, between⟩, word, listed, same⟩, rfl,
      by simpa using edge⟩

/-- Trimming keeps a solid part at the front and cuts blanks behind it. -/
theorem trim_behind (left core rest : Text) (blank : Blank left) (solid : isSolid core = true) :
    ∃ more right, trim (left ++ (core ++ rest)) = core ++ more ∧ rest = more ++ right ∧
      Blank right := by
  obtain ⟨more, trimmed⟩ := trim_keeps_solid left core rest blank solid
  refine ⟨more, ?_⟩
  rw [trim_append_left _ _ blank] at trimmed ⊢
  obtain ⟨before, right, blankBefore, blankRight, split⟩ := trim_split (core ++ rest)
  have headed : isHeaded core = true := by
    rw [isSolid, Bool.and_eq_true] at solid
    exact solid.1
  obtain ⟨c, others, rfl, first⟩ := headed_cons core headed
  rw [trimmed, List.append_assoc, List.append_assoc] at split
  obtain ⟨-, same⟩ := blank_prefix_unique [] before _ _ c c blank_nil blankBefore first first split
  exact ⟨right, trimmed, (List.append_right_inj (c :: others)).mp same, blankRight⟩

/-- Behind a solid part the same kind of character follows when the blanks at the end are gone. -/
theorem edge_of_blank (more right : Text) (blank : Blank right) :
    (more ++ right).head?.any isWordChar = more.head?.any isWordChar := by
  cases more with
  | cons c more => rfl
  | nil =>
      cases right with
      | nil => rfl
      | cons c right => simp [not_word_char_of_space c (blank c (by simp))]

theorem solid_of_writes_end {word : String} {core : Text} (written : WritesEnd word core)
    (solid : isSolid word.toList = true) : isSolid core = true := by
  obtain ⟨first, gap, last, rfl, ends, -, -, same⟩ := written
  exact solid_around gap ((solid_of_same_text ends).trans (by decide))
    ((solid_of_same_text same).trans solid)

/-- An end for flow control is what the checks take for one when the line has no line number. -/
theorem procedure_end_trim (line : Text) : procedureEnd.startsText line = true ↔
    ∃ word ∈ procedureWords,
      (anyCase "END" ++ blanks1 ++ anyCase word ++ wordEdge).startsText (trim line) = true := by
  rw [procedure_end_iff]
  refine exists_congr fun word => and_congr_right fun listed => ?_
  have solid : isSolid word.toList = true := by
    simp only [procedureWords, List.mem_cons, List.not_mem_nil, or_false] at listed
    rcases listed with rfl | rfl <;> decide
  rw [closer_starts_iff]
  constructor
  · rintro ⟨left, core, rest, rfl, blank, written, edge⟩
    obtain ⟨more, right, trimmed, rfl, blankRight⟩ :=
      trim_behind left core rest blank (solid_of_writes_end written solid)
    rw [edge_of_blank more right blankRight] at edge
    exact ⟨core, more, trimmed, written, edge⟩
  · rintro ⟨core, rest, trimmed, written, edge⟩
    obtain ⟨left, right, blank, blankRight, split⟩ := trim_split line
    rw [← edge_of_blank rest right blankRight] at edge
    exact ⟨left, core, rest ++ right, by rw [split, trimmed]; simp, blank, written, edge⟩

theorem statement_of_ends {line : Text} (ends : procedureEnd.startsText line = true) :
    SourceLine.dropLabel (trim line) = trim line :=
  drop_label_of_opens (by decide) (opens_trim (by decide) (leads_of_starts led_procedure_end ends))

theorem procedure_end_tells (line : Text) : procedureEnd.startsText line = true ↔
    ∃ kind : BlockKind, kind.isLoop = false ∧ Tells (.closes kind) (trim line) := by
  have reads {word : String} (closed : isClosedWord word = true) :
      (anyCase "END" ++ blanks1 ++ anyCase word ++ wordEdge).startsText (trim line) = true ↔
        WordThen "END" (BlanksThen (WordThen word EndsWord)) (trim line) :=
    (starts_text_iff ..).trans (takes_front_end closed)
  rw [procedure_end_trim]
  constructor
  · rintro ⟨word, listed, starts⟩
    simp only [procedureWords, List.mem_cons, List.not_mem_nil, or_false] at listed
    rcases listed with rfl | rfl
    · exact ⟨.procedure, rfl, (reads (by decide)).mp starts⟩
    · exact ⟨.function, rfl, (reads (by decide)).mp starts⟩
  · rintro ⟨kind, procedure, told⟩
    cases kind with
    | procedure => exact ⟨"SUB", by decide, (reads (by decide)).mpr told⟩
    | function => exact ⟨"FUNCTION", by decide, (reads (by decide)).mpr told⟩
    | forLoop | whileLoop | doLoop => cases procedure

theorem closes_of_ends {line : Text} (ends : procedureEnd.startsText line = true) :
    closesProcedure line = true := by
  obtain ⟨kind, procedure, told⟩ := (procedure_end_tells line).mp ends
  rw [← statement_of_ends ends] at told
  exact (closes_procedure_iff line).mpr ⟨kind, bracket_iff.mpr ⟨ends_is_code ends, told⟩, procedure⟩

theorem not_ends_of_not_closes {line : Text} (closes : closesProcedure line = false) :
    procedureEnd.startsText line = false := by
  rw [← Bool.not_eq_true] at closes ⊢
  exact mt closes_of_ends closes

theorem not_ends_of_opens {line : Text} (opens : opensProcedure line = true) :
    procedureEnd.startsText line = false :=
  not_ends_of_not_closes (opens_not_closes opens)

/-! Lines without a line number. -/

def isUnlabelled (line : Text) : Bool := SourceLine.dropLabel (trim line) == trim line

theorem ends_of_closes {line : Text} (closes : closesProcedure line = true)
    (unlabelled : isUnlabelled line = true) : procedureEnd.startsText line = true := by
  obtain ⟨kind, read, procedure⟩ := (closes_procedure_iff line).mp closes
  have told := (bracket_iff.mp read).2
  rw [beq_iff_eq.mp unlabelled] at told
  exact (procedure_end_tells line).mpr ⟨kind, procedure, told⟩

theorem begins_of_opens {line : Text} (opens : opensProcedure line = true)
    (unlabelled : isUnlabelled line = true) : procedureStart.startsText line = true := by
  obtain ⟨kind, read, procedure⟩ := (opens_procedure_iff line).mp opens
  have told := (bracket_iff.mp read).2
  rw [beq_iff_eq.mp unlabelled] at told
  obtain ⟨word, known, first, _, shown, same, gap, name, rfl, wide, between, -⟩ :
      ∃ word ∈ procedureWords, WordThen word (BlanksThen BeginsName) (trim line) := by
    cases kind with
    | procedure => exact ⟨"SUB", by decide, told⟩
    | function => exact ⟨"FUNCTION", by decide, told⟩
    | forLoop | whileLoop | doLoop => cases procedure
  obtain ⟨left, right, blank, -, split⟩ := trim_split line
  obtain ⟨c, gap, rfl⟩ := List.exists_cons_of_ne_nil wide
  have either : SameText "SUB".toList first ∨ SameText "FUNCTION".toList first := by
    simp only [procedureWords, List.mem_cons, List.not_mem_nil, or_false] at known
    rcases known with rfl | rfl
    · exact .inl same
    · exact .inr same
  refine procedure_start_iff.mpr ⟨left, first, c :: (gap ++ name ++ right), ?_, blank, either, ?_⟩
  · rw [split, shown]
    simp
  · exact between c (by simp)

end BasicBench.Check
