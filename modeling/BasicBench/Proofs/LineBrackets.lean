import BasicBench.Proofs.BlockWords
import BasicBench.Proofs.Statements

/-!
The bracket of a line, told by the word that leads its statement. Ten statements open or close a
block, nine words lead them, and a line that another word leads is none of them. Indentation makes
no difference.
-/

set_option autoImplicit false

namespace BasicBench.Check

open Text Pattern Instrument.Edit

/-- Indentation is no part of a statement. -/
theorem bracket_indent (left text : Text) (blank : Blank left) :
    bracket? (left ++ text) = bracket? text := by
  rw [bracket_eq, bracket_eq, isCodeText, isCodeText, SourceLine.isCode, SourceLine.isCode,
    SourceLine.isBlank, SourceLine.isBlank, SourceLine.isComment, SourceLine.isComment,
    SourceLine.trimmed, SourceLine.trimmed, trim_append_left left text blank]

/-! The words of the forms. -/

/-- The words that lead the statements of blocks. -/
def blockWords : List String :=
  ["FOR", "WHILE", "DO", "SUB", "FUNCTION", "NEXT", "WEND", "LOOP", "END"]

theorem leading_word_known (bracket : Bracket BlockKind) : leadingWord bracket ∈ blockWords := by
  cases bracket with
  | opens kind => cases kind <;> decide
  | closes kind => cases kind <;> decide

/-- The end of a procedure is longer than its first word. -/
theorem length_of_end {bracket : Bracket BlockKind} (ends : leadingWord bracket = "END")
    {statement : Text} (told : Tells bracket statement) : 3 < statement.length := by
  have longer {follows : Text → Prop} (told : WordThen "END" (BlanksThen follows) statement) :
      3 < statement.length := by
    obtain ⟨form, _, rfl, same, gap, rest, rfl, wide, -⟩ := told
    have written : "END".toList.length = form.length := same.length_eq
    have filled := List.length_pos_of_ne_nil wide
    rw [List.length_append, List.length_append, ← written]
    change 3 < 3 + (gap.length + rest.length)
    omega
  rcases end_of_procedure ends with rfl | rfl
  · exact longer told
  · exact longer told

/-- A line whose statement says nothing of blocks. -/
theorem quiet_of_silent {text : Text}
    (silent : ∀ bracket, ¬Tells bracket (SourceLine.dropLabel (trim text))) : bracket? text = none :=
  Option.eq_none_iff_forall_ne_some.mpr fun bracket read => silent bracket (bracket_iff.mp read).2

theorem not_decimal_of_same_letter {c d : Char} (same : sameLetter c d = true)
    (plain : isDecimal (capital c) = false) : isDecimal d = false := by
  rw [beq_iff_eq.mp same] at plain
  rcases capital_codes d with ⟨low, high, -⟩ | ⟨form, -⟩ | ownCapital
  · rw [isDecimal, if_pos (by omega), isDigit]
    simp only [Bool.and_eq_false_iff, decide_eq_false_iff_not]
    omega
  · simp only [List.mem_cons, List.not_mem_nil, or_false] at form
    rw [isDecimal, if_neg (by omega)]
    rcases form with code | code | code | code <;> rw [code] <;> decide
  · rwa [ownCapital] at plain

/-- A line that begins with a word has no line number. -/
theorem drop_label_of_opens {c : Char} {word text : Text} (plain : isDecimal (capital c) = false)
    (opens : Opens (c :: word) text) : SourceLine.dropLabel text = text := by
  obtain ⟨form, more, rfl, same⟩ := opens
  cases same with
  | cons letter others =>
      rw [List.cons_append, SourceLine.dropLabel, not_decimal_of_same_letter letter plain,
        if_neg (by decide)]

/-- Words that lead no statement of a block and no line number. -/
def isQuietWord (word : Text) : Bool :=
  isSolid word && word.head?.any (fun c => !isDecimal (capital c)) &&
    blockWords.all fun key => !compatible word key.toList

theorem quiet_of_leads {word line : Text} (apart : isQuietWord word = true)
    (leads : Leads word line) : bracket? line = none := by
  simp only [isQuietWord, Bool.and_eq_true, Option.any_eq_true, Bool.not_eq_true'] at apart
  obtain ⟨⟨solid, c, head, plain⟩, others⟩ := apart
  obtain ⟨rest, rfl⟩ : ∃ rest, word = c :: rest := ⟨word.tail, List.eq_cons_of_mem_head? head⟩
  have opens := opens_trim solid leads
  refine quiet_of_silent fun bracket => ?_
  rw [drop_label_of_opens plain opens]
  intro told
  have clash := List.all_eq_true.mp others _ (leading_word_known bracket)
  rw [opens_compatible opens (opens_of_tells told)] at clash
  cases clash

theorem quiet_of_blank {line : Text} (blank : Blank line) : bracket? line = none :=
  quiet_of_not_code (not_code_of_blank (trim_of_blank line blank))

/-- The end of the program ends no procedure. -/
theorem quiet_of_end {line : Text} (ends : Instrument.bareEnd.startsText line = true) :
    bracket? line = none := by
  obtain ⟨piece, rest, rfl, taken⟩ := (starts_text_iff ..).mp ends
  simp only [Instrument.bareEnd, takes_append, takes_text_start, takes_capture, takes_blanks,
    takes_any_case, takes_text_end] at taken
  obtain ⟨_, _, rfl, ⟨_, gap, rfl, ⟨_, form, rfl, ⟨_, left, rfl, ⟨rfl, -⟩, blankLeft⟩, same⟩,
    blankGap⟩, rfl, ending⟩ := taken
  have blankRest : Blank rest := by
    rcases ending with rfl | rfl
    · exact blank_nil
    · exact List.all_eq_true.mp (by decide)
  have trimmed : trim ([] ++ left ++ form ++ gap ++ [] ++ rest) = form := by
    rw [trim_append_right _ _ blankRest, List.append_nil, trim_append_right _ _ blankGap,
      List.nil_append, trim_append_left _ _ blankLeft]
    exact trim_of_solid form ((solid_of_same_text same).trans (by decide))
  have opens : Opens ('E' :: "ND".toList) form := ⟨form, [], by simp, same⟩
  refine quiet_of_silent fun bracket => ?_
  rw [trimmed, drop_label_of_opens (by decide) opens]
  intro told
  have only : ∀ word ∈ blockWords,
      compatible ('E' :: "ND".toList) word.toList = true → word = "END" := by decide
  have single := only _ (leading_word_known bracket) (opens_compatible opens (opens_of_tells told))
  have long := length_of_end single told
  have short : "END".toList.length = form.length := same.length_eq
  rw [← short] at long
  exact absurd long (by decide)

end BasicBench.Check
