import BasicBench.Proofs.LineBrackets
import BasicBench.Proofs.Places
import BasicBench.Proofs.TopLines
import Mathlib.Data.List.Find

/-!
Edits and brackets. An edit exchanges a call for a call, and up to the first exchanged word a line
stays as it was. No word that leads the statement of a block, no line number and no remark runs
over that place, so a line has the same bracket before and after.
-/

set_option autoImplicit false

namespace BasicBench.Check

open Text Pattern Instrument Instrument.Edit

/-! Remarks. -/

/-- Letters that do not continue the word that makes a remark. -/
def isBreaking (letters : Text) : Bool :=
  !letters.isEmpty && letters.all isPlainForm && isInterrupted "REM".toList letters &&
    isInterrupted "REM ".toList letters

/-- Whether a trimmed line that goes on behind this text is a remark. -/
def opensRemark (front : Text) : Bool :=
  startsWith ['\''] front || startsWith "REM ".toList (upper front)

theorem apostrophe_before_name (front : Text) {text : Text} (head : NameHead text) :
    startsWith ['\''] (front ++ text) = startsWith ['\''] front := by
  obtain ⟨c, others, rfl, start⟩ := head
  cases front with
  | nil =>
      have other : ('\'' == c) = false := by
        rw [beq_eq_false_iff_ne]
        rintro rfl
        exact absurd start (by decide)
      simp [startsWith, List.isPrefixOf, other]
  | cons d front => rfl

theorem remark_before_letters (front : Text) {text letters : Text}
    (breaking : isBreaking letters = true) (opens : Opens letters text) :
    (upper (front ++ text) == "REM".toList) = false ∧
      startsWith "REM ".toList (upper (front ++ text)) =
        startsWith "REM ".toList (upper front) := by
  simp only [isBreaking, Bool.and_eq_true, Bool.not_eq_true', List.isEmpty_eq_false_iff] at breaking
  obtain ⟨⟨⟨some, plain⟩, word⟩, opening⟩ := breaking
  obtain ⟨form, more, rfl, same⟩ := opens
  have shown : upper (front ++ (form ++ more)) = upper front ++ (letters ++ upper more) := by
    rw [upper_append, upper_append, upper_of_form plain same]
  rw [shown]
  constructor
  · rw [beq_eq_false_iff_ne]
    intro whole
    have starts : "REM".toList <+: upper front ++ (letters ++ upper more) := by rw [whole]
    have within := opening_before_letters word starts
    have shorter := within.length_le
    have length := congrArg List.length whole
    have positive := List.length_pos_of_ne_nil some
    rw [List.length_append, List.length_append] at length
    omega
  · rw [Bool.eq_iff_iff, startsWith, startsWith, List.isPrefixOf_iff_prefix,
      List.isPrefixOf_iff_prefix]
    exact ⟨opening_before_letters opening, fun starts => starts.trans (List.prefix_append _ _)⟩

theorem code_before_letters {line front text letters : Text}
    (shape : trim line = front ++ text) (head : NameHead text) (opens : Opens letters text)
    (breaking : isBreaking letters = true) : isCodeText line = !opensRemark front := by
  have apostrophe := apostrophe_before_name front head
  obtain ⟨notWord, remark⟩ := remark_before_letters front breaking opens
  have some : (trim line).isEmpty = false := by
    obtain ⟨c, others, rfl, -⟩ := head
    simp [shape]
  rw [isCodeText, SourceLine.isCode, SourceLine.isBlank, SourceLine.isComment,
    SourceLine.trimmed, some, shape, apostrophe, notWord, remark, opensRemark, Bool.or_false]
  rfl

/-! Line numbers. -/

theorem drop_while_before (drop : Char → Bool) (front others : Text) {c : Char}
    (kept : drop c = false) :
    (front ++ c :: others).dropWhile drop = front.dropWhile drop ++ c :: others := by
  induction front with
  | nil => exact List.dropWhile_cons_of_neg (by simp [kept])
  | cons d front induction =>
      by_cases dropped : drop d = true
      · rw [List.cons_append, List.dropWhile_cons_of_pos dropped, induction,
          List.dropWhile_cons_of_pos dropped]
      · rw [List.cons_append, List.dropWhile_cons_of_neg dropped,
          List.dropWhile_cons_of_neg dropped, List.cons_append]

/-- What is left behind the digits of a line number. -/
def behindLabel : Text → Text
  | ':' :: afterColon => afterColon.dropWhile isSpace
  | afterBlanks => afterBlanks

theorem drop_label_cons (c : Char) (rest : Text) :
    SourceLine.dropLabel (c :: rest) = if isDecimal c then
      behindLabel ((rest.dropWhile isDecimal).dropWhile isSpace) else c :: rest := by
  rw [SourceLine.dropLabel]
  split
  · unfold behindLabel
    rfl
  · rfl

theorem behind_label_before (front others : Text) {c : Char} (noBlank : isSpace c = false)
    (noColon : c ≠ ':') :
    behindLabel (front ++ c :: others) = behindLabel front ++ c :: others := by
  cases front with
  | nil =>
      rw [List.nil_append, behindLabel]
      · rfl
      · rintro afterColon same
        exact noColon (List.cons.inj same).1
  | cons d front =>
      by_cases colon : d = ':'
      · subst colon
        exact drop_while_before isSpace front others noBlank
      · have other (rest : Text) : behindLabel (d :: rest) = d :: rest := by
          rw [behindLabel]
          rintro afterColon same
          exact colon (List.cons.inj same).1
        rw [List.cons_append, other, other, List.cons_append]

/-- A name ends a line number. -/
theorem drop_label_before (front : Text) {text : Text} (head : NameHead text) :
    SourceLine.dropLabel (front ++ text) = SourceLine.dropLabel front ++ text := by
  obtain ⟨c, others, rfl, start⟩ := head
  have noDigit := not_decimal_of_name_start c start
  have noBlank := not_space_of_name_start c start
  have noColon : c ≠ ':' := by
    rintro rfl
    exact absurd start (by decide)
  cases front with
  | nil =>
      rw [List.nil_append, drop_label_cons, noDigit, if_neg (by decide)]
      rfl
  | cons d front =>
      rw [List.cons_append, drop_label_cons, drop_label_cons]
      split
      · rw [drop_while_before isDecimal front others noDigit,
          drop_while_before isSpace _ others noBlank, behind_label_before _ others noBlank noColon]
      · rfl

/-! The forms. -/

/-- Whether the pattern matches a line is the same before and after any edit further on. -/
def Indifferent (pattern : Pattern) : Prop :=
  ∀ (edit : Edit) (kept old new : Text), Follows edit.fresh (lastOf none kept) →
    Opens edit.key.toList old → Opens edit.call.toList new →
      pattern.startsText (kept ++ old) = pattern.startsText (kept ++ new)

theorem indifferent_of_steady {pattern : Pattern} (steady : Steady pattern) :
    Indifferent pattern := by
  intro edit kept old new follows opensOld opensNew
  have stops := steady edit old new opensOld opensNew
  exact starts_text_congr stops.1 stops.2 kept follows

/-- What a procedure name begins with, without the name. -/
def nameAhead : Pattern := ahead (one BlockEvent.isNameStart)

theorem stops_short_name_ahead {fresh : Bool} {old new : Text} (head : NameHead new) :
    nameAhead.StopsShort fresh old new := by
  refine stops_short_of_zero_width (by simp +contextual [nameAhead]) ?_
  rintro before kept - taken
  obtain ⟨c, others, rfl, start⟩ := head
  have opens : BlockEvent.isNameStart c = true := by
    simp only [Token.isNameStart, Bool.or_eq_true, beq_iff_eq] at start
    simp only [BlockEvent.isNameStart, isLetterForm, Bool.or_eq_true, beq_iff_eq]
    refine start.imp_left fun letter => ?_
    rcases capital_codes c with ⟨low, high, code⟩ | ⟨form, code⟩ | same
    · simp only [isLetter, Bool.or_eq_true, Bool.and_eq_true, decide_eq_true_eq]
      omega
    · simp only [isLetter, Bool.or_eq_true, Bool.and_eq_true, decide_eq_true_eq] at letter
      simp only [List.mem_cons, List.not_mem_nil, or_false] at form
      omega
    · rwa [same]
  rw [nameAhead, takes_ahead] at taken ⊢
  refine ⟨rfl, ?_⟩
  cases kept with
  | nil => exact ⟨[c], others, rfl, (takes_one ..).mpr ⟨c, opens, rfl⟩⟩
  | cons d kept =>
      obtain ⟨-, seen, beyond, split, takes⟩ := taken
      obtain ⟨e, accepted, rfl⟩ := (takes_one ..).mp takes
      obtain ⟨rfl, -⟩ := List.cons.inj split
      exact ⟨[d], kept ++ c :: others, rfl, (takes_one ..).mpr ⟨d, accepted, rfl⟩⟩

theorem steady_name_ahead : Steady nameAhead :=
  fun edit _ _ opensOld opensNew =>
    ⟨stops_short_name_ahead (edit.name_head_of_call opensNew),
      stops_short_name_ahead (edit.name_head_of_key opensOld)⟩

/-- A name may be as short as its first character, so no more of it has to be looked at. -/
theorem starts_text_name (first inner : Pattern)
    (named : ∀ before piece rest, inner.Takes before piece rest →
      ∃ c more, piece = c :: more ∧ BlockEvent.isNameStart c = true)
    (short : ∀ before c rest, BlockEvent.isNameStart c = true → inner.Takes before [c] rest)
    (text : Text) :
    (first ++ capture 1 inner).startsText text = (first ++ nameAhead).startsText text := by
  rw [Bool.eq_iff_iff, starts_text_iff, starts_text_iff]
  simp only [takes_append, takes_capture, nameAhead, takes_ahead]
  constructor
  · rintro ⟨_, rest, rfl, left, name, rfl, takesLeft, takesName⟩
    obtain ⟨c, more, rfl, start⟩ := named _ _ _ takesName
    refine ⟨left ++ [], (c :: more) ++ rest, by simp, left, [], rfl, takesLeft, rfl, [c],
      more ++ rest, rfl, (takes_one ..).mpr ⟨c, start, rfl⟩⟩
  · rintro ⟨_, _, rfl, left, _, rfl, takesLeft, rfl, seen, beyond, rfl, takesSeen⟩
    obtain ⟨c, start, rfl⟩ := (takes_one ..).mp takesSeen
    exact ⟨left ++ [c], beyond, by simp, left, [c], rfl, takesLeft, short _ c beyond start⟩

theorem indifferent_name {first inner : Pattern} (steady : Steady first)
    (named : ∀ before piece rest, inner.Takes before piece rest →
      ∃ c more, piece = c :: more ∧ BlockEvent.isNameStart c = true)
    (short : ∀ before c rest, BlockEvent.isNameStart c = true → inner.Takes before [c] rest) :
    Indifferent (first ++ capture 1 inner) := by
  intro edit kept old new follows opensOld opensNew
  rw [starts_text_name first inner named short, starts_text_name first inner named short]
  exact indifferent_of_steady (steady_append steady steady_name_ahead) edit kept old new follows
    opensOld opensNew

theorem procedure_name_takes {before : Option Char} {piece rest : Text} :
    BlockEvent.procedureName.Takes before piece rest ↔
      ∃ c more, piece = c :: more ∧ BlockEvent.isNameStart c = true ∧
        ∀ d ∈ more, BlockEvent.isNameRest d = true := by
  simp only [BlockEvent.procedureName, takes_append, takes_one, takes_many]
  constructor
  · rintro ⟨_, more, rfl, ⟨c, start, rfl⟩, others⟩
    exact ⟨c, more, rfl, start, others⟩
  · rintro ⟨c, more, rfl, start, others⟩
    exact ⟨[c], more, rfl, ⟨c, start, rfl⟩, others⟩

theorem procedure_name_of_start {before : Option Char} {c : Char} {rest : Text}
    (start : BlockEvent.isNameStart c = true) :
    BlockEvent.procedureName.Takes before [c] rest :=
  procedure_name_takes.mpr ⟨c, [], rfl, start, fun _ member => absurd member List.not_mem_nil⟩

theorem indifferent_procedure (word : String) (apart : isApart word.toList = true) :
    Indifferent (anyCase word ++ blanks1 ++ capture 1 BlockEvent.procedureName) := by
  refine indifferent_name (steady_append (steady_any_case word apart) steady_blanks1) ?_ ?_
  · intro before piece rest taken
    obtain ⟨c, more, rfl, start, -⟩ := procedure_name_takes.mp taken
    exact ⟨c, more, rfl, start⟩
  · exact fun _ _ _ start => procedure_name_of_start start

theorem indifferent_function (word : String) (apart : isApart word.toList = true)
    (sigil : Char → Bool) : Indifferent (anyCase word ++ blanks1 ++
      capture 1 (BlockEvent.procedureName ++ many sigil)) := by
  refine indifferent_name (steady_append (steady_any_case word apart) steady_blanks1) ?_ ?_
  · intro before piece rest taken
    obtain ⟨name, sigils, rfl, takesName, -⟩ := (takes_append ..).mp taken
    obtain ⟨c, more, rfl, start, -⟩ := procedure_name_takes.mp takesName
    exact ⟨c, more ++ sigils, rfl, start⟩
  · intro before c rest start
    exact (takes_append ..).mpr ⟨[c], [], rfl, procedure_name_of_start start, by simp⟩

theorem forms_indifferent : ∀ form ∈ bracketForms, Indifferent form.2 := by
  have edged (word : String) (apart : isApart word.toList = true) :
      Indifferent (anyCase word ++ wordEdge) :=
    indifferent_of_steady (steady_append (steady_any_case word apart) steady_word_edge)
  have ending (word : String) (apart : isApart word.toList = true) :
      Indifferent (anyCase "END" ++ blanks1 ++ anyCase word ++ wordEdge) :=
    indifferent_of_steady (steady_append (steady_append (steady_append
      (steady_any_case "END" (by decide)) steady_blanks1) (steady_any_case word apart))
        steady_word_edge)
  have loop : Indifferent (anyCase "FOR" ++ one isSpace) :=
    indifferent_of_steady (steady_append (steady_any_case "FOR" (by decide))
      (steady_one not_space_of_name_start))
  simp only [bracketForms, BlockEvent.openers, BlockEvent.closers, List.map_cons, List.map_nil,
    List.cons_append, List.nil_append, List.forall_mem_cons]
  exact ⟨loop, edged "WHILE" (by decide), edged "DO" (by decide),
    indifferent_procedure "SUB" (by decide), indifferent_function "FUNCTION" (by decide) _,
    edged "NEXT" (by decide), edged "WEND" (by decide), edged "LOOP" (by decide),
    ending "SUB" (by decide), ending "FUNCTION" (by decide),
    fun _ member => absurd member List.not_mem_nil⟩

/-! The line. -/

/-- The first letters of the call that an edit writes. -/
def callStart : Edit → Text
  | .freefile => "RES".toList
  | .image => "GRA".toList
  | .point => "CAL".toList

theorem same_text_trans {word form text : Text} (first : SameText word form)
    (second : SameText form text) : SameText word text := by
  induction first generalizing text with
  | nil => exact second
  | cons letter _ induction =>
      cases second with
      | cons other others => exact .cons (same_letter_trans letter other) (induction others)

theorem opens_call_start (edit : Edit) {text : Text} (opens : Opens edit.call.toList text) :
    Opens (callStart edit) text := by
  obtain ⟨start, others, split, same⟩ : ∃ start others, edit.call.toList = start ++ others ∧
      SameText (callStart edit) start := by
    cases edit with
    | freefile =>
        exact ⟨"Res".toList, "ourceManager_GetFileHandle%".toList, by decide, by decide⟩
    | image => exact ⟨"Gra".toList, "phicsManager_CreateImage&(".toList, by decide, by decide⟩
    | point =>
        exact ⟨"CAL".toList, "L GraphicsManager_SafePSET(".toList, by decide, by decide⟩
  obtain ⟨form, more, rfl, sameForm⟩ := opens_shorter start others text (split ▸ opens)
  exact ⟨form, more, rfl, same_text_trans same sameForm⟩

theorem starts_breaking (edit : Edit) :
    isBreaking (keyStart edit) = true ∧ isBreaking (callStart edit) = true := by
  cases edit <;> decide

theorem words_solid (edit : Edit) :
    isSolid edit.key.toList = true ∧ isSolid edit.call.toList = true := by
  cases edit <;> decide

/-- Trimming keeps what stands between the indentation and the end of a solid word. -/
theorem trim_before_word (kept tail : Text) {word text : Text} (solid : isSolid word = true)
    (opens : Opens word text) :
    ∃ more, trim (kept ++ (text ++ tail)) = trimLeft kept ++ more ∧ Opens word more := by
  obtain ⟨form, others, rfl, same⟩ := opens
  obtain ⟨left, blank, front⟩ := trim_left_split kept
  have formSolid : isSolid form = true := (solid_of_same_text same).trans solid
  obtain ⟨more, trimmed⟩ := trim_keeps_solid left _ (others ++ tail) blank
    (solid_trim_left_append kept form formSolid)
  refine ⟨form ++ more, ?_, form, more, rfl, same⟩
  have shape : kept ++ (form ++ others ++ tail) =
      left ++ ((trimLeft kept ++ form) ++ (others ++ tail)) := by
    conv => lhs; rw [front]
    simp
  rw [shape, trimmed, List.append_assoc]

theorem follows_of_suffix {fresh : Bool} {part text : Text} (suffix : part <:+ text)
    (follows : Follows fresh (lastOf none text)) : Follows fresh (lastOf none part) := by
  obtain ⟨front, rfl⟩ := suffix
  cases part with
  | nil => exact fun _ => rfl
  | cons c part =>
      rw [last_of_append, last_of_cons] at follows
      rwa [last_of_cons]

/-- An edit leaves the bracket of a line as it is. -/
theorem bracket_apply (edit : Edit) (line : Text) : bracket? (edit.apply line) = bracket? line := by
  rcases edit.apply_exchanges line with same | ⟨kept, old, new, tail, exchange⟩
  · rw [same]
  · obtain ⟨before, lineShape, opensOld⟩ :=
      trim_before_word kept tail (words_solid edit).1 exchange.opensOld
    obtain ⟨after, outShape, opensNew⟩ :=
      trim_before_word kept tail (words_solid edit).2 exchange.opensNew
    rw [← exchange.before] at lineShape
    rw [← exchange.after] at outShape
    have oldHead := edit.name_head_of_key opensOld
    have newHead := edit.name_head_of_call opensNew
    have oldStart : Opens (keyStart edit) before := by
      obtain ⟨others, split⟩ := key_start_split edit
      exact opens_shorter _ others before (split ▸ opensOld)
    have newStart := opens_call_start edit opensNew
    have code : isCodeText (edit.apply line) = isCodeText line := by
      rw [code_before_letters lineShape oldHead oldStart (starts_breaking edit).1,
        code_before_letters outShape newHead newStart (starts_breaking edit).2]
    have front : SourceLine.dropLabel (trimLeft kept) <:+ kept :=
      (drop_label_suffix _).trans (List.dropWhile_suffix _)
    have follows := follows_of_suffix front exchange.follows
    rw [bracket_eq, bracket_eq, code, lineShape, outShape, drop_label_before _ oldHead,
      drop_label_before _ newHead]
    congr 2
    refine List.find?_congr fun form listed => ?_
    exact (forms_indifferent form listed edit _ _ _ follows opensOld opensNew).symm

end BasicBench.Check
