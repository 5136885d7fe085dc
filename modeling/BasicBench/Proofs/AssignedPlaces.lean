import BasicBench.Proofs.LineBrackets
import BasicBench.Proofs.Places
import BasicBench.Proofs.Undeclared
import BasicBench.Proofs.WordRuns
import Mathlib.Data.Bool.AllAny

/-!
The column of a report about an undeclared variable. The variable is the one that the line assigns
to, behind its indentation, its line number and a leading `LET` or `FOR`. The column is that of the
first place in the line where the letters of the name stand. This is the place of the variable
unless the same letters stand in the word in front of it.
-/

set_option autoImplicit false

namespace BasicBench

namespace Text

/-- The offset is that of the first place where the part stands. -/
theorem offset_of_iff {part : Text} (nonempty : part ≠ []) (text : Text) (offset : Nat) :
    offsetOf? part text = some offset ↔
      part <+: text.drop offset ∧ ∀ earlier < offset, ¬part <+: text.drop earlier := by
  induction text generalizing offset with
  | nil => simp [offsetOf?, nonempty]
  | cons c rest induction =>
      by_cases here : part.isPrefixOf (c :: rest) = true
      · have starts := List.isPrefixOf_iff_prefix.mp here
        rw [offsetOf?, if_pos here, Option.some_inj]
        constructor
        · rintro rfl
          exact ⟨starts, fun _ before => absurd before (Nat.not_lt_zero _)⟩
        · rintro ⟨-, first⟩
          by_contra later
          exact first 0 (by omega) starts
      · have notHere : ¬part <+: c :: rest := fun starts =>
          here (List.isPrefixOf_iff_prefix.mpr starts)
        rw [offsetOf?, if_neg here]
        cases offset with
        | zero => simp [notHere]
        | succ offset =>
            rw [Option.map_eq_some_iff]
            simp only [Nat.add_right_cancel_iff, exists_eq_right, induction, List.drop_succ_cons]
            refine and_congr_right fun _ => ⟨fun first earlier before => ?_, fun first => ?_⟩
            · cases earlier with
              | zero => exact notHere
              | succ earlier => exact first earlier (by omega)
            · exact fun earlier before => first (earlier + 1) (by omega)

end Text

namespace Check

open Text Pattern

/-! Names of variables. -/

theorem word_char_of_letter_form {c : Char} (letter : isLetterForm c = true) :
    isWordChar c = true := by
  have start : Token.isNameStart (capital c) = true := by
    rw [Token.isNameStart, show isLetter (capital c) = true from letter, Bool.true_or]
  rw [← word_char_capital]
  exact word_char_of_name_start _ start

theorem not_decimal_of_letter_form {c : Char} (letter : isLetterForm c = true) :
    isDecimal c = false := by
  have start : Token.isNameStart (capital c) = true := by
    rw [Token.isNameStart, show isLetter (capital c) = true from letter, Bool.true_or]
  exact not_decimal_of_same_letter (same_letter_refl c)
    (Instrument.not_decimal_of_name_start _ start)

/-- The characters of a name behind its first one. -/
def isNamePart (c : Char) : Bool := isLetterForm c || isDigit c || c == '_'

/-- One of the marks that give the type of a variable, or nothing. -/
def TypeMark (mark : Text) : Prop := mark = [] ∨ ∃ c, mark = [c] ∧ among "$%!#&" c = true

/-- A letter, then letters, digits and underscores, and at most one type mark. -/
def IsVariable (name : Text) : Prop :=
  ∃ first others mark, name = first :: (others ++ mark) ∧ isLetterForm first = true ∧
    (∀ c ∈ others, isNamePart c = true) ∧ TypeMark mark

theorem variable_name_takes (before : Option Char) (piece rest : Text) :
    variableName.Takes before piece rest ↔ IsVariable piece := by
  simp only [variableName, takes_append, takes_one, takes_many, takes_optional]
  constructor
  · rintro ⟨_, mark, rfl, ⟨_, others, rfl, ⟨first, letter, rfl⟩, parts⟩, marked⟩
    refine ⟨first, others, mark, rfl, letter, parts, marked.symm.imp_right ?_⟩
    rintro ⟨c, accepted, rfl⟩
    exact ⟨c, rfl, accepted⟩
  · rintro ⟨first, others, mark, rfl, letter, parts, marked⟩
    refine ⟨first :: others, mark, rfl, ⟨[first], others, rfl, ⟨first, letter, rfl⟩, parts⟩,
      (marked.imp_right ?_).symm⟩
    rintro ⟨c, rfl, accepted⟩
    exact ⟨c, accepted, rfl⟩

@[elab_as_elim]
theorem of_type_mark {motive : Char → Prop} (c : Char) (mark : among "$%!#&" c = true)
    (known : ∀ d ∈ "$%!#&".toList, motive d) : motive c :=
  known c (by simpa [among] using mark)

theorem solid_of_type_mark {mark : Text} (marked : TypeMark mark) :
    ∀ c ∈ mark, isSpace c = false ∧ c ≠ '=' := by
  rcases marked with rfl | ⟨c, rfl, accepted⟩
  · exact List.forall_mem_nil _
  · rw [List.forall_mem_singleton]
    exact of_type_mark c accepted (List.all_iff_forall_prop.mp (by decide))

theorem word_char_of_name_part {c : Char} (part : isNamePart c = true) : isWordChar c = true := by
  simp only [isNamePart, Bool.or_eq_true, beq_iff_eq] at part
  rcases part with (letter | digit) | rfl
  · exact word_char_of_letter_form letter
  · have code : c.toNat < 128 := by
      simp only [isDigit, Bool.and_eq_true, decide_eq_true_eq] at digit
      omega
    simp [isWordChar, isAlphanumeric, code, digit]
  · decide

theorem solid_of_word_char {c : Char} (word : isWordChar c = true) : isSpace c = false ∧ c ≠ '=' :=
  ⟨not_space_of_word_char c word, by rintro rfl; exact absurd word (by decide)⟩

/-- No blank and no equals sign stands in a name. -/
theorem solid_name {name : Text} (plain : IsVariable name) :
    ∀ c ∈ name, isSpace c = false ∧ c ≠ '=' := by
  obtain ⟨first, others, mark, rfl, letter, parts, marked⟩ := plain
  rw [List.forall_mem_cons, List.forall_mem_append]
  exact ⟨solid_of_word_char (word_char_of_letter_form letter),
    fun c member => solid_of_word_char (word_char_of_name_part (parts c member)),
    solid_of_type_mark marked⟩

theorem name_head {name : Text} (plain : IsVariable name) :
    ∃ first others, name = first :: others ∧ isLetterForm first = true := by
  obtain ⟨first, others, mark, rfl, letter, -⟩ := plain
  exact ⟨first, others ++ mark, rfl, letter⟩

/-! Assigned variables. -/

/-- A line number with the blanks and the colon behind it, or nothing. -/
inductive LineLabel : Text → Prop
  | none : LineLabel []
  | number {digits gap colon : Text} (nonempty : digits ≠ [])
      (decimal : ∀ c ∈ digits, isDecimal c = true) (blank : Blank gap)
      (closing : colon = [] ∨ ∃ after, colon = ':' :: after ∧ Blank after) :
      LineLabel (digits ++ (gap ++ colon))

/-- `LET` or `FOR` with the blanks behind it, or nothing. -/
inductive AssignmentOpening : Text → Prop
  | none : AssignmentOpening []
  | word {word gap : Text} (spelled : SameText "LET".toList word ∨ SameText "FOR".toList word)
      (nonempty : gap ≠ []) (blank : Blank gap) : AssignmentOpening (word ++ gap)

/-- The text assigns to the variable `name`. The indentation and the line number in front of it are
the margin. -/
structure Target (text margin opening name : Text) : Prop where
  indented : ∃ indentation label, margin = indentation ++ label ∧ Blank indentation ∧
    LineLabel label
  opens : AssignmentOpening opening
  plain : IsVariable name
  assigned : ∃ gap value, text = margin ++ (opening ++ (name ++ (gap ++ '=' :: value))) ∧
    Blank gap ∧ value.head? ≠ some '='

theorem drop_label_split (text : Text) :
    ∃ label, LineLabel label ∧ text = label ++ SourceLine.dropLabel text := by
  cases text with
  | nil => exact ⟨[], .none, rfl⟩
  | cons c rest =>
      rw [SourceLine.dropLabel]
      split
      · next decimal =>
          have digits : ∀ d ∈ c :: rest.takeWhile isDecimal, isDecimal d = true :=
            List.forall_mem_cons.mpr ⟨decimal, fun _ member => List.mem_takeWhile_imp member⟩
          have split : c :: rest = (c :: rest.takeWhile isDecimal) ++
              ((rest.dropWhile isDecimal).takeWhile isSpace ++
                (rest.dropWhile isDecimal).dropWhile isSpace) := by
            simp
          have gap := blank_indentation (rest.dropWhile isDecimal)
          split
          · next afterColon behind =>
              rw [behind] at split
              refine ⟨_, .number (List.cons_ne_nil c _) digits gap
                (.inr ⟨indentation afterColon, rfl, blank_indentation afterColon⟩), ?_⟩
              rw [split]
              simp [indentation]
          · refine ⟨_, .number (List.cons_ne_nil c _) digits gap (.inl rfl), ?_⟩
            rw [split]
            simp [indentation]
      · exact ⟨[], .none, rfl⟩

theorem opening_takes (piece rest : Text) :
    (textStart ++ optional (anyCase "LET" ++ blanks1 ||| anyCase "FOR" ++ blanks1)).Takes none
      piece rest ↔ AssignmentOpening piece := by
  simp only [takes_append, takes_text_start, takes_optional, takes_or, takes_any_case,
    takes_blanks1]
  constructor
  · rintro ⟨_, opening, rfl, ⟨rfl, -⟩, words | rfl⟩
    · rw [List.nil_append]
      rcases words with ⟨word, gap, rfl, same, some, blank⟩ | ⟨word, gap, rfl, same, some, blank⟩
      · exact .word (.inl same) some blank
      · exact .word (.inr same) some blank
    · exact .none
  · intro opening
    refine ⟨[], piece, rfl, ⟨rfl, trivial⟩, ?_⟩
    cases opening with
    | none => exact .inr rfl
    | word spelled some blank =>
        exact .inl (spelled.imp (fun same => ⟨_, _, rfl, same, some, blank⟩)
          fun same => ⟨_, _, rfl, same, some, blank⟩)

/-- What the code reads as the assigned variable is the target of the line. -/
theorem target_of_assigned {line : SourceLine} {name : Text}
    (assigned : assignedName? line = some name) :
    ∃ margin opening, Target line.text margin opening name := by
  obtain ⟨found, matched, rfl⟩ := Option.map_eq_some_iff.mp assigned
  obtain ⟨piece, rest, split, reads⟩ := at_start_some _ _ _ matched
  obtain ⟨piece, tail, rfl, reads, single⟩ := reads_append_plain (by decide) reads
  obtain ⟨piece, equals, rfl, reads, sign⟩ := reads_append_plain (by decide) reads
  obtain ⟨piece, gap, rfl, reads, blank⟩ := reads_append_plain (by decide) reads
  obtain ⟨opening, name, early, rfl, groups, head, takes⟩ := reads_append_capture (by decide) reads
  have captured : found.group 1 = name := by simp [Found.group, Found.group?, groups]
  obtain ⟨c, same, rfl⟩ := (takes_one ..).mp sign
  obtain rfl := beq_iff_eq.mp same
  obtain ⟨rfl, alone⟩ := (takes_not_ahead ..).mp single
  obtain ⟨left, right, leftBlank, rightBlank, whole⟩ := trim_split line.text
  obtain ⟨label, labelled, behind⟩ := drop_label_split (trim line.text)
  rw [captured]
  refine ⟨left ++ label, opening, ⟨⟨left, label, rfl, leftBlank, labelled⟩,
    (opening_takes ..).mp ⟨early, head⟩, (variable_name_takes ..).mp takes, gap, rest ++ right, ?_,
    (takes_blanks ..).mp blank, ?_⟩⟩
  · rw [SourceLine.statement, SourceLine.trimmed] at split
    rw [whole, behind, split]
    simp
  · intro equals
    cases rest with
    | nil =>
        have space := rightBlank '=' (List.mem_of_head? equals)
        exact absurd space (by decide)
    | cons c rest =>
        obtain rfl : c = '=' := Option.some.inj equals
        exact alone ⟨['='], rest, rfl, (takes_one ..).mpr ⟨'=', rfl, rfl⟩⟩

/-! There is one target on a line at most. -/

section Unique

variable {text margin opening name : Text}

/-- The characters of margins. -/
def inMargin (c : Char) : Bool := isSpace c || isDecimal c || c == ':'

theorem margin_of_blank {text : Text} (blank : Blank text) : ∀ c ∈ text, inMargin c = true :=
  fun c member => by simp [inMargin, blank c member]

theorem Target.margin_chars (target : Target text margin opening name) :
    ∀ c ∈ margin, inMargin c = true := by
  obtain ⟨indentation, label, rfl, blank, labelled⟩ := target.indented
  refine List.forall_mem_append.mpr ⟨margin_of_blank blank, ?_⟩
  cases labelled with
  | none => exact List.forall_mem_nil _
  | number _ decimal gapBlank closing =>
      refine List.forall_mem_append.mpr ⟨fun c member => by simp [inMargin, decimal c member], ?_⟩
      refine List.forall_mem_append.mpr ⟨margin_of_blank gapBlank, ?_⟩
      rcases closing with rfl | ⟨after, rfl, afterBlank⟩
      · exact List.forall_mem_nil _
      · exact List.forall_mem_cons.mpr ⟨rfl, margin_of_blank afterBlank⟩

theorem not_margin_of_letter {c : Char} (letter : isLetterForm c = true) : inMargin c = false := by
  have word := word_char_of_letter_form letter
  have colon : c ≠ ':' := by
    rintro rfl
    exact absurd word (by decide)
  simp [inMargin, not_space_of_word_char c word, not_decimal_of_letter_form letter, colon]

theorem letter_form_of_same {letter c : Char} (plain : isLetterForm letter = true)
    (same : sameLetter letter c = true) : isLetterForm c = true := by
  rwa [isLetterForm, ← beq_iff_eq.mp same]

/-- The words in front of a variable. -/
theorem opening_word {word : Text}
    (spelled : SameText "LET".toList word ∨ SameText "FOR".toList word) :
    (∃ first others, word = first :: others ∧ isLetterForm first = true) ∧
      ∀ c ∈ word, isSpace c = false ∧ c ≠ '=' := by
  have letters : ∀ c ∈ word, isWordChar c = true :=
    spelled.elim (Instrument.spelled_letters (by decide)) (Instrument.spelled_letters (by decide))
  refine ⟨?_, fun c member => solid_of_word_char (letters c member)⟩
  rcases spelled with same | same
  · cases same with
    | cons letter others => exact ⟨_, _, rfl, letter_form_of_same (by decide) letter⟩
  · cases same with
    | cons letter others => exact ⟨_, _, rfl, letter_form_of_same (by decide) letter⟩

/-- Behind the margin the text goes on with a letter. -/
theorem Target.head (target : Target text margin opening name) (rest : Text) :
    ∃ first others, opening ++ (name ++ rest) = first :: others ∧ isLetterForm first = true := by
  obtain ⟨first, others, named, letter⟩ := name_head target.plain
  cases target.opens with
  | none => exact ⟨first, others ++ rest, by rw [named]; rfl, letter⟩
  | word spelled _ _ =>
      obtain ⟨head, tail, rfl, headLetter⟩ := (opening_word spelled).1
      exact ⟨head, _, rfl, headLetter⟩

theorem Target.margin_eq (target : Target text margin opening name) :
    margin = text.takeWhile inMargin := by
  obtain ⟨gap, value, rfl, -⟩ := target.assigned
  obtain ⟨first, others, split, letter⟩ := target.head (gap ++ '=' :: value)
  rw [split, List.takeWhile_append_of_pos target.margin_chars,
    List.takeWhile_cons_of_neg (by simp [not_margin_of_letter letter]), List.append_nil]

/-- The characters that neither separate words nor assign. -/
def runsOn (c : Char) : Bool := !isSpace c && c != '='

theorem run_of_solid {word rest : Text} (solid : ∀ c ∈ word, isSpace c = false ∧ c ≠ '=')
    (stop : ∀ c ∈ rest.head?, isSpace c = true ∨ c = '=') :
    (word ++ rest).takeWhile runsOn = word := by
  have on : ∀ c ∈ word, runsOn c = true := fun c member => by simp [runsOn, solid c member]
  rw [List.takeWhile_append_of_pos on]
  cases rest with
  | nil => simp
  | cons c rest =>
      have off : ¬runsOn c = true := by
        rcases stop c rfl with blank | rfl
        · simp [runsOn, blank]
        · decide
      rw [List.takeWhile_cons_of_neg off, List.append_nil]

theorem stop_of_gap {gap rest : Text} (some : gap ≠ []) (blank : Blank gap) :
    ∀ c ∈ (gap ++ rest).head?, isSpace c = true ∨ c = '=' := by
  obtain ⟨d, others, rfl⟩ := List.exists_cons_of_ne_nil some
  rintro c member
  obtain rfl : d = c := Option.some.inj member
  exact .inl (blank d List.mem_cons_self)

theorem stop_of_equals {gap value : Text} (blank : Blank gap) :
    ∀ c ∈ (gap ++ '=' :: value).head?, isSpace c = true ∨ c = '=' := by
  by_cases some : gap = []
  · rintro c member
    rw [some] at member
    exact .inr (Option.some.inj member).symm
  · exact stop_of_gap some blank

/-- Runs that end at the ends of the same text are the same. -/
theorem run_unique {word word' rest rest' : Text}
    (solid : ∀ c ∈ word, isSpace c = false ∧ c ≠ '=')
    (solid' : ∀ c ∈ word', isSpace c = false ∧ c ≠ '=')
    (stop : ∀ c ∈ rest.head?, isSpace c = true ∨ c = '=')
    (stop' : ∀ c ∈ rest'.head?, isSpace c = true ∨ c = '=')
    (same : word ++ rest = word' ++ rest') : word = word' ∧ rest = rest' := by
  have equal : word = word' := by rw [← run_of_solid solid stop, same, run_of_solid solid' stop']
  subst equal
  exact ⟨rfl, List.append_cancel_left same⟩

/-- The first character behind blanks, and what follows it, are the same in the same text. -/
theorem first_solid_unique {left right rest other : Text} {c d : Char} (blank : Blank left)
    (blank' : Blank right) (solid : isSpace c = false) (solid' : isSpace d = false)
    (same : left ++ c :: rest = right ++ d :: other) : c = d ∧ rest = other :=
  List.cons.inj (blank_prefix_unique _ _ _ _ _ _ blank blank' solid solid' same).2

/-- A word with a variable behind it is not itself assigned to. -/
theorem word_not_assigned {word space name name' gap value rest : Text}
    (spelled : SameText "LET".toList word ∨ SameText "FOR".toList word) (some : space ≠ [])
    (spaceBlank : Blank space) (plain : IsVariable name) (plain' : IsVariable name')
    (blank : Blank gap)
    (same : (word ++ space) ++ (name ++ rest) = name' ++ (gap ++ '=' :: value)) : False := by
  rw [List.append_assoc] at same
  obtain ⟨-, behind⟩ := run_unique (opening_word spelled).2 (solid_name plain')
    (stop_of_gap some spaceBlank) (stop_of_equals blank) same
  obtain ⟨first, others, rfl, letter⟩ := name_head plain
  have solid := solid_of_word_char (word_char_of_letter_form letter)
  exact solid.2 (first_solid_unique spaceBlank blank solid.1 (by decide) behind).1

theorem assigned_unique {opening' name' gap value gap' value' : Text}
    (opens : AssignmentOpening opening) (opens' : AssignmentOpening opening')
    (plain : IsVariable name) (plain' : IsVariable name') (blank : Blank gap) (blank' : Blank gap')
    (same : opening ++ (name ++ (gap ++ '=' :: value)) =
      opening' ++ (name' ++ (gap' ++ '=' :: value'))) : opening = opening' ∧ name = name' := by
  have names (behind : name ++ (gap ++ '=' :: value) =
      name' ++ (gap' ++ '=' :: value')) : name = name' :=
    (run_unique (solid_name plain) (solid_name plain') (stop_of_equals blank)
      (stop_of_equals blank') behind).1
  cases opens with
  | none =>
      cases opens' with
      | none => exact ⟨rfl, names same⟩
      | word spelled some space =>
          exact (word_not_assigned spelled some space plain' plain blank same.symm).elim
  | word spelled some space =>
      cases opens' with
      | none => exact (word_not_assigned spelled some space plain plain' blank' same).elim
      | word spelled' some' space' =>
          rw [List.append_assoc, List.append_assoc] at same
          obtain ⟨rfl, behind⟩ := run_unique (opening_word spelled).2 (opening_word spelled').2
            (stop_of_gap some space) (stop_of_gap some' space') same
          obtain ⟨first, others, rfl, letter⟩ := name_head plain
          obtain ⟨first', others', rfl, letter'⟩ := name_head plain'
          obtain ⟨rfl, equal⟩ := blank_prefix_unique _ _ _ _ first first' space space'
            (solid_of_word_char (word_char_of_letter_form letter)).1
            (solid_of_word_char (word_char_of_letter_form letter')).1 behind
          exact ⟨rfl, names equal⟩

/-- The target of a line is the only one. -/
theorem Target.unique {margin' opening' name' : Text} (target : Target text margin opening name)
    (target' : Target text margin' opening' name') :
    margin' = margin ∧ opening' = opening ∧ name' = name := by
  obtain rfl : margin' = margin := by rw [target.margin_eq, target'.margin_eq]
  obtain ⟨gap, value, rfl, blank, -⟩ := target.assigned
  obtain ⟨gap', value', same, blank', -⟩ := target'.assigned
  obtain ⟨rfl, rfl⟩ := assigned_unique target.opens target'.opens target.plain target'.plain blank
    blank' (List.append_cancel_left same)
  exact ⟨rfl, rfl, rfl⟩

end Unique

/-! The first place of the name. -/

section Columns

variable {text margin opening name : Text}

/-- What begins before the end of an opening and holds no blank ends in the opening. -/
theorem in_opening {rest : Text} (opens : AssignmentOpening opening) (solid : ∀ c ∈ name, isSpace c = false)
    {offset : Nat} (inside : offset < opening.length)
    (starts : name <+: opening.drop offset ++ rest) : name <+: opening.drop offset := by
  rcases List.prefix_or_prefix_of_prefix starts (List.prefix_append ..) with short | long
  · exact short
  · have some : opening.drop offset ≠ [] := by
      rw [ne_eq, List.drop_eq_nil_iff]
      omega
    cases opens with
    | none => exact absurd inside (Nat.not_lt_zero _)
    | @word word gap spelled nonempty blank =>
        have last : ((word ++ gap).drop offset).getLast? = gap.getLast? := by
          rw [List.getLast?_drop, if_neg (by omega), List.getLast?_append,
            List.getLast?_eq_some_getLast nonempty, Option.some_or]
        rw [List.getLast?_eq_some_getLast nonempty] at last
        have space := blank _ (List.getLast_mem nonempty)
        rw [solid _ (long.subset (List.mem_of_getLast? last))] at space
        cases space

/-- The first place of the name is that of the variable exactly when the word in front of the
variable does not contain the name. -/
theorem Target.offset_iff (target : Target text margin opening name) :
    offsetOf? name text = some (margin ++ opening).length ↔ ¬name <:+: opening := by
  obtain ⟨first, others, named, letter⟩ := name_head target.plain
  have nonempty : name ≠ [] := by simp [named]
  obtain ⟨gap, value, split, -⟩ := target.assigned
  have here : name <+: text.drop (margin ++ opening).length := by
    rw [split, ← List.append_assoc, List.drop_left]
    exact List.prefix_append ..
  rw [offset_of_iff nonempty, and_iff_right here]
  constructor
  · rintro none ⟨left, right, inside⟩
    refine none (margin.length + left.length) ?_ ?_
    · have length := congrArg List.length inside
      have positive := List.length_pos_of_ne_nil nonempty
      simp only [List.length_append] at length ⊢
      omega
    · rw [split, ← inside, ← List.drop_drop, List.drop_left, List.append_assoc, List.append_assoc,
        List.drop_left]
      exact List.prefix_append ..
  · intro outside earlier before starts
    rcases Nat.lt_or_ge earlier margin.length with inMargin | behind
    · -- A margin has no letter.
      rw [split, List.drop_append_of_le_length inMargin.le, named,
        List.drop_eq_getElem_cons inMargin, List.cons_append, List.cons_prefix_cons] at starts
      have other := target.margin_chars _ (List.getElem_mem inMargin)
      rw [← starts.1, not_margin_of_letter letter] at other
      cases other
    · obtain ⟨offset, rfl⟩ := Nat.exists_eq_add_of_le behind
      rw [List.length_append] at before
      have inside : offset < opening.length := by omega
      rw [split, ← List.drop_drop, List.drop_left,
        List.drop_append_of_le_length inside.le] at starts
      have within := in_opening target.opens (fun c member => (solid_name target.plain c member).1)
        inside starts
      exact outside (within.isInfix.trans (List.drop_suffix ..).isInfix)

theorem undeclared_finding_column {line : SourceLine}
    (target : Target line.text margin opening name) :
    1 ≤ (undeclaredFinding line name).column ∧
      name <+: line.text.drop ((undeclaredFinding line name).column - 1) ∧
      ((undeclaredFinding line name).column = (margin ++ opening).length + 1 ↔
        ¬name <:+: opening) := by
  obtain ⟨first, others, named, -⟩ := name_head target.plain
  have nonempty : name ≠ [] := by simp [named]
  have inside : name <:+: line.text := by
    obtain ⟨gap, value, split, -⟩ := target.assigned
    exact ⟨margin ++ opening, gap ++ '=' :: value, by rw [split]; simp⟩
  obtain ⟨offset, placed, -⟩ := offset_of_infix inside
  have column : (undeclaredFinding line name).column = offset + 1 := by
    rw [undeclaredFinding, lineFinding, placed]
    rfl
  rw [column, Nat.add_sub_cancel, ← target.offset_iff, placed, Option.some_inj,
    Nat.add_right_cancel_iff]
  exact ⟨Nat.le_add_left 1 offset, ((offset_of_iff nonempty _ _).mp placed).1, Iff.rfl⟩

end Columns

/-- A finding of this category is what one line says of the variable that it assigns to. -/
theorem undeclared_of_category {lines : List SourceLine} {level : Level}
    {isKeyword : Text → Bool} {finding : Finding}
    (found : finding ∈ lineFindings level isKeyword lines)
    (category : finding.category = "implicit-declaration") :
    ∃ line ∈ lines, ∃ name, assignedName? line = some name ∧
      finding = undeclaredFinding line name := by
  obtain ⟨line, member, -, made⟩ := mem_findings_from found
  cases made with
  | basic basic =>
      have listed := mem_of_category.mpr ⟨basic, category⟩
      simp [of_basic_category] at listed
  | undeclared known name undeclared =>
      exact ⟨line, member, name, (undeclared_name_iff.mp undeclared).1, rfl⟩
  | strict strict =>
      have listed :=
        stricter_category (List.mem_append_left (readabilityFindings level line) strict)
      rw [category] at listed
      exact absurd listed (by decide)
  | readability readability =>
      have listed :=
        stricter_category (List.mem_append_right (strictFindings level line) readability)
      rw [category] at listed
      exact absurd listed (by decide)

/-- A report about an undeclared variable is about the one variable that its line assigns to. In its
column the letters of the name stand. It is the column of the variable itself exactly when the `LET`
or `FOR` in front of it, if any, does not contain the name. -/
theorem undeclared_column_iff (source : Text) (level : Level) (isKeyword : Text → Bool)
    (line : SourceLine) (finding : Finding) (member : line ∈ SourceLine.ofText source)
    (found : finding ∈ lineFindings level isKeyword (SourceLine.ofText source))
    (category : finding.category = "implicit-declaration") (number : finding.line = line.number) :
    ∃ margin opening name, Target line.text margin opening name ∧
      (∀ margin' opening' name', Target line.text margin' opening' name' →
        margin' = margin ∧ opening' = opening ∧ name' = name) ∧
      finding.message = s!"Variable '{String.ofList name}' may be implicitly declared" ∧
      1 ≤ finding.column ∧ name <+: line.text.drop (finding.column - 1) ∧
      (finding.column = (margin ++ opening).length + 1 ↔ ¬name <:+: opening) := by
  obtain ⟨other, listed, name, assigned, rfl⟩ := undeclared_of_category found category
  obtain rfl : other = line := by
    have here := (SourceLine.mem_of_text listed).2.1
    have there := (SourceLine.mem_of_text member).2.1
    rw [← number] at there
    exact Option.some.inj (here.symm.trans there)
  obtain ⟨margin, opening, target⟩ := target_of_assigned assigned
  exact ⟨margin, opening, name, target, fun _ _ _ => target.unique, rfl,
    undeclared_finding_column target⟩

/-- An assignment behind a line number and a `LET` that does not contain the name. -/
def numberedLine : SourceLine := ⟨1, "10 : LET total = 5".toList⟩

theorem numbered_target :
    Target numberedLine.text "10 : ".toList "LET ".toList "total".toList where
  indented := by
    refine ⟨[], "10 : ".toList, rfl, blank_nil, ?_⟩
    have label : LineLabel ("10".toList ++ (" ".toList ++ ": ".toList)) :=
      .number (by decide) (List.all_eq_true.mp (by decide)) (List.all_eq_true.mp (by decide))
        (.inr ⟨[' '], rfl, List.all_eq_true.mp (by decide)⟩)
    exact label
  opens := by
    have word : AssignmentOpening ("LET".toList ++ " ".toList) :=
      .word (.inl (same_text_refl _)) (by decide) (List.all_eq_true.mp (by decide))
    exact word
  plain := ⟨'t', "otal".toList, [], rfl, by decide, List.all_eq_true.mp (by decide), .inl rfl⟩
  assigned := ⟨" ".toList, " 5".toList, rfl, List.all_eq_true.mp (by decide), by decide⟩

theorem total_reported_in_place :
    undeclaredFinding numberedLine "total".toList ∈
        lineFindings .basic (fun _ => false) (SourceLine.ofText numberedLine.text) ∧
      (undeclaredFinding numberedLine "total".toList).column =
        ("10 : ".toList ++ "LET ".toList).length + 1 := by
  have listed : undeclaredFinding numberedLine "total".toList ∈
      lineFindings .basic (fun _ => false) (SourceLine.ofText numberedLine.text) := by
    decide +kernel
  obtain ⟨margin, opening, name, -, unique, -, -, -, place⟩ :=
    undeclared_column_iff numberedLine.text .basic (fun _ => false) numberedLine _ (.head _) listed
      rfl rfl
  obtain ⟨rfl, rfl, rfl⟩ := unique _ _ _ numbered_target
  exact ⟨listed, place.mpr (by decide)⟩

/-- The column of `T` is that of the `T` in `LET`, two columns in front of the variable. -/
theorem target_reported_in_let :
    undeclaredFinding ⟨1, "LET T = 5".toList⟩ "T".toList ∈
        lineFindings .basic (fun _ => false) (SourceLine.ofText "LET T = 5".toList) ∧
      (undeclaredFinding ⟨1, "LET T = 5".toList⟩ "T".toList).column = 3 ∧
      Target "LET T = 5".toList [] "LET ".toList "T".toList ∧
      ([] ++ "LET ".toList).length + 1 = 5 := by
  refine ⟨by decide +kernel, by decide +kernel, ⟨⟨[], [], rfl, blank_nil, .none⟩, ?_, ?_, ?_⟩, rfl⟩
  · exact AssignmentOpening.word (.inl (same_text_refl "LET".toList)) (List.cons_ne_nil ' ' [])
      (List.all_eq_true.mp (by decide))
  · exact ⟨'T', [], [], rfl, by decide, List.forall_mem_nil _, .inl rfl⟩
  · exact ⟨" ".toList, " 5".toList, rfl, List.all_eq_true.mp (by decide), by decide⟩

end Check
end BasicBench
