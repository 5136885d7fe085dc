import BasicBench.Text.Letter
import BasicBench.Text.Line
import BasicBench.Source.Token

/-!
How the classes of characters lie to each other. Blanks are no word characters, the forms of a
letter are word characters together, and the characters that open a name are none of those
that patterns treat as separators. No character is without an upper case, and those of ASCII have
one of a single character.
-/

set_option autoImplicit false

namespace BasicBench.Text

/-- The code points of the blanks, written out. -/
def blankCodes : List Nat :=
  [9, 10, 11, 12, 13, 28, 29, 30, 31, 32, 0x85, 0xA0, 0x1680, 0x2000, 0x2001, 0x2002, 0x2003,
    0x2004, 0x2005, 0x2006, 0x2007, 0x2008, 0x2009, 0x200A, 0x2028, 0x2029, 0x202F, 0x205F, 0x3000]

theorem is_space_iff (c : Char) : isSpace c = true ↔ c.toNat ∈ blankCodes := by
  simp only [isSpace, blankCodes, Bool.or_eq_true, Bool.and_eq_true, decide_eq_true_eq,
    beq_iff_eq, List.mem_cons, List.not_mem_nil, or_false]
  omega

theorem word_char_of_code (code : Nat) (c : Char) (same : c.toNat = code) :
    isWordChar c =
      ((if code < 128 then (65 ≤ code && code ≤ 90) || (97 ≤ code && code ≤ 122) ||
        (48 ≤ code && code ≤ 57) else inRanges alphanumericRanges code) || code == 95) := by
  have underscore : (c == '_') = (code == 95) := by
    rw [Bool.eq_iff_iff, beq_iff_eq, beq_iff_eq, ← same]
    exact ⟨fun equal => equal ▸ rfl, fun equal => Char.toNat_inj.mp equal⟩
  simp only [isWordChar, isAlphanumeric, isLetter, isDigit, same, underscore]

theorem blank_codes_are_no_word_chars :
    blankCodes.all (fun code => !(if code < 128 then
      (65 ≤ code && code ≤ 90) || (97 ≤ code && code ≤ 122) || (48 ≤ code && code ≤ 57)
      else inRanges alphanumericRanges code) && code != 95) = true := by
  decide +kernel

theorem not_word_char_of_space (c : Char) (blank : isSpace c = true) : isWordChar c = false := by
  have checked := List.all_eq_true.mp blank_codes_are_no_word_chars _ ((is_space_iff c).mp blank)
  rw [word_char_of_code c.toNat c rfl]
  simp only [Bool.and_eq_true, Bool.not_eq_true', bne_iff_ne, ne_eq] at checked
  simp only [checked.1, checked.2, Bool.false_or, beq_eq_false_iff_ne, ne_eq, not_false_eq_true]

theorem not_space_of_word_char (c : Char) (word : isWordChar c = true) : isSpace c = false := by
  cases blank : isSpace c with
  | false => rfl
  | true => simp [not_word_char_of_space c blank] at word

theorem to_nat_of_capital : ∀ index < 26, (Char.ofNat (65 + index)).toNat = 65 + index := by
  decide

theorem capital_codes (c : Char) :
    (97 ≤ c.toNat ∧ c.toNat ≤ 122 ∧ (capital c).toNat = c.toNat - 32) ∨
      c.toNat ∈ [0x130, 0x131, 0x17F, 0x212A] ∧ (capital c).toNat ∈ [73, 83, 75] ∨
      capital c = c := by
  unfold capital
  simp only [Bool.and_eq_true, decide_eq_true_eq, Bool.or_eq_true, beq_iff_eq]
  split
  next lower =>
    refine .inl ⟨lower.1, lower.2, ?_⟩
    rw [show c.toNat - 32 = 65 + (c.toNat - 97) by omega]
    exact to_nat_of_capital _ (by omega)
  next =>
    split
    next form => rcases form with form | form <;> simp [form]
    next =>
      split
      next form => simp [form]
      next =>
        split
        next form => simp [form]
        next => exact .inr (.inr rfl)

/-- The forms of a letter belong to words together. -/
theorem word_char_capital (c : Char) : isWordChar (capital c) = isWordChar c := by
  rcases capital_codes c with ⟨low, high, code⟩ | ⟨form, code⟩ | same
  · rw [word_char_of_code _ _ code, word_char_of_code _ c rfl]
    have small : c.toNat - 32 < 128 := by omega
    have alsoSmall : c.toNat < 128 := by omega
    have upper : 65 ≤ c.toNat - 32 ∧ c.toNat - 32 ≤ 90 := by omega
    simp [small, alsoSmall, upper, low, high]
  · have plain : isWordChar c = true := by
      simp only [List.mem_cons, List.not_mem_nil, or_false] at form
      rcases form with form | form | form | form <;> rw [word_char_of_code _ c form] <;>
        decide +kernel
    rw [plain]
    simp only [List.mem_cons, List.not_mem_nil, or_false] at code
    rcases code with code | code | code <;> rw [word_char_of_code _ _ code] <;> decide
  · rw [same]

/-- A form of a letter is no blank. -/
theorem space_capital (c : Char) : isSpace (capital c) = isSpace c := by
  rcases capital_codes c with ⟨low, high, code⟩ | ⟨form, code⟩ | same
  · have upper : isWordChar (capital c) = true := by
      rw [word_char_of_code _ _ code]
      simp [show c.toNat - 32 < 128 by omega, show 65 ≤ c.toNat - 32 by omega,
        show c.toNat - 32 ≤ 90 by omega]
    rw [not_space_of_word_char _ upper,
      not_space_of_word_char c (by rwa [word_char_capital] at upper)]
  · have upper : isWordChar (capital c) = true := by
      simp only [List.mem_cons, List.not_mem_nil, or_false] at code
      rcases code with code | code | code <;> rw [word_char_of_code _ _ code] <;> decide
    rw [not_space_of_word_char _ upper,
      not_space_of_word_char c (by rwa [word_char_capital] at upper)]
  · rw [same]

theorem same_letter_refl (c : Char) : sameLetter c c = true := by simp [sameLetter]

theorem same_letter_trans {a b c : Char} (first : sameLetter a b = true)
    (second : sameLetter b c = true) : sameLetter a c = true := by
  simp only [sameLetter, beq_iff_eq] at *
  exact first.trans second

theorem same_letter_symm {a b : Char} (same : sameLetter a b = true) : sameLetter b a = true := by
  simp only [sameLetter, beq_iff_eq] at *
  exact same.symm

theorem word_char_of_same_letter {a b : Char} (same : sameLetter a b = true) :
    isWordChar a = isWordChar b := by
  rw [← word_char_capital a, ← word_char_capital b, beq_iff_eq.mp same]

theorem space_of_same_letter {a b : Char} (same : sameLetter a b = true) :
    isSpace a = isSpace b := by
  rw [← space_capital a, ← space_capital b, beq_iff_eq.mp same]

/-- Digits and marks in front of the letters have no other form. -/
theorem mark_of_same_letter {mark c : Char} (low : mark.toNat < 65)
    (same : sameLetter mark c = true) : c = mark := by
  have fixed : capital mark = mark := by
    rcases capital_codes mark with ⟨small, -, -⟩ | ⟨special, -⟩ | own
    · omega
    · simp only [List.mem_cons, List.not_mem_nil, or_false] at special
      omega
    · exact own
  have form : capital c = mark := (beq_iff_eq.mp same).symm.trans fixed
  rw [← form] at low
  rcases capital_codes c with ⟨small, -, lowered⟩ | ⟨-, special⟩ | own
  · omega
  · simp only [List.mem_cons, List.not_mem_nil, or_false] at special
    omega
  · exact own.symm.trans form

/-- An ASCII character all of whose forms have it as their upper case. -/
def isPlainForm (c : Char) : Bool :=
  capital c == c && c.toNat < 128 && !(['I', 'K'].contains c)

theorem special_form_cases (c : Char) (form : c.toNat ∈ [0x130, 0x131, 0x17F, 0x212A]) :
    capital c = 'I' ∧ upperChar c ∈ [['I'], [Char.ofNat 0x130]] ∨
      capital c = 'S' ∧ upperChar c = ['S'] ∨ capital c = 'K' := by
  rw [← Char.ofNat_toNat c]
  generalize c.toNat = code at form
  simp only [List.mem_cons, List.not_mem_nil, or_false] at form
  rcases form with rfl | rfl | rfl | rfl
  · exact .inl (by decide)
  · exact .inl (by decide)
  · exact .inr (.inl (by decide))
  · exact .inr (.inr (by decide))

theorem upper_char_of_lower (c : Char) (low : 97 ≤ c.toNat) (high : c.toNat ≤ 122) :
    upperChar c = [capital c] := by
  simp only [upperChar, capital, Bool.and_eq_true, decide_eq_true_eq]
  rw [if_pos (by omega), if_pos ⟨low, high⟩, if_pos ⟨low, high⟩]

theorem upper_char_of_capital (c : Char) (small : c.toNat < 128) (fixed : capital c = c) :
    upperChar c = [c] := by
  by_cases lower : 97 ≤ c.toNat ∧ c.toNat ≤ 122
  · rw [upper_char_of_lower c lower.1 lower.2, fixed]
  · simp only [upperChar, Bool.and_eq_true, decide_eq_true_eq]
    rw [if_pos small, if_neg lower]

theorem upper_char_of_ascii {c : Char} (small : c.toNat < 128) : upperChar c = [capital c] := by
  rcases capital_codes c with ⟨low, high, -⟩ | ⟨special, -⟩ | fixed
  · exact upper_char_of_lower c low high
  · simp only [List.mem_cons, List.not_mem_nil, or_false] at special
    omega
  · rw [upper_char_of_capital c small fixed, fixed]

/-- The upper case of ASCII text is taken letter by letter. -/
theorem upper_of_ascii {text : Text} (ascii : ∀ c ∈ text, c.toNat < 128) :
    upper text = text.map capital := by
  induction text with
  | nil => rfl
  | cons c rest induction =>
      rw [List.forall_mem_cons] at ascii
      rw [upper, List.flatMap_cons, upper_char_of_ascii ascii.1]
      exact congrArg (capital c :: ·) (induction ascii.2)

/-- All forms of such a character have the same upper case. -/
theorem upper_char_of_plain {letter c : Char} (plain : isPlainForm letter = true)
    (same : sameLetter letter c = true) : upperChar c = [letter] := by
  simp only [isPlainForm, Bool.and_eq_true, beq_iff_eq, decide_eq_true_eq, Bool.not_eq_true',
    List.contains_eq_mem, decide_eq_false_iff_not] at plain
  obtain ⟨⟨fixed, small⟩, plain⟩ := plain
  have form : capital c = letter := by rw [← beq_iff_eq.mp same, fixed]
  rcases capital_codes c with ⟨low, high, -⟩ | ⟨listed, -⟩ | ownCapital
  · rw [upper_char_of_lower c low high, form]
  · rcases special_form_cases c listed with ⟨isI, -⟩ | ⟨isS, shown⟩ | isK
    · exact absurd (by rw [← form, isI]; simp) plain
    · rw [shown, ← form, isS]
    · exact absurd (by rw [← form, isK]; simp) plain
  · obtain rfl : c = letter := ownCapital.symm.trans form
    exact upper_char_of_capital c small fixed

/-- The forms of the letter I have one of two capitals. -/
theorem upper_char_of_i {c : Char} (same : sameLetter 'I' c = true) :
    ∃ d, upperChar c = [d] ∧ d ∈ ['I', Char.ofNat 0x130] := by
  have form : capital c = 'I' := by
    rw [← beq_iff_eq.mp same]
    decide
  rcases capital_codes c with ⟨low, high, -⟩ | ⟨listed, -⟩ | ownCapital
  · exact ⟨'I', by rw [upper_char_of_lower c low high, form], by simp⟩
  · rcases special_form_cases c listed with ⟨-, shown⟩ | ⟨isS, -⟩ | isK
    · simp only [List.mem_cons, List.not_mem_nil, or_false] at shown
      exact shown.elim (fun shown => ⟨_, shown, by simp⟩) fun shown => ⟨_, shown, by simp⟩
    · exact absurd (isS.symm.trans form) (by decide)
    · exact absurd (isK.symm.trans form) (by decide)
  · obtain rfl : c = 'I' := ownCapital.symm.trans form
    exact ⟨'I', by decide, by simp⟩

theorem expansions_filled : upperExpansions.all (fun entry => !entry.2.isEmpty) = true := by
  decide +kernel

theorem upper_char_ne_nil (c : Char) : upperChar c ≠ [] := by
  simp only [upperChar]
  split
  · split <;> exact List.cons_ne_nil _ _
  · split
    · next codes expanded =>
        obtain ⟨entry, found, rfl⟩ := Option.map_eq_some_iff.mp expanded
        have filled := List.all_eq_true.mp expansions_filled entry (List.mem_of_find?_eq_some found)
        simpa using filled
    · exact List.cons_ne_nil _ _

theorem eq_nil_of_upper {text : Text} (nothing : upper text = []) : text = [] := by
  cases text with
  | nil => rfl
  | cons c rest =>
      rw [upper, List.flatMap_cons, List.append_eq_nil_iff] at nothing
      exact absurd nothing.1 (upper_char_ne_nil c)

end BasicBench.Text
