import BasicBench.Proofs.Lexemes
import BasicBench.Source.Line

/-!
Lines that are no code have no tokens that mean anything. A blank line has none but for blanks that
the tokens do not know, and so has the indentation of a comment. A comment behind the word `REM` is
told by the upper case of its first letters. No character beyond ASCII has one of these letters or
the space in front of its upper case, so the first name of such a line is that word as well.
-/

set_option autoImplicit false

namespace BasicBench

open Text

namespace Text

/-! Letters that no character beyond ASCII has for an upper case. -/

/-- Nothing is moved or expanded to these characters when the upper case is taken, and no small letter
is among them. -/
structure Firm (letters : Text) : Prop where
  runs : upperRuns.all (fun run => letters.all fun letter =>
    !run.has (Int.ofNat letter.toNat - run.shift).toNat) = true
  expansions : upperExpansions.all (fun entry => letters.all fun letter =>
    entry.2.all (· != letter.toNat)) = true
  written : letters.all (fun letter => 0 < letter.toNat && letter.toNat < 97) = true

theorem code_of_char {code : Nat} {c : Char} (same : Char.ofNat code = c) (written : 0 < c.toNat) :
    code = c.toNat := by
  subst same
  by_cases valid : code.isValidChar
  · have shown : Char.ofNat code = Char.ofNatAux code valid := dif_pos valid
    rw [shown]
    rfl
  · have shown : Char.ofNat code = '\x00' := dif_neg valid
    rw [shown] at written
    cases written

/-- The letter itself, or the small letter of a capital one. -/
def IsForm (letter c : Char) : Prop :=
  c = letter ∨ 97 ≤ c.toNat ∧ c.toNat = letter.toNat + 32

section Firm

variable {letters : Text} {letter : Char} (firm : Firm letters) (listed : letter ∈ letters)

include firm listed

theorem firm_written : 0 < letter.toNat ∧ letter.toNat < 97 := by
  simpa using List.all_eq_true.mp firm.written letter listed

/-- No run moves a character to one of these letters. -/
theorem shifted_not_firm {code shifted : Nat}
    (moved : CaseRun.shifted? upperRuns code = some shifted) : shifted ≠ letter.toNat := by
  rintro rfl
  obtain ⟨run, found, place⟩ := Option.map_eq_some_iff.mp moved
  have has := List.find?_some found
  have apart := List.all_eq_true.mp (List.all_eq_true.mp firm.runs run
    (List.mem_of_find?_eq_some found)) letter listed
  have written := firm_written firm listed
  have origin : (Int.ofNat letter.toNat - run.shift).toNat = code := by
    simp only [Int.ofNat_eq_natCast] at place ⊢
    omega
  rw [origin, has] at apart
  cases apart

/-- No character that becomes several becomes one of these letters. -/
theorem expanded_not_firm {code : Nat} {codes : List Nat}
    (expanded : expansion? upperExpansions code = some codes) : letter.toNat ∉ codes := by
  obtain ⟨entry, found, rfl⟩ := Option.map_eq_some_iff.mp expanded
  intro member
  have apart := List.all_eq_true.mp (List.all_eq_true.mp (List.all_eq_true.mp firm.expansions entry
    (List.mem_of_find?_eq_some found)) letter listed) _ member
  simp at apart

/-- Only the two ASCII forms of these letters have one of them in their upper case. -/
theorem upper_char_firm {c : Char} (inside : letter ∈ upperChar c) :
    upperChar c = [letter] ∧ IsForm letter c := by
  have written := firm_written firm listed
  simp only [upperChar] at inside ⊢
  split at inside
  · next small =>
      split at inside
      · next lower =>
          simp only [Bool.and_eq_true, decide_eq_true_eq] at lower
          obtain rfl := List.mem_singleton.mp inside
          have code := code_of_char rfl written.1
          rw [if_pos small, if_pos (by simpa using lower)]
          exact ⟨rfl, .inr ⟨lower.1, by omega⟩⟩
      · next other =>
          obtain rfl := List.mem_singleton.mp inside
          rw [if_pos small, if_neg other]
          exact ⟨rfl, .inl rfl⟩
  · next beyond =>
      exfalso
      split at inside
      · next codes expanded =>
          obtain ⟨code, member, same⟩ := List.mem_map.mp inside
          rw [code_of_char same written.1] at member
          exact expanded_not_firm firm listed expanded member
      · have same := List.mem_singleton.mp inside
        cases moved : CaseRun.shifted? upperRuns c.toNat with
        | none =>
            rw [moved, Option.map_none, Option.getD_none] at same
            subst same
            omega
        | some shifted =>
            rw [moved, Option.map_some, Option.getD_some] at same
            exact shifted_not_firm firm listed moved (code_of_char same.symm written.1)

end Firm

/-- The characters that tell a remark. -/
def remarkLetters : Text := "REM ".toList

theorem remark_letters_firm : Firm remarkLetters :=
  ⟨by decide +kernel, by decide +kernel, by decide⟩

/-- A text whose upper case begins with such a letter begins with a form of it. -/
theorem cons_of_upper {text more : Text} {letter : Char} (listed : letter ∈ remarkLetters)
    (shown : upper text = letter :: more) :
    ∃ c rest, text = c :: rest ∧ IsForm letter c ∧ upper rest = more := by
  cases text with
  | nil => cases shown
  | cons c rest =>
      rw [upper, List.flatMap_cons] at shown
      obtain ⟨first, others, split⟩ := List.exists_cons_of_ne_nil (upper_char_ne_nil c)
      rw [split, List.cons_append, List.cons.injEq] at shown
      obtain ⟨rfl, behind⟩ := shown
      have inside : first ∈ upperChar c := by
        rw [split]
        exact List.mem_cons_self
      obtain ⟨single, form⟩ := upper_char_firm remark_letters_firm listed inside
      rw [split, List.cons.injEq] at single
      rw [single.2, List.nil_append] at behind
      exact ⟨c, rest, rfl, form, behind⟩

theorem forms_of_letter {c letter small : Char} (form : IsForm letter c)
    (code : small.toNat = letter.toNat + 32) : c = letter ∨ c = small :=
  form.imp_right fun same => Char.toNat_inj.mp (same.2.trans code.symm)

end Text

/-! The word that makes a remark. -/

namespace Token

/-- No name goes on here. -/
def EndsName (text : Text) : Prop := ∀ c ∈ text.head?, isNameChar c = false ∧ isNameSigil c = false

theorem name_of_remark_word {r e m : Char} (start : isNameStart r = true)
    (others : isNameChar e = true ∧ isNameChar m = true) {rest : Text} (ends : EndsName rest) :
    name? (r :: e :: m :: rest) = some [r, e, m] := by
  have body : run isNameChar (e :: m :: rest) = ([e, m], rest) := by
    cases rest with
    | nil => simp [run, others]
    | cons c rest => simp [run, others, (ends c rfl).1]
  have sigils : rest.takeWhile isNameSigil = [] := by
    cases rest with
    | nil => rfl
    | cons c rest => exact List.takeWhile_cons_of_neg (by simp [(ends c rfl).2])
  simp only [name?, start, if_true, body, sigils]
  rfl

/-- The word that makes a remark, in either case, leaves no tokens. -/
theorem scan_remark_word {r e m : Char} (first : r = 'R' ∨ r = 'r') (second : e = 'E' ∨ e = 'e')
    (third : m = 'M' ∨ m = 'm') {rest : Text} (ends : EndsName rest) (column : Nat) :
    scan column (r :: e :: m :: rest) = some [] := by
  have start : isNameStart r = true := by rcases first with rfl | rfl <;> decide
  have others : isNameChar e = true ∧ isNameChar m = true :=
    ⟨by rcases second with rfl | rfl <;> decide, by rcases third with rfl | rfl <;> decide⟩
  have word : isRemark .name [r, e, m] = true := by
    rcases first with rfl | rfl <;> rcases second with rfl | rfl <;> rcases third with rfl | rfl <;>
      decide
  have found : read r (e :: m :: rest) = (.name, [r, e, m]) := by
    have noNumber : radixNumber? (r :: e :: m :: rest) = none ∧
        number? (r :: e :: m :: rest) = none := by
      rcases first with rfl | rfl <;> exact ⟨rfl, rfl⟩
    have noQuote : r ≠ '"' := by rcases first with rfl | rfl <;> decide
    rw [read, if_neg noQuote, noNumber.1, noNumber.2, name_of_remark_word start others ends]
  have plain : isGap r = false ∧ r ≠ '\'' ∧ r ≠ '\n' := by
    rcases first with rfl | rfl <;> decide
  rw [scan_token column plain.1 plain.2 found, if_pos word]

theorem ends_name_of_space {c : Char} (blank : isSpace c = true) (rest : Text) :
    EndsName (c :: rest) := by
  intro d same
  obtain rfl := Option.some.inj same
  have blanks : blankCodes.all (fun code =>
      !isNameChar (Char.ofNat code) && !isNameSigil (Char.ofNat code)) = true := by decide
  have apart := List.all_eq_true.mp blanks _ ((is_space_iff c).mp blank)
  rw [Char.ofNat_toNat] at apart
  simpa using apart

end Token

/-! Lines that are no code. -/

namespace SourceLine

theorem remark_of_upper {text more : Text} (shown : upper text = 'R' :: 'E' :: 'M' :: more) :
    ∃ r e m rest, text = r :: e :: m :: rest ∧ (r = 'R' ∨ r = 'r') ∧ (e = 'E' ∨ e = 'e') ∧
      (m = 'M' ∨ m = 'm') ∧ upper rest = more := by
  obtain ⟨r, _, rfl, first, shown⟩ := cons_of_upper (by decide) shown
  obtain ⟨e, _, rfl, second, shown⟩ := cons_of_upper (by decide) shown
  obtain ⟨m, rest, rfl, third, shown⟩ := cons_of_upper (by decide) shown
  exact ⟨r, e, m, rest, rfl, forms_of_letter first (by decide), forms_of_letter second (by decide),
    forms_of_letter third (by decide), shown⟩

/-- A trimmed line that is a remark leaves no tokens, whatever blanks stand behind it. -/
theorem scan_comment_line {line : SourceLine} (comment : line.isComment = true) {right : Text}
    (blank : Blank right) (unbroken : '\n' ∉ line.trimmed ++ right) (column : Nat) :
    Token.scan column (line.trimmed ++ right) = some [] := by
  have word (more : Text) (shown : upper line.trimmed = 'R' :: 'E' :: 'M' :: more)
      (ends : ∀ rest, upper rest = more → Token.EndsName (rest ++ right)) :
      Token.scan column (line.trimmed ++ right) = some [] := by
    obtain ⟨r, e, m, rest, split, first, second, third, behind⟩ := remark_of_upper shown
    rw [split, List.cons_append, List.cons_append, List.cons_append]
    exact Token.scan_remark_word first second third (ends rest behind) column
  rw [isComment, Bool.or_eq_true, Bool.or_eq_true, beq_iff_eq] at comment
  rcases comment with (apostrophe | whole) | opening
  · obtain ⟨rest, split⟩ := List.isPrefixOf_iff_prefix.mp apostrophe
    rw [← split, List.cons_append, List.nil_append, List.cons_append] at unbroken ⊢
    exact Token.scan_comment column fun inside => unbroken (List.mem_cons_of_mem _ inside)
  · refine word [] whole fun rest nothing => ?_
    rw [eq_nil_of_upper nothing, List.nil_append]
    cases right with
    | nil => exact fun c absent => absurd absent (by simp)
    | cons c others => exact Token.ends_name_of_space (blank c List.mem_cons_self) others
  · obtain ⟨more, split⟩ := List.isPrefixOf_iff_prefix.mp opening
    refine word (' ' :: more) split.symm fun rest shown => ?_
    obtain ⟨c, others, rfl, form, -⟩ := cons_of_upper (by decide) shown
    obtain rfl : c = ' ' := by
      -- the character 32 places behind the space is no small letter
      refine form.resolve_right fun small => ?_
      have code : c.toNat = 64 := small.2
      omega
    exact Token.ends_name_of_space (by decide) _

/-- A line that is no code is blank up to where the tokens end. -/
theorem blank_of_not_code {line : SourceLine} (unbroken : '\n' ∉ line.text)
    (noCode : line.isCode = false) :
    ∃ left behind, Blank left ∧ line.text = left ++ behind ∧
      ∀ column, Token.scan column behind = some [] := by
  obtain ⟨left, right, blankLeft, blankRight, split⟩ := trim_split line.text
  rw [List.append_assoc, ← trimmed] at split
  rw [isCode, Bool.and_eq_false_iff, Bool.not_eq_false', Bool.not_eq_false'] at noCode
  rcases noCode with empty | comment
  · rw [isBlank, List.isEmpty_iff] at empty
    rw [empty, List.nil_append] at split
    refine ⟨line.text, [], ?_, (List.append_nil _).symm, fun column => by rw [Token.scan]⟩
    rw [split, blank_append]
    exact ⟨blankLeft, blankRight⟩
  · refine ⟨left, line.trimmed ++ right, blankLeft, split, fun column => ?_⟩
    refine scan_comment_line comment blankRight (fun inside => unbroken ?_) column
    rw [split]
    exact List.mem_append_right left inside

theorem tokens_of_not_code {line : SourceLine} (unbroken : '\n' ∉ line.text)
    (noCode : line.isCode = false) : ∀ token ∈ Token.ofLine line.text, token.kind = .other := by
  obtain ⟨left, behind, blank, split, silent⟩ := line.blank_of_not_code unbroken noCode
  have clean : '\n' ∉ left := fun inside =>
    unbroken (split ▸ List.mem_append_left behind inside)
  obtain ⟨blanks, other, scanned⟩ := Token.scan_blanks blank clean 1 behind
  rw [silent, Option.map_some, List.append_nil, ← split] at scanned
  rw [Token.ofLine, Token.ofText?, scanned]
  exact other

end SourceLine
end BasicBench
