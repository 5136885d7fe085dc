import BasicBench.Proofs.Characters
import BasicBench.Proofs.Reading

/-!
Patterns that cannot tell two continuations of a line apart. `StopsShort` says that a pattern
never reads into what stands behind a certain place and reads the same in front of it when
something else stands there. The property passes through every way of building patterns, so a
pattern made of keywords and blanks has it as soon as no keyword can run over the place, which
is a finite comparison of letters. The patterns that recognise a statement by its first words
therefore do not notice that a call further on is exchanged for another.
-/

set_option autoImplicit false

namespace BasicBench.Text.Pattern

/-- When `fresh`, the place does not directly follow a word character. -/
def Follows (fresh : Bool) (before : Option Char) : Prop :=
  fresh = true → before.any isWordChar = false

/-- No piece that is taken in front of `old` reaches into it, and each is taken in front of
`new` just as well. -/
def StopsShort (pattern : Pattern) (fresh : Bool) (old new : Text) : Prop :=
  ∀ before kept piece rest, Follows fresh (lastOf before kept) → kept ++ old = piece ++ rest →
    pattern.Takes before piece rest →
      ∃ between, kept = piece ++ between ∧ rest = between ++ old ∧
        pattern.Takes before piece (between ++ new)

/-- A text that begins with a letter or an underscore. -/
def NameHead (text : Text) : Prop := ∃ c more, text = c :: more ∧ Token.isNameStart c = true

/-- A text that begins with a word in some mixture of cases. -/
def Opens (word text : Text) : Prop := ∃ form more, text = form ++ more ∧ SameText word form

/-- Whether two words agree as far as both go. -/
def compatible : Text → Text → Bool
  | a :: left, b :: right => sameLetter a b && compatible left right
  | _, _ => true

/-- Whether no end of `word` agrees with `key`. An end that follows a word character does not
count when the place is fresh. -/
def keepsApart (fresh : Bool) (key : Text) (before : Option Char) : Text → Bool
  | [] => true
  | c :: rest =>
      (fresh && before.any isWordChar || !compatible (c :: rest) key) &&
        keepsApart fresh key (some c) rest

variable {fresh : Bool} {old new : Text}

theorem stops_short_append {first second : Pattern} (left : first.StopsShort fresh old new)
    (right : second.StopsShort fresh old new) : (first ++ second).StopsShort fresh old new := by
  intro before kept piece rest follows split taken
  obtain ⟨head, tail, rfl, takesHead, takesTail⟩ := (takes_append ..).mp taken
  rw [List.append_assoc] at split
  obtain ⟨middle, rfl, split', takesHead'⟩ := left before kept head _ follows split takesHead
  rw [last_of_append] at follows
  obtain ⟨between, rfl, rfl, takesTail'⟩ :=
    right (lastOf before head) middle tail rest follows split'.symm takesTail
  refine ⟨between, by simp, rfl, (takes_append ..).mpr ⟨head, tail, rfl, ?_, takesTail'⟩⟩
  simpa using takesHead'

theorem stops_short_or {first second : Pattern} (left : first.StopsShort fresh old new)
    (right : second.StopsShort fresh old new) : (first ||| second).StopsShort fresh old new := by
  intro before kept piece rest follows split taken
  rcases (takes_or ..).mp taken with taken | taken
  · obtain ⟨between, rfl, rfl, moved⟩ := left before kept piece rest follows split taken
    exact ⟨between, rfl, rfl, (takes_or ..).mpr (.inl moved)⟩
  · obtain ⟨between, rfl, rfl, moved⟩ := right before kept piece rest follows split taken
    exact ⟨between, rfl, rfl, (takes_or ..).mpr (.inr moved)⟩

theorem stops_short_capture {inner : Pattern} (index : Nat)
    (stops : inner.StopsShort fresh old new) :
    (capture index inner).StopsShort fresh old new := by
  intro before kept piece rest follows split taken
  obtain ⟨between, rfl, rfl, moved⟩ :=
    stops before kept piece rest follows split ((takes_capture ..).mp taken)
  exact ⟨between, rfl, rfl, (takes_capture ..).mpr moved⟩

/-- A pattern that takes nothing stops short when its condition ignores the change. -/
theorem stops_short_of_zero_width {pattern : Pattern}
    (empty : ∀ before piece rest, pattern.Takes before piece rest → piece = [])
    (same : ∀ before kept, Follows fresh (lastOf before kept) →
      pattern.Takes before [] (kept ++ old) → pattern.Takes before [] (kept ++ new)) :
    pattern.StopsShort fresh old new := by
  intro before kept piece rest follows split taken
  obtain rfl := empty _ _ _ taken
  obtain rfl : kept ++ old = rest := split
  exact ⟨kept, rfl, rfl, same before kept follows taken⟩

theorem stops_short_text_start : textStart.StopsShort fresh old new :=
  stops_short_of_zero_width (by simp +contextual) (by simp)

theorem stops_short_here : here.StopsShort fresh old new :=
  stops_short_of_zero_width (by simp +contextual) (by simp)

theorem stops_short_text_end (oldHead : NameHead old) : textEnd.StopsShort fresh old new := by
  refine stops_short_of_zero_width (by simp +contextual) ?_
  rintro before kept - taken
  obtain ⟨c, more, rfl, start⟩ := oldHead
  rw [takes_text_end] at taken
  rcases taken.2 with nothing | newline
  · simp at nothing
  · have feed : c = '\n' := by cases kept <;> simp_all
    rw [feed] at start
    exact absurd start (by decide)

theorem word_char_of_name_start (c : Char) (start : Token.isNameStart c = true) :
    isWordChar c = true := by
  simp only [Token.isNameStart, Bool.or_eq_true, beq_iff_eq] at start
  rcases start with letter | rfl
  · have small : c.toNat < 128 := by
      simp only [isLetter, Bool.or_eq_true, Bool.and_eq_true, decide_eq_true_eq] at letter
      omega
    simp [isWordChar, isAlphanumeric, small, letter]
  · decide

theorem stops_short_word_edge (oldHead : NameHead old) (newHead : NameHead new) :
    wordEdge.StopsShort fresh old new := by
  refine stops_short_of_zero_width (by simp +contextual) ?_
  rintro before kept - taken
  obtain ⟨c, more, rfl, start⟩ := oldHead
  obtain ⟨d, others, rfl, start'⟩ := newHead
  rw [takes_word_edge] at taken ⊢
  cases kept with
  | nil => simpa [word_char_of_name_start, start, start'] using taken
  | cons e kept => exact taken

/-- Characters of a kind that neither continuation begins with are taken in front of it only. -/
theorem stops_short_many {accepts : Char → Bool}
    (refused : ∀ c, Token.isNameStart c = true → accepts c = false) (oldHead : NameHead old) :
    (many accepts).StopsShort fresh old new := by
  rintro before kept piece rest - split taken
  obtain ⟨c, more, rfl, start⟩ := oldHead
  rw [takes_many] at taken
  rcases List.append_eq_append_iff.mp split with ⟨extra, rfl, split'⟩ | ⟨between, rfl, rfl⟩
  · cases extra with
    | nil => exact ⟨[], by simp, by simpa using split'.symm, by simpa using taken⟩
    | cons d extra =>
        obtain ⟨rfl, -⟩ := List.cons.inj split'
        have accepted := taken c (by simp)
        rw [refused c start] at accepted
        exact absurd accepted (by decide)
  · exact ⟨between, rfl, rfl, by simpa using taken⟩

theorem stops_short_one {accepts : Char → Bool}
    (refused : ∀ c, Token.isNameStart c = true → accepts c = false) (oldHead : NameHead old) :
    (one accepts).StopsShort fresh old new := by
  rintro before kept piece rest - split taken
  obtain ⟨c, more, rfl, start⟩ := oldHead
  obtain ⟨d, accepted, rfl⟩ := (takes_one ..).mp taken
  cases kept with
  | nil =>
      obtain ⟨rfl, -⟩ := List.cons.inj split
      rw [refused c start] at accepted
      exact absurd accepted (by decide)
  | cons e kept =>
      rw [List.cons_append, List.singleton_append, List.cons.injEq] at split
      obtain ⟨rfl, rfl⟩ := split
      exact ⟨kept, rfl, rfl, (takes_one ..).mpr ⟨e, accepted, rfl⟩⟩

theorem stops_short_many1 {accepts : Char → Bool}
    (refused : ∀ c, Token.isNameStart c = true → accepts c = false) (oldHead : NameHead old) :
    (many1 accepts).StopsShort fresh old new :=
  stops_short_append (stops_short_one refused oldHead) (stops_short_many refused oldHead)

theorem not_space_of_name_start (c : Char) (start : Token.isNameStart c = true) :
    isSpace c = false :=
  not_space_of_word_char c (word_char_of_name_start c start)

theorem stops_short_blanks (oldHead : NameHead old) : blanks.StopsShort fresh old new :=
  stops_short_many not_space_of_name_start oldHead

theorem stops_short_blanks1 (oldHead : NameHead old) : blanks1.StopsShort fresh old new :=
  stops_short_many1 not_space_of_name_start oldHead

/-! Keywords. -/

theorem same_text_refl (word : Text) : SameText word word := by
  induction word with
  | nil => exact .nil
  | cons c word induction => exact .cons (same_letter_refl c) induction

theorem opens_append (word more : Text) : Opens word (word ++ more) :=
  ⟨word, more, rfl, same_text_refl word⟩

theorem compatible_of_common_start {word key : Text} {piece form rest more : Text}
    (wordForm : SameText word piece) (keyForm : SameText key form)
    (common : piece ++ rest = form ++ more) : compatible word key = true := by
  induction wordForm generalizing key form with
  | nil => cases key <;> rfl
  | cons letter others induction =>
      cases keyForm with
      | nil => rfl
      | cons keyLetter keyOthers =>
          rw [List.cons_append, List.cons_append, List.cons.injEq] at common
          obtain ⟨rfl, common⟩ := common
          simp only [compatible, Bool.and_eq_true]
          exact ⟨same_letter_trans letter (same_letter_symm keyLetter), induction keyOthers common⟩

theorem keeps_apart_split {key left right : Text} {before : Option Char}
    (apart : keepsApart fresh key before (left ++ right) = true) (nonempty : right ≠ []) :
    (fresh = true ∧ (lastOf before left).any isWordChar = true) ∨
      compatible right key = false := by
  induction left generalizing before with
  | nil =>
      cases right with
      | nil => exact absurd rfl nonempty
      | cons c right =>
          simp only [List.nil_append, keepsApart, Bool.and_eq_true, Bool.or_eq_true,
            Bool.not_eq_true'] at apart
          exact apart.1
  | cons c left induction =>
      simp only [List.cons_append, keepsApart, Bool.and_eq_true] at apart
      rw [last_of_cons]
      exact induction apart.2

theorem same_text_last {word piece : Text} (same : SameText word piece) (before : Option Char) :
    (lastOf before word).any isWordChar = (lastOf before piece).any isWordChar := by
  induction same generalizing before with
  | nil => rfl
  | cons letter others induction =>
      rw [last_of_cons, last_of_cons]
      cases others with
      | nil => simpa using word_char_of_same_letter letter
      | cons next others => simpa using induction none

/-- A keyword none of whose ends agrees with the beginning of a continuation stops short of it. -/
theorem stops_short_word {pattern : Pattern} (word : Text) {key : Text}
    (form : ∀ before piece rest, pattern.Takes before piece rest → SameText word piece)
    (anywhere : ∀ before piece rest rest', pattern.Takes before piece rest →
      pattern.Takes before piece rest')
    (opens : Opens key old) (apart : keepsApart fresh key none word = true) :
    pattern.StopsShort fresh old new := by
  intro before kept piece rest follows split taken
  have same := form _ _ _ taken
  rcases List.append_eq_append_iff.mp split with ⟨extra, rfl, split'⟩ | ⟨between, rfl, rfl⟩
  · obtain ⟨left, right, rfl, sameLeft, sameRight⟩ :
        ∃ left right, word = left ++ right ∧ SameText left kept ∧ SameText right extra :=
      ⟨_, _, (List.take_append_drop kept.length word).symm,
        by simpa using List.forall₂_take kept.length same,
        by simpa using List.forall₂_drop kept.length same⟩
    cases extra with
    | nil =>
        refine ⟨[], by simp, by simpa using split'.symm, ?_⟩
        exact anywhere _ _ _ _ (by simpa using taken)
    | cons d extra =>
        exfalso
        obtain ⟨keyForm, more, rfl, sameKey⟩ := opens
        have nonempty : right ≠ [] := by rintro rfl; cases sameRight
        rcases keeps_apart_split apart nonempty with ⟨isFresh, word⟩ | clash
        · have seen := follows isFresh
          cases kept with
          | nil => cases sameLeft; simp at word
          | cons e kept =>
              cases sameLeft with
              | cons letter others =>
                  rw [same_text_last (.cons letter others)] at word
                  rw [last_of_cons] at seen word
                  rw [seen] at word
                  exact absurd word (by decide)
        · rw [compatible_of_common_start sameRight sameKey split'.symm] at clash
          exact absurd clash (by decide)
  · exact ⟨between, rfl, rfl, anywhere _ _ _ _ taken⟩

theorem stops_short_any_case (word : String) {key : Text} (opens : Opens key old)
    (apart : keepsApart fresh key none word.toList = true) :
    (anyCase word).StopsShort fresh old new :=
  stops_short_word word.toList (by simp) (by simp) opens apart

theorem stops_short_exactly (word : String) {key : Text} (opens : Opens key old)
    (apart : keepsApart fresh key none word.toList = true) :
    (exactly word).StopsShort fresh old new :=
  stops_short_word word.toList
    (fun _ _ _ taken => (takes_exactly ..).mp taken ▸ same_text_refl word.toList) (by simp)
    opens apart

/-! Whole lines. -/

theorem starts_text_of_stops_short {pattern : Pattern} (stops : pattern.StopsShort fresh old new)
    (kept : Text) (follows : Follows fresh (lastOf none kept))
    (starts : pattern.startsText (kept ++ old) = true) :
    pattern.startsText (kept ++ new) = true := by
  obtain ⟨piece, rest, split, taken⟩ := (starts_text_iff ..).mp starts
  obtain ⟨between, rfl, -, taken⟩ := stops none kept piece rest follows split taken
  exact (starts_text_iff ..).mpr ⟨piece, between ++ new, by simp, taken⟩

theorem starts_text_congr {pattern : Pattern} (away : pattern.StopsShort fresh old new)
    (back : pattern.StopsShort fresh new old) (kept : Text)
    (follows : Follows fresh (lastOf none kept)) :
    pattern.startsText (kept ++ old) = pattern.startsText (kept ++ new) := by
  rw [Bool.eq_iff_iff]
  exact ⟨starts_text_of_stops_short away kept follows,
    starts_text_of_stops_short back kept follows⟩

end BasicBench.Text.Pattern
