import BasicBench.Instrument.Issue
import BasicBench.Proofs.Outside
import Mathlib.Data.List.Induction

/-!
The words that show that a program draws. Such a word counts where it stands as a name: neither a
word character nor a `$` right before it, and no word character right behind it. A name lies within
one line and between breaks, so what is put between breaks brings in only the names it holds itself.
-/

set_option autoImplicit false

namespace BasicBench.Text

open Pattern

/-- A character right behind which no name begins. -/
def joinsName (c : Char) : Bool := isWordChar c || c == '$'

/-- Letters that can stand as a name. -/
structure IsName (word : Text) : Prop where
  nonempty : word ≠ []
  letters : word.all isWordChar = true

/-- The text holds the word as a name. `before` is the character before the text. -/
def Names (word : Text) (before : Option Char) (text : Text) : Prop :=
  ∃ above piece rest, text = above ++ (piece ++ rest) ∧
    (lastOf before above).any joinsName = false ∧ SameText word piece ∧
    rest.head?.any isWordChar = false

section

variable {word : Text} {before : Option Char}

theorem names_behind {left right : Text} (names : Names word (lastOf before left) right) :
    Names word before (left ++ right) := by
  rcases names with ⟨above, piece, rest, rfl, front, same, stop⟩
  refine ⟨left ++ above, piece, rest, by simp, ?_, same, stop⟩
  rwa [last_of_append]

theorem names_before_congr {other : Option Char} (same : before.any joinsName = other.any joinsName)
    {text : Text} (names : Names word before text) : Names word other text := by
  rcases names with ⟨above, piece, rest, split, front, spelled, stop⟩
  refine ⟨above, piece, rest, split, ?_, spelled, stop⟩
  cases above using List.reverseRecOn with
  | nil => exact same ▸ front
  | append_singleton above c _ =>
      rw [last_of_append, last_of_cons, last_of_nil] at front ⊢
      exact front

variable (name : IsName word)
include name

/-- A text that begins with a break holds the same names whatever stands before it. -/
theorem names_head_congr {other : Option Char} {text : Text}
    (head : text.head?.any isWordChar = false) (names : Names word before text) :
    Names word other text := by
  rcases names with ⟨above, piece, rest, rfl, front, same, stop⟩
  cases above with
  | nil =>
      cases same with
      | nil => exact absurd rfl name.nonempty
      | cons letter others =>
          have first := name.letters
          rw [List.all_cons, Bool.and_eq_true, word_char_of_same_letter letter] at first
          exact absurd (first.1.symm.trans head) (by decide)
  | cons c above => exact ⟨c :: above, piece, rest, rfl, front, same, stop⟩

/-- No name goes across a break. -/
theorem names_break {c : Char} (breaks : isWordChar c = false) (left right : Text) :
    Names word before (left ++ c :: right) ↔
      Names word before left ∨ Names word (some c) right := by
  constructor
  · rintro ⟨above, piece, rest, split, front, same, stop⟩
    have letters := Instrument.spelled_letters name.letters same
    rcases List.append_eq_append_iff.mp split with ⟨middle, rfl, behind⟩ | ⟨middle, rfl, behind⟩
    · cases middle with
      | nil =>
          rw [List.nil_append] at behind
          cases same with
          | nil => exact absurd rfl name.nonempty
          | cons letter others =>
              rw [List.cons_append] at behind
              rw [(List.cons.inj behind).1] at breaks
              exact absurd ((letters _ List.mem_cons_self).symm.trans breaks) (by decide)
      | cons d middle =>
          rw [List.cons_append] at behind
          have inner := (List.cons.inj behind).2
          refine .inr ⟨middle, piece, rest, inner, ?_, same, stop⟩
          rwa [last_of_append, last_of_cons, ← (List.cons.inj behind).1] at front
    · rcases List.append_eq_append_iff.mp behind with ⟨gap, rfl, later⟩ | ⟨gap, rfl, later⟩
      · refine .inl ⟨above, piece, gap, rfl, front, same, ?_⟩
        rw [later] at stop
        cases gap with
        | nil => rfl
        | cons d gap => exact stop
      · cases gap with
        | nil =>
            refine .inl ⟨above, middle, [], by simp, front, by simpa using same, rfl⟩
        | cons d gap =>
            rw [List.cons_append] at later
            rw [(List.cons.inj later).1] at breaks
            have letter := letters d (by simp)
            exact absurd (letter.symm.trans breaks) (by decide)
  · rintro (⟨above, piece, rest, rfl, front, same, stop⟩ | behind)
    · refine ⟨above, piece, rest ++ c :: right, by simp, front, same, ?_⟩
      cases rest with
      | nil => exact breaks
      | cons d rest => exact stop
    · have inner : Names word (lastOf before left) ([c] ++ right) := names_behind behind
      exact names_behind inner

/-- A text without a run that spells the word does not hold it as a name. -/
theorem not_names_of_lacks {text : Text} (lacks : lacksWord word [] text = true) :
    ¬Names word before text := by
  rintro ⟨above, piece, rest, rfl, front, same, stop⟩
  have whole : lacksWord word [] (piece ++ rest) = true := by
    cases above using List.reverseRecOn with
    | nil => exact lacks
    | append_singleton above c _ =>
        rw [last_of_append, last_of_cons, last_of_nil, Option.any_some, joinsName,
          Bool.or_eq_false_iff] at front
        rw [List.append_assoc, List.singleton_append] at lacks
        exact (lacks_word_behind front.1 lacks).2
  rw [lacks_word_append [] piece rest name.nonempty stop, Bool.and_eq_true] at whole
  have alone := lacks_word_letters word [] piece [] (Instrument.spelled_letters name.letters same)
  rw [List.append_nil, List.nil_append, lacks_word_nil, (spells_iff word piece).mpr same] at alone
  exact absurd (alone.symm.trans whole.1) (by decide)

theorem names_blanks {left : Text} (blank : Blank left) (right : Text)
    (front : before.any joinsName = false) :
    Names word before (left ++ right) ↔ Names word before right := by
  induction left generalizing before with
  | nil => rfl
  | cons c left induction =>
      have space := blank c List.mem_cons_self
      have breaks := not_word_char_of_space c space
      have joins : (some c).any joinsName = false := by
        rw [Option.any_some, joinsName, breaks, Bool.false_or, beq_eq_false_iff_ne]
        rintro rfl
        exact absurd space (by decide)
      have empty : ¬Names word before [] := not_names_of_lacks name (by
        rw [lacks_word_nil]
        cases word with
        | nil => exact absurd rfl name.nonempty
        | cons => rfl)
      rw [List.cons_append, ← List.nil_append (c :: (left ++ right)), names_break name breaks,
        or_iff_right empty, induction (fun d member => blank d (List.mem_cons_of_mem c member)) joins]
      exact ⟨names_before_congr (joins.trans front.symm), names_before_congr (front.trans joins.symm)⟩

theorem not_names_nil : ¬Names word before [] := by
  apply not_names_of_lacks name
  cases word with
  | nil => exact absurd rfl name.nonempty
  | cons => rfl

theorem names_line_end {c : Char} (ends : isLineEnd c = true) (left right : Text) :
    Names word before (left ++ c :: right) ↔ Names word before left ∨ Names word none right := by
  have breaks := not_word_char_of_space c (isSpace_of_isLineEnd c ends)
  have joins : (some c).any joinsName = none.any joinsName := by
    rw [Option.any_some, joinsName, breaks, Bool.false_or, Option.any_none, beq_eq_false_iff_ne]
    rintro rfl
    exact absurd ends (by decide)
  rw [names_break name breaks]
  exact or_congr_right ⟨names_before_congr joins, names_before_congr joins.symm⟩

/-- A name stands in one of the lines, the first of which may have begun before the text. -/
theorem names_split_lines (left text : Text) :
    Names word before (left ++ text) ↔
      Names word before (left ++ (splitLines text).headD []) ∨
        ∃ line ∈ (splitLines text).tail, Names word none line := by
  -- Behind a line end the first line begins anew.
  have fresh : ∀ rest : Text, Names word none ((splitLines rest).headD []) ∨
      (∃ line ∈ (splitLines rest).tail, Names word none line) ↔
        ∃ line ∈ splitLines rest, Names word none line := by
    intro rest
    cases splitLines rest with
    | nil => simp [not_names_nil name]
    | cons line others => simp
  fun_induction splitLines text generalizing before left with
  | case1 => simp
  | case2 rest induction =>
      have feed : Names word none ('\n' :: rest) ↔ Names word none rest := by
        rw [← List.nil_append ('\n' :: rest), names_line_end name (by decide),
          or_iff_right (not_names_nil name)]
      have later : Names word none rest ↔ ∃ line ∈ splitLines rest, Names word none line :=
        (induction []).trans (fresh rest)
      rw [names_line_end name (by decide), feed, later, List.headD_cons, List.append_nil,
        List.tail_cons]
  | case3 c rest _ ends induction =>
      have later : Names word none rest ↔ ∃ line ∈ splitLines rest, Names word none line :=
        (induction []).trans (fresh rest)
      rw [names_line_end name ends, later, List.headD_cons, List.append_nil, List.tail_cons]
  | case4 c rest _ plain empty induction =>
      simpa [empty] using induction (left ++ [c])
  | case5 c rest _ plain line lines split induction =>
      simpa [split] using induction (left ++ [c])

end

end BasicBench.Text

namespace BasicBench.Instrument

open Text Pattern

/-- The name of the tracked request has no other name in it. -/
theorem not_names_request {word : Text} (name : IsName word)
    (other : spells word "ResourceManager_GetFileHandle".toList = false) (before : Option Char) :
    ¬Names word before "ResourceManager_GetFileHandle".toList := by
  apply not_names_of_lacks name
  have letters := lacks_word_letters word [] "ResourceManager_GetFileHandle".toList []
    (List.all_eq_true.mp (by decide))
  rw [List.append_nil, List.nil_append, lacks_word_nil, other] at letters
  exact letters

/-- No name ends where a request begins, since there is a break or nothing in front of it. -/
theorem not_names_before_request {word : Text} (name : IsName word)
    (other : spells word "ResourceManager_GetFileHandle".toList = false)
    {left right : Option Char} {run text : Text}
    (front : (lastOf left run).any isWordChar = false)
    (start : left = right ∨ (run ++ text).head?.any isWordChar = false)
    (none : ¬Names word left (run ++ text)) :
    ¬Names word right (run ++ "ResourceManager_GetFileHandle".toList) := by
  cases run using List.reverseRecOn with
  | nil => exact not_names_request name other right
  | append_singleton run c _ =>
      have breaks : isWordChar c = false := by
        rwa [last_of_append, last_of_cons, last_of_nil] at front
      rw [List.append_assoc, List.singleton_append] at none start ⊢
      rw [names_break name breaks, not_or] at none ⊢
      refine ⟨?_, not_names_request name other _⟩
      intro names
      rcases start with rfl | head
      · exact none.1 names
      · cases run with
        | nil => exact not_names_nil name names
        | cons d run => exact none.1 (names_head_congr name head names)

/-- Where every request for a file number is tracked, no name comes in. A name that is not in the
line could only begin behind a break that the edit makes, or end before one. -/
theorem not_names_tracked {word : Text} (name : IsName word)
    (other : spells word "ResourceManager_GetFileHandle".toList = false) {line : Text}
    (none : ¬Names word none line) : ¬Names word .none (Edit.freefile.apply line) := by
  suffices general : ∀ before out,
      (keyword "FREEFILE").Rewrites Edit.freefile.write before line out →
      ∀ (left right : Option Char) (run : Text), before = lastOf left run →
        (left = right ∨ (run ++ line).head?.any isWordChar = false) →
        ¬Names word left (run ++ line) → ¬Names word right (run ++ out) from
    general .none _ (Edit.freefile.rewrites line) .none .none [] rfl (.inl rfl) none
  clear none
  intro before out rewrites
  induction rewrites with
  | done before =>
      intro left right run _ start none names
      rcases start with rfl | head
      · exact none names
      · exact none (names_head_congr name head names)
  | keep before c rest out _ _ induction =>
      intro left right run place start none
      have whole : run ++ c :: rest = (run ++ [c]) ++ rest := by simp
      have wrote : run ++ c :: out = (run ++ [c]) ++ out := by simp
      rw [whole] at start none
      rw [wrote]
      exact induction left right (run ++ [c]) (by simp) start none
  | swap before piece rest out found _ reads _ induction =>
      intro left right run place start none
      rcases takes_freefile ⟨_, reads⟩ with ⟨front, -, behind⟩
      rw [place] at front
      have call : Edit.freefile.write found =
          "ResourceManager_GetFileHandle".toList ++ ['%'] := by
        change "ResourceManager_GetFileHandle%".toList = _
        decide
      rw [call, List.append_assoc, List.singleton_append, ← List.append_assoc,
        names_break name (by decide), not_or]
      constructor
      · exact not_names_before_request name other front start none
      · have rested : ¬Names word (lastOf before piece) rest := by
          rw [place, ← last_of_append]
          intro names
          rw [← List.append_assoc] at none
          exact none (names_behind names)
        exact induction (lastOf before piece) (some '%') [] rfl (.inr behind) rested

theorem takes_any_of (patterns : List Pattern) (before : Option Char) (piece rest : Text) :
    (anyOf patterns).Takes before piece rest ↔
      ∃ pattern ∈ patterns, pattern.Takes before piece rest := by
  fun_induction anyOf patterns with
  | case1 => simp
  | case2 last => simp
  | case3 first others _ induction => simp [induction]

/-- The words of a program that draws, as their letters. -/
def drawingWords : List Text := [
  ['S', 'C', 'R', 'E', 'E', 'N'], ['C', 'I', 'R', 'C', 'L', 'E'], ['L', 'I', 'N', 'E'],
  ['P', 'S', 'E', 'T'], ['P', 'O', 'I', 'N', 'T'], ['P', 'A', 'I', 'N', 'T'], ['P', 'U', 'T'],
  ['G', 'E', 'T'], ['_', 'N', 'E', 'W', 'I', 'M', 'A', 'G', 'E'],
  ['_', 'P', 'U', 'T', 'I', 'M', 'A', 'G', 'E'], ['_', 'L', 'O', 'A', 'D', 'I', 'M', 'A', 'G', 'E']]

theorem letters_of_keywords : graphicsKeywords.map (·.toList) = drawingWords := by decide

theorem drawing_word_name {word : Text} (listed : word ∈ drawingWords) : IsName word := by
  have all : drawingWords.all (fun word => !word.isEmpty && word.all isWordChar) = true := by decide
  have here := List.all_eq_true.mp all word listed
  rw [Bool.and_eq_true, Bool.not_eq_true', List.isEmpty_eq_false_iff] at here
  exact ⟨here.1, here.2⟩

/-- A text shows drawing where it holds one of the words as a name. -/
theorem graphics_word_iff (text : Text) :
    graphicsWord.occursIn text = true ↔ ∃ word ∈ drawingWords, Names word none text := by
  have edge : ∀ word ∈ drawingWords, ∀ (before : Option Char) (piece rest : Text),
      SameText word piece →
        ((lastOf before piece).any isWordChar ≠ rest.head?.any isWordChar ↔
          rest.head?.any isWordChar = false) := by
    intro word listed before piece rest same
    have name := drawing_word_name listed
    exact edge_behind_letters name.letters name.nonempty same before rest
  rw [occurs_in_iff, ← letters_of_keywords]
  rw [← letters_of_keywords] at edge
  simp only [graphicsWord, takes_append, takes_not_after, takes_capture, takes_word_edge,
    takes_any_of, List.mem_map]
  constructor
  · rintro ⟨above, _, rest, rfl, _, _, rfl, ⟨_, piece, rfl, ⟨rfl, front⟩, _, ⟨word, listed, rfl⟩,
      taken⟩, rfl, stop⟩
    have same := (takes_any_case ..).mp taken
    rw [List.append_nil, List.nil_append]
    exact ⟨word.toList, ⟨word, listed, rfl⟩, above, piece, rest, rfl, front, same,
      (edge _ (List.mem_map_of_mem listed) _ piece rest same).mp stop⟩
  · rintro ⟨_, ⟨word, listed, rfl⟩, above, piece, rest, rfl, front, same, stop⟩
    refine ⟨above, piece, rest, rfl, piece, [], by simp, ⟨[], piece, rfl, ⟨rfl, front⟩, _,
      ⟨word, listed, rfl⟩, (takes_any_case ..).mpr same⟩, rfl, ?_⟩
    exact (edge _ (List.mem_map_of_mem listed) _ piece rest same).mpr stop

end BasicBench.Instrument
