import BasicBench.Proofs.Exchange

/-!
The maximal runs of word characters in a line. A keyword with no word character on either side is
such a run, so a line without a run that spells the keyword does not contain it. The edits of a
line put in only words of their own and words that were whole words before.
-/

set_option autoImplicit false

namespace BasicBench.Text

/-- Whether a text is a word in some mixture of cases. -/
def spells : Text → Text → Bool
  | [], [] => true
  | letter :: word, c :: text => sameLetter letter c && spells word text
  | _, _ => false

theorem spells_iff (word text : Text) : spells word text = true ↔ Pattern.SameText word text := by
  induction word generalizing text with
  | nil => cases text <;> simp [spells]
  | cons letter word induction =>
      cases text with
      | nil => simp [spells]
      | cons c text => simp [spells, induction]

/-- No run of word characters spells the word. `run` is the part of the run before the text. -/
def lacksWord (word run : Text) : Text → Bool
  | [] => !spells word run
  | c :: rest =>
      if isWordChar c then lacksWord word (run ++ [c]) rest
      else !spells word run && lacksWord word [] rest

section

variable (word : Text)

theorem lacks_word_nil (run : Text) : lacksWord word run [] = !spells word run := rfl

theorem lacks_word_letter {c : Char} (letter : isWordChar c = true) (run rest : Text) :
    lacksWord word run (c :: rest) = lacksWord word (run ++ [c]) rest := by
  rw [lacksWord, if_pos letter]

theorem lacks_word_break {c : Char} (other : isWordChar c = false) (run rest : Text) :
    lacksWord word run (c :: rest) = (!spells word run && lacksWord word [] rest) := by
  rw [lacksWord, other]
  rfl

/-- A character outside words separates runs. -/
theorem lacks_word_append_break {c : Char} (other : isWordChar c = false) (run left right : Text) :
    lacksWord word run (left ++ c :: right) =
      (lacksWord word run left && lacksWord word [] right) := by
  induction left generalizing run with
  | nil => rw [List.nil_append, lacks_word_break word other, lacks_word_nil]
  | cons d left induction =>
      cases letter : isWordChar d with
      | true => rw [List.cons_append, lacks_word_letter word letter, lacks_word_letter word letter,
          induction]
      | false => rw [List.cons_append, lacks_word_break word letter, lacks_word_break word letter,
          induction, Bool.and_assoc]

theorem lacks_word_letters (run left rest : Text) (letters : ∀ c ∈ left, isWordChar c = true) :
    lacksWord word run (left ++ rest) = lacksWord word (run ++ left) rest := by
  induction left generalizing run with
  | nil => rw [List.nil_append, List.append_nil]
  | cons c left induction =>
      rw [List.cons_append, lacks_word_letter word (letters c (by simp)),
        induction _ fun d member => letters d (by simp [member]), List.append_assoc,
        List.singleton_append]

variable {word}

/-- Where no word character follows, the runs on both sides are runs of the whole. -/
theorem lacks_word_append (run left right : Text) (nonempty : word ≠ [])
    (stop : right.head?.any isWordChar = false) :
    lacksWord word run (left ++ right) = (lacksWord word run left && lacksWord word [] right) := by
  have nothing : spells word [] = false := by cases word <;> simp_all [spells]
  cases right with
  | nil => simp [lacks_word_nil, nothing]
  | cons c right =>
      have other : isWordChar c = false := stop
      rw [lacks_word_append_break word other, lacks_word_break word other, nothing]
      simp

theorem lacks_word_blanks (left right : Text) (nonempty : word ≠ []) (blank : Blank left) :
    lacksWord word [] (left ++ right) = lacksWord word [] right := by
  have nothing : spells word [] = false := by cases word <;> simp_all [spells]
  induction left with
  | nil => rfl
  | cons c left induction =>
      rw [List.cons_append, lacks_word_break word (not_word_char_of_space c (blank c (by simp))),
        induction fun d member => blank d (by simp [member]), nothing]
      rfl

/-- Trimming takes no word apart. -/
theorem lacks_word_trim (text : Text) (nonempty : word ≠ []) (lacks : lacksWord word [] text = true) :
    lacksWord word [] (trim text) = true := by
  obtain ⟨left, right, blankLeft, blankRight, split⟩ := trim_split text
  have stop : right.head?.any isWordChar = false := by
    cases right with
    | nil => rfl
    | cons c right => exact not_word_char_of_space c (blankRight c (by simp))
  rw [split, List.append_assoc, lacks_word_blanks left _ nonempty blankLeft,
    lacks_word_append [] _ right nonempty stop, Bool.and_eq_true] at lacks
  exact lacks.1

/-- What lacks the word behind a run lacks it behind a break. -/
theorem lacks_word_behind {c : Char} (other : isWordChar c = false) {run left right : Text}
    (lacks : lacksWord word run (left ++ c :: right) = true) :
    lacksWord word run left = true ∧ lacksWord word [] right = true := by
  rwa [lacks_word_append_break word other, Bool.and_eq_true] at lacks

end

end BasicBench.Text

namespace BasicBench.Instrument

open Text Pattern

/-- The line does not contain the word that asks for a file number. -/
def lacksFreefile (run line : Text) : Bool := lacksWord "FREEFILE".toList run line

theorem freefile_nonempty : "FREEFILE".toList ≠ [] := by decide

theorem not_spells_of_mem {word text : Text} {c : Char} (member : c ∈ text)
    (foreign : word.all (fun letter => !sameLetter letter c) = true) : spells word text = false := by
  cases spelled : spells word text with
  | false => rfl
  | true =>
      have same := (spells_iff word text).mp spelled
      induction same with
      | nil => exact absurd member List.not_mem_nil
      | cons letter others induction =>
          simp only [List.all_cons, Bool.and_eq_true, Bool.not_eq_true'] at foreign
          rcases List.mem_cons.mp member with rfl | later
          · rw [letter] at foreign
            exact absurd foreign.1 (by decide)
          · exact induction later foreign.2 ((spells_iff _ _).mpr others)

/-- A written word that holds a letter which the keyword does not have, with a break behind it. -/
theorem lacks_freefile_word (run : Text) (name : String) (stop c : Char) (rest : Text)
    (letters : name.toList.all isWordChar = true) (held : name.toList.contains c = true)
    (foreign : "FREEFILE".toList.all (fun letter => !sameLetter letter c) = true)
    (breaks : isWordChar stop = false) (lacks : lacksFreefile [] rest = true) :
    lacksFreefile run (name.toList ++ stop :: rest) = true := by
  have member : c ∈ run ++ name.toList :=
    List.mem_append_right _ (by simpa [List.contains_eq_mem] using held)
  rw [lacksFreefile, lacks_word_letters _ _ _ _ (List.all_eq_true.mp letters),
    lacks_word_break _ breaks, not_spells_of_mem member foreign]
  exact lacks

theorem lacks_freefile_break (stop : Char) (left rest : Text) (breaks : isWordChar stop = false)
    (before : lacksFreefile [] left = true) (after : lacksFreefile [] rest = true) :
    lacksFreefile [] (left ++ stop :: rest) = true := by
  rw [lacksFreefile, lacks_word_append_break _ breaks, Bool.and_eq_true]
  exact ⟨before, after⟩

theorem lacks_freefile_trim (text : Text) (lacks : lacksFreefile [] text = true) :
    lacksFreefile [] (trim text) = true :=
  lacks_word_trim text freefile_nonempty lacks

theorem lacks_freefile_blanks {gap rest : Text} (blank : Blank gap) :
    lacksFreefile [] (gap ++ rest) = lacksFreefile [] rest :=
  lacks_word_blanks gap rest freefile_nonempty blank

/-- Arguments between commas and a closing parenthesis. -/
theorem lacks_freefile_argument (argument rest : Text) (lacks : lacksFreefile [] argument = true)
    (after : lacksFreefile [] rest = true) :
    lacksFreefile [] (trim argument ++ (", ".toList ++ rest)) = true := by
  have shape : ", ".toList ++ rest = ',' :: ([' '] ++ rest) := by simp
  rw [shape]
  refine lacks_freefile_break ',' _ _ (by decide) (lacks_freefile_trim argument lacks) ?_
  rw [lacks_freefile_blanks (List.all_eq_true.mp (by decide))]
  exact after

theorem lacks_freefile_image (run width height rest : Text) (first : lacksFreefile [] width = true)
    (second : lacksFreefile [] height = true) (after : lacksFreefile [] rest = true) :
    lacksFreefile run ("GraphicsManager_CreateImage&(".toList ++ trim width ++ ", ".toList ++
      trim height ++ [')'] ++ rest) = true := by
  have shape : "GraphicsManager_CreateImage&(".toList ++ trim width ++ ", ".toList ++ trim height ++
      [')'] ++ rest = "GraphicsManager_CreateImage".toList ++
        '&' :: ([] ++ '(' :: (trim width ++ (", ".toList ++ (trim height ++ ')' :: rest)))) := by
    simp
  rw [shape]
  refine lacks_freefile_word run _ '&' 'G' _ (by decide) (by decide)
    (by decide) (by decide) ?_
  refine lacks_freefile_break '(' [] _ (by decide) (by decide) ?_
  refine lacks_freefile_argument width _ first ?_
  exact lacks_freefile_break ')' _ _ (by decide) (lacks_freefile_trim height second) after

theorem lacks_freefile_point (run x y colour rest : Text) (first : lacksFreefile [] x = true)
    (second : lacksFreefile [] y = true) (third : lacksFreefile [] colour = true)
    (after : lacksFreefile [] rest = true) :
    lacksFreefile run ("CALL GraphicsManager_SafePSET(".toList ++ trim x ++ ", ".toList ++ trim y ++
      ", ".toList ++ trim colour ++ [')'] ++ rest) = true := by
  have shape : "CALL GraphicsManager_SafePSET(".toList ++ trim x ++ ", ".toList ++ trim y ++
      ", ".toList ++ trim colour ++ [')'] ++ rest = "CALL".toList ++
        ' ' :: ("GraphicsManager_SafePSET".toList ++ '(' :: (trim x ++ (", ".toList ++ (trim y ++
          (", ".toList ++ (trim colour ++ ')' :: rest)))))) := by
    simp
  rw [shape]
  refine lacks_freefile_word run _ ' ' 'C' _ (by decide) (by decide)
    (by decide) (by decide) ?_
  refine lacks_freefile_word [] _ '(' 'G' _ (by decide) (by decide)
    (by decide) (by decide) ?_
  refine lacks_freefile_argument x _ first (lacks_freefile_argument y _ second ?_)
  exact lacks_freefile_break ')' _ _ (by decide) (lacks_freefile_trim colour third) after

section Written

variable {before : Option Char} {piece rest out run : Text} {found : Found}

/-- The arguments of the call that is read stand between breaks, and so they do in the new one. -/
theorem lacks_freefile_written_image
    (reads : Edit.image.pattern.Reads before piece rest found.groups)
    (lacks : lacksFreefile run (piece ++ rest) = true)
    (kept : lacksFreefile [] rest = true → lacksFreefile [] out = true) :
    lacksFreefile run (Edit.image.write found ++ out) = true := by
  obtain ⟨name, space, gap₁, width, gap₂, height, gap₃, depth, rfl, -, -, blank₁, blank₂, -,
    groups⟩ := Edit.reads_image _ _ _ _ reads
  simp only [List.append_assoc, List.cons_append, List.nil_append] at lacks
  rw [← List.append_assoc] at lacks
  have inner := (lacks_word_behind (by decide) lacks).2
  rw [← List.append_assoc] at inner
  have atWidth := lacks_word_behind (by decide) inner
  have behindWidth := atWidth.2
  rw [← List.append_assoc] at behindWidth
  have atHeight := lacks_word_behind (by decide) behindWidth
  have behindHeight := atHeight.2
  rw [← List.append_assoc] at behindHeight
  have behind := (lacks_word_behind (by decide) behindHeight).2
  rw [Edit.write_image groups]
  exact lacks_freefile_image run width height out
    ((lacks_freefile_blanks blank₁).symm.trans atWidth.1)
    ((lacks_freefile_blanks blank₂).symm.trans atHeight.1) (kept behind)

theorem lacks_freefile_written_point
    (reads : Edit.point.pattern.Reads before piece rest found.groups)
    (lacks : lacksFreefile run (piece ++ rest) = true)
    (kept : lacksFreefile [] rest = true → lacksFreefile [] out = true) :
    lacksFreefile run (Edit.point.write found ++ out) = true := by
  obtain ⟨name, space, gap₁, x, gap₂, y, gap₃, gap₄, colour, rfl, -, -, blank₁, blank₂, -,
    blank₄, -, stop, groups⟩ := Edit.reads_point _ _ _ _ reads
  simp only [List.append_assoc, List.cons_append, List.nil_append] at lacks
  rw [← List.append_assoc] at lacks
  have inner := (lacks_word_behind (by decide) lacks).2
  rw [← List.append_assoc] at inner
  have atX := lacks_word_behind (by decide) inner
  have behindX := atX.2
  rw [← List.append_assoc] at behindX
  have atY := lacks_word_behind (by decide) behindX
  have behindY := (lacks_word_behind (by decide) atY.2).2
  rw [lacks_word_blanks _ _ freefile_nonempty blank₄,
    lacks_word_append [] _ _ freefile_nonempty stop, Bool.and_eq_true] at behindY
  rw [Edit.write_point groups]
  exact lacks_freefile_point run x y colour out
    ((lacks_freefile_blanks blank₁).symm.trans atX.1)
    ((lacks_freefile_blanks blank₂).symm.trans atY.1) behindY.1 (kept behindY.2)

end Written

/-- An edit of another kind puts no such word in. -/
theorem lacks_freefile_apply (edit : Edit) (other : edit ≠ .freefile) (line : Text)
    (lacks : lacksFreefile [] line = true) : lacksFreefile [] (edit.apply line) = true := by
  suffices general : ∀ before out, edit.pattern.Rewrites edit.write before line out →
      ∀ run, lacksFreefile run line = true → lacksFreefile run out = true from
    general none _ (edit.rewrites line) [] lacks
  clear lacks
  intro before out rewrites
  induction rewrites with
  | done => exact fun _ lacks => lacks
  | keep before c rest out _ _ induction =>
      intro run lacks
      cases letter : isWordChar c with
      | true =>
          rw [lacksFreefile, lacks_word_letter _ letter] at lacks ⊢
          exact induction _ lacks
      | false =>
          rw [lacksFreefile, lacks_word_break _ letter, Bool.and_eq_true] at lacks ⊢
          exact ⟨lacks.1, induction _ lacks.2⟩
  | swap before piece rest out found _ reads _ induction =>
      intro run lacks
      cases edit with
      | freefile => exact absurd rfl other
      | image => exact lacks_freefile_written_image reads lacks (induction [])
      | point => exact lacks_freefile_written_point reads lacks (induction [])

/-! The keyword as a word. -/

theorem takes_freefile {before : Option Char} {piece rest : Text}
    (taken : (keyword "FREEFILE").Takes before piece rest) :
    before.any isWordChar = false ∧ SameText "FREEFILE".toList piece ∧
      rest.head?.any isWordChar = false := by
  simp only [keyword, takes_append, takes_word_edge, takes_any_case] at taken
  obtain ⟨_, _, rfl, ⟨_, form, rfl, ⟨rfl, front⟩, same⟩, rfl, behind⟩ := taken
  have last : ∀ before, lastOf before "FREEFILE".toList = some 'E' := fun before => by simp
  rw [List.nil_append] at behind
  rw [← same_text_last same, last, show (some 'E').any isWordChar = true by decide] at behind
  have split : "FREEFILE".toList = 'F' :: "REEFILE".toList := by decide
  rw [split] at same
  cases same with
  | cons letter others =>
      have word := word_char_of_same_letter letter
      rw [show isWordChar 'F' = true by decide] at word
      refine ⟨by simpa [← word] using front, ?_, by simpa using behind.symm⟩
      rw [List.nil_append, List.append_nil, split]
      exact .cons letter others

/-- The keyword is read wherever its letters stand as a whole word. -/
theorem freefile_taken {before : Option Char} {piece rest : Text}
    (front : before.any isWordChar = false) (same : SameText "FREEFILE".toList piece)
    (behind : rest.head?.any isWordChar = false) :
    (keyword "FREEFILE").Takes before piece rest := by
  have last : ∀ before, lastOf before "FREEFILE".toList = some 'E' := fun before => by simp
  have split : "FREEFILE".toList = 'F' :: "REEFILE".toList := by decide
  have words : isWordChar 'F' = true ∧ (some 'E').any isWordChar = true := by decide
  simp only [keyword, takes_append, takes_word_edge, takes_any_case]
  refine ⟨piece, [], (List.append_nil _).symm, ⟨[], piece, rfl, ⟨rfl, ?_⟩, same⟩, rfl, ?_⟩
  · have head : (piece.head?).any isWordChar = true := by
      rw [split] at same
      cases same with
      | cons letter others => exact (word_char_of_same_letter letter).symm.trans words.1
    cases piece with
    | nil => exact absurd head (by decide)
    | cons c piece => simpa [front] using head
  · rw [← same_text_last same, last, words.2, behind]
    decide

theorem spelled_letters {word text : Text} (letters : word.all isWordChar = true)
    (same : SameText word text) : ∀ c ∈ text, isWordChar c = true := by
  induction same with
  | nil => exact fun c member => absurd member List.not_mem_nil
  | cons letter others induction =>
      rw [List.all_cons, Bool.and_eq_true] at letters
      intro c member
      rcases List.mem_cons.mp member with rfl | later
      · rw [← word_char_of_same_letter letter]
        exact letters.1
      · exact induction letters.2 c later

/-- Right behind a word there is an edge where no word character follows. -/
theorem edge_behind_letters {word text : Text} (letters : word.all isWordChar = true)
    (nonempty : word ≠ []) (same : SameText word text) (before : Option Char) (rest : Text) :
    (lastOf before text).any isWordChar ≠ rest.head?.any isWordChar ↔
      rest.head?.any isWordChar = false := by
  have shown : text ≠ [] := by
    rintro rfl
    exact nonempty (List.forall₂_nil_right_iff.mp same)
  obtain ⟨c, member, last⟩ := last_of_mem before text shown
  rw [last, Option.any_some, spelled_letters letters same c member]
  cases rest.head?.any isWordChar <;> simp

/-- A line that lacks the word does not contain the keyword. -/
theorem no_freefile_of_lacks (line : Text) (lacks : lacksFreefile [] line = true) :
    (keyword "FREEFILE").occursIn line = false := by
  cases occurs : (keyword "FREEFILE").occursIn line with
  | false => rfl
  | true =>
      obtain ⟨above, form, rest, rfl, taken⟩ := (occurs_in_iff ..).mp occurs
      obtain ⟨front, same, behind⟩ := takes_freefile taken
      have letters := spelled_letters (by decide) same
      -- The run that holds the form begins behind `above` and ends before `rest`.
      have whole : lacksFreefile [] (form ++ rest) = true := by
        rcases List.eq_nil_or_concat above with rfl | ⟨others, c, rfl⟩
        · exact lacks
        · rw [List.concat_eq_append, last_of_append, last_of_cons, last_of_nil] at front
          rw [List.concat_eq_append, List.append_assoc, List.singleton_append] at lacks
          exact (lacks_word_behind front lacks).2
      rw [lacksFreefile, lacks_word_append [] form rest freefile_nonempty behind,
        Bool.and_eq_true] at whole
      have alone := lacks_word_letters "FREEFILE".toList [] form [] letters
      rw [List.append_nil, List.nil_append, lacks_word_nil,
        (spells_iff "FREEFILE".toList form).mpr same] at alone
      rw [whole.1] at alone
      exact absurd alone (by decide)

/-- Behind a break, no whole run of a text at which the keyword is not read spells it. -/
theorem not_spells_of_none {before : Option Char} {text : Text}
    (front : before.any isWordChar = false)
    (none : ∀ piece after, text = piece ++ after → ¬(keyword "FREEFILE").Takes before piece after) :
    spells "FREEFILE".toList (text.takeWhile isWordChar) = false := by
  cases spelled : spells "FREEFILE".toList (text.takeWhile isWordChar) with
  | false => rfl
  | true =>
      refine absurd (freefile_taken front ((spells_iff ..).mp spelled) ?_)
        (none _ (text.dropWhile isWordChar) List.takeWhile_append_dropWhile.symm)
      cases rest : text.dropWhile isWordChar with
      | nil => rfl
      | cons c rest =>
          have stop := List.head?_dropWhile_not isWordChar text
          rw [rest] at stop
          simpa using stop

/-- Once every such keyword is replaced, none is left. A run is either not begun, behind a break or
before one, or it is begun and does not spell the keyword in the line. -/
theorem lacks_freefile_tracked (line : Text) :
    lacksFreefile [] (Edit.freefile.apply line) = true := by
  suffices general : ∀ before out,
      (keyword "FREEFILE").Rewrites Edit.freefile.write before line out →
      ∀ run, (run = [] ∧ (before.any isWordChar = false ∨ line.head?.any isWordChar = false)) ∨
        (run ≠ [] ∧ before.any isWordChar = true ∧
          spells "FREEFILE".toList (run ++ line.takeWhile isWordChar) = false) →
      lacksFreefile run out = true from
    general none _ (Edit.freefile.rewrites line) [] (.inl ⟨rfl, .inl rfl⟩)
  intro before out rewrites
  induction rewrites with
  | done before =>
      rintro run (⟨rfl, -⟩ | ⟨-, -, other⟩)
      · decide
      · rw [List.takeWhile_nil, List.append_nil] at other
        rw [lacksFreefile, lacks_word_nil, other]
        rfl
  | keep before c rest out none _ induction =>
      intro run state
      cases letter : isWordChar c with
      | true =>
          rw [lacksFreefile, lacks_word_letter _ letter]
          refine induction _ (.inr ⟨by simp, by simpa using letter, ?_⟩)
          have whole : (c :: rest).takeWhile isWordChar = [c] ++ rest.takeWhile isWordChar := by
            rw [List.takeWhile_cons_of_pos letter, List.singleton_append]
          rcases state with ⟨rfl, front | head⟩ | ⟨-, -, other⟩
          · rw [List.nil_append, ← whole]
            exact not_spells_of_none front none
          · exact absurd (letter.symm.trans head) (by decide)
          · rw [List.append_assoc, ← whole]
            exact other
      | false =>
          rw [lacksFreefile, lacks_word_break _ letter, Bool.and_eq_true]
          refine ⟨?_, induction [] (.inl ⟨rfl, .inl (by simpa using letter)⟩)⟩
          rcases state with ⟨rfl, -⟩ | ⟨-, -, other⟩
          · decide
          · rw [List.takeWhile_cons_of_neg (by simp [letter]), List.append_nil] at other
            rw [other]
            rfl
  | swap before piece rest out found _ reads _ induction =>
      intro run state
      obtain ⟨front, -, behind⟩ := takes_freefile ⟨_, reads⟩
      rcases state with ⟨rfl, -⟩ | ⟨-, word, -⟩
      · have name : Edit.freefile.write found ++ out =
            "ResourceManager_GetFileHandle".toList ++ '%' :: out := by
          change "ResourceManager_GetFileHandle%".toList ++ out = _
          simp
        rw [name]
        exact lacks_freefile_word [] _ '%' 'u' out (by decide) (by decide)
          (by decide) (by decide) (induction [] (.inl ⟨rfl, .inr behind⟩))
      · exact absurd (word.symm.trans front) (by decide)

end BasicBench.Instrument
