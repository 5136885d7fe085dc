import BasicBench.Editor.Word

/-!
The word under the cursor. From a cursor in its line or at the end of it the search to the left and
the search to the right stop at the edges of the longest run of word characters that touches the
cursor. The search to the left looks at the character in front of the cursor first. So it leaves the
line exactly when the cursor is behind the end of a line that exists.
-/

set_option autoImplicit false

namespace BasicBench.Editor

open Text

/-! Runs. -/

/-- The characters from one offset of a line up to another all belong to words. -/
structure IsRun (text : Text) (start stop : Nat) : Prop where
  ordered : start ≤ stop
  inside : stop ≤ text.length
  word : ∀ offset, start ≤ offset → offset < stop →
    ∃ c, text[offset]? = some c ∧ isKeywordChar c = true

/-- The run that touches a place and goes as far to both sides as any other that does. -/
structure LongestRun (text : Text) (place start stop : Nat) : Prop where
  run : IsRun text start stop
  touches : start ≤ place ∧ place ≤ stop
  longest : ∀ start' stop', IsRun text start' stop' → start' ≤ place → place ≤ stop' →
    start ≤ start' ∧ stop' ≤ stop

section Runs

variable {text : Text} {place start stop : Nat}

/-- No word goes on in front of the offset. -/
def BeginsAt (text : Text) (start : Nat) : Prop :=
  ∀ offset c, start = offset + 1 → text[offset]? = some c → isKeywordChar c = false

/-- No word goes on behind the offset. -/
def EndsAt (text : Text) (stop : Nat) : Prop :=
  ∀ c, text[stop]? = some c → isKeywordChar c = false

theorem longest_of_edges (run : IsRun text start stop) (touches : start ≤ place ∧ place ≤ stop)
    (begins : BeginsAt text start) (ends : EndsAt text stop) : LongestRun text place start stop := by
  refine ⟨run, touches, ?_⟩
  intro start' stop' other before behind
  constructor
  · apply Nat.le_of_not_lt
    intro further
    obtain ⟨c, here, word⟩ := other.word (start - 1) (by omega) (by omega)
    have edge := begins (start - 1) c (by omega) here
    rw [word] at edge
    cases edge
  · apply Nat.le_of_not_lt
    intro further
    obtain ⟨c, here, word⟩ := other.word stop (by omega) (by omega)
    have edge := ends c here
    rw [word] at edge
    cases edge

end Runs

/-! The search to the left. -/

theorem word_start_succ {text : Text} {offset : Nat} {c : Char} (here : text[offset]? = some c) :
    wordStart? text (offset + 1) =
      if isKeywordChar c then wordStart? text offset else some (offset + 1) := by
  rw [wordStart?, here]
  rfl

/-- The search leaves the line only when it begins behind the end of it. -/
theorem word_start_none_iff (text : Text) (place : Nat) :
    wordStart? text place = none ↔ text.length < place := by
  induction place with
  | zero => simp [wordStart?]
  | succ offset induction =>
      cases here : text[offset]? with
      | none =>
          have behind := List.getElem?_eq_none_iff.mp here
          rw [wordStart?, here]
          exact ⟨fun _ => Nat.lt_succ_of_le behind, fun _ => rfl⟩
      | some c =>
          have inside := (List.getElem?_eq_some_iff.mp here).1
          rw [word_start_succ here]
          split
          · rw [induction]
            omega
          · simp only [reduceCtorEq, false_iff]
            omega

theorem word_start_some {text : Text} {place start : Nat} (found : wordStart? text place = some start) :
    start ≤ place ∧ BeginsAt text start ∧ ∀ offset, start ≤ offset → offset < place →
      ∃ c, text[offset]? = some c ∧ isKeywordChar c = true := by
  induction place with
  | zero =>
      obtain rfl := Option.some.inj found
      refine ⟨Nat.le_refl 0, ?_, ?_⟩
      · intro offset c front
        cases front
      · intro offset front behind
        cases behind
  | succ last induction =>
      cases here : text[last]? with
      | none =>
          rw [wordStart?, here] at found
          cases found
      | some c =>
          rw [word_start_succ here] at found
          split at found
          next word =>
            obtain ⟨before, begins, inside⟩ := induction found
            refine ⟨Nat.le_succ_of_le before, begins, ?_⟩
            intro offset front behind
            by_cases same : offset = last
            · exact ⟨c, same ▸ here, word⟩
            · exact inside offset front (by omega)
          next other =>
            obtain rfl := Option.some.inj found
            refine ⟨Nat.le_refl _, ?_, ?_⟩
            · intro offset d same there
              obtain rfl : last = offset := Nat.succ.inj same
              rw [here] at there
              obtain rfl := Option.some.inj there
              exact Bool.eq_false_iff.mpr other
            · intro offset front behind
              omega

/-! The search to the right. -/

/-- What a run takes from the front of a text, and that it stops for a reason. -/
theorem take_while_run (rest : Text) :
    (rest.takeWhile isKeywordChar).length ≤ rest.length ∧
      EndsAt rest (rest.takeWhile isKeywordChar).length ∧
      ∀ offset < (rest.takeWhile isKeywordChar).length,
        ∃ c, rest[offset]? = some c ∧ isKeywordChar c = true := by
  induction rest with
  | nil =>
      refine ⟨Nat.le_refl 0, ?_, ?_⟩
      · intro c here
        cases here
      · intro offset below
        cases below
  | cons c rest induction =>
      obtain ⟨short, ends, inside⟩ := induction
      by_cases word : isKeywordChar c = true
      · rw [List.takeWhile_cons_of_pos word]
        refine ⟨Nat.succ_le_succ short, ends, ?_⟩
        intro offset below
        cases offset with
        | zero => exact ⟨c, rfl, word⟩
        | succ offset => exact inside offset (Nat.lt_of_succ_lt_succ below)
      · rw [List.takeWhile_cons_of_neg word]
        refine ⟨Nat.zero_le _, ?_, ?_⟩
        · intro d here
          obtain rfl := Option.some.inj here
          exact Bool.eq_false_iff.mpr word
        · intro offset below
          cases below

theorem word_end_run {text : Text} {place : Nat} (inside : place ≤ text.length) :
    IsRun text place (wordEnd text place) ∧ EndsAt text (wordEnd text place) := by
  obtain ⟨short, ends, word⟩ := take_while_run (text.drop place)
  rw [List.length_drop] at short
  refine ⟨⟨Nat.le_add_right .., ?_, ?_⟩, ?_⟩
  · unfold wordEnd
    omega
  · intro offset front behind
    unfold wordEnd at behind
    have here := word (offset - place) (by omega)
    rwa [List.getElem?_drop, Nat.add_sub_cancel' front] at here
  · intro c here
    apply ends
    rw [List.getElem?_drop]
    exact here

/-! Both searches. -/

/-- In the line or at its end the two searches find the edges of one run. -/
theorem longest_run_found {text : Text} {place start : Nat} (inside : place ≤ text.length)
    (found : wordStart? text place = some start) :
    LongestRun text place start (wordEnd text place) := by
  obtain ⟨before, begins, left⟩ := word_start_some found
  obtain ⟨right, ends⟩ := word_end_run inside
  have run : IsRun text start (wordEnd text place) := by
    refine ⟨Nat.le_trans before right.ordered, right.inside, ?_⟩
    intro offset front behind
    by_cases passed : offset < place
    · exact left offset front passed
    · exact right.word offset (by omega) behind
  exact longest_of_edges run ⟨before, right.ordered⟩ begins ends

theorem word_at_of_line {document text : Text} {place : Position}
    (here : (splitLinesWithEnds document)[place.line]? = some text) :
    wordAt? document place = (wordStart? text place.character).map fun start =>
      charsBetween text start (wordEnd text place.character) := by
  rw [wordAt?, here, Option.map_eq_bind]
  rfl

/-- At every place there is an answer, except behind the end of a line that exists. Where the
document has no line the answer is the empty text. In a line and at its end it is the longest run of
word characters that touches the place. -/
theorem word_at_place (document : Text) (place : Position) :
    (wordAt? document place = none ↔
        ∃ text, (splitLinesWithEnds document)[place.line]? = some text ∧
          text.length < place.character) ∧
      ((splitLinesWithEnds document)[place.line]? = none → wordAt? document place = some []) ∧
      ∀ text, (splitLinesWithEnds document)[place.line]? = some text →
        place.character ≤ text.length → ∃ start stop,
          LongestRun text place.character start stop ∧
            wordAt? document place = some (charsBetween text start stop) := by
  refine ⟨?_, ?_, ?_⟩
  · cases here : (splitLinesWithEnds document)[place.line]? with
    | none => simp [wordAt?, here]
    | some text =>
        rw [word_at_of_line here, Option.map_eq_none_iff, word_start_none_iff]
        simp
  · intro absent
    rw [wordAt?, absent]
  · intro text here inside
    cases found : wordStart? text place.character with
    | none =>
        have behind := (word_start_none_iff text place.character).mp found
        omega
    | some start =>
        refine ⟨start, wordEnd text place.character, longest_run_found inside found, ?_⟩
        rw [word_at_of_line here, found]
        rfl

/-- Inside a keyword, and at the end of the last line. -/
theorem word_of_assignment :
    let document := "x$ = LEFT$(a$, 2)\nPRINT x$".toList
    wordAt? document ⟨0, 8⟩ = some "LEFT$".toList ∧
      (∃ start stop, LongestRun "x$ = LEFT$(a$, 2)\n".toList 8 start stop ∧
        wordAt? document ⟨0, 8⟩ =
          some (charsBetween "x$ = LEFT$(a$, 2)\n".toList start stop)) ∧
      wordAt? document ⟨2, 5⟩ = some [] := by
  intro document
  have left := (word_at_place document ⟨0, 8⟩).2.2 "x$ = LEFT$(a$, 2)\n".toList (by decide)
    (by decide)
  have below := (word_at_place document ⟨2, 5⟩).2.1 (by decide)
  exact ⟨by decide +kernel, left, below⟩

/-- With the cursor limited to the seven characters of the line the word would be `1`. -/
theorem cursor_behind_line_fails :
    wordAt? "PRINT 1".toList ⟨0, 20⟩ = none ∧
      (splitLinesWithEnds "PRINT 1".toList)[0]? = some "PRINT 1".toList ∧
      LongestRun "PRINT 1".toList (min 20 "PRINT 1".toList.length) 6 7 ∧
      charsBetween "PRINT 1".toList 6 7 = "1".toList := by
  have found : wordStart? "PRINT 1".toList 7 = some 6 := by decide +kernel
  have run := longest_run_found (by decide) found
  exact ⟨by decide +kernel, by decide, run, by decide⟩

end BasicBench.Editor
