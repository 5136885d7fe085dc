import BasicBench.Proofs.TailChange
import BasicBench.Proofs.Trimming

/-!
What a line begins with behind its indentation. Two words that lead the same line agree as far
as both go, so statements with different first words exclude each other. A pattern that looks
for its word behind any indentation matches a line just as well when the indentation grows.
-/

set_option autoImplicit false

namespace BasicBench.Text.Pattern

/-- Behind its indentation the line begins with the word in some mixture of cases. -/
def Leads (word line : Text) : Prop :=
  ∃ left rest, Blank left ∧ Opens word rest ∧ line = left ++ rest

/-- A word whose first letter is no blank. -/
def isHeaded (word : Text) : Bool := word.head?.any fun c => !isSpace c

theorem headed_cons (word : Text) (headed : isHeaded word = true) :
    ∃ c others, word = c :: others ∧ isSpace c = false := by
  cases word with
  | nil => simp [isHeaded] at headed
  | cons c others => exact ⟨c, others, rfl, by simpa [isHeaded] using headed⟩

theorem opens_headed (word text : Text) (headed : isHeaded word = true)
    (opens : Opens word text) : ∃ c others, text = c :: others ∧ isSpace c = false := by
  obtain ⟨letter, others, rfl, solid⟩ := headed_cons word headed
  obtain ⟨form, more, rfl, same⟩ := opens
  cases same with
  | cons first _ => exact ⟨_, _, rfl, by rw [← space_of_same_letter first, solid]⟩

theorem blank_prefix_unique (left right rest other : Text) (c d : Char) (blankLeft : Blank left)
    (blankRight : Blank right) (solid : isSpace c = false) (solid' : isSpace d = false)
    (same : left ++ c :: rest = right ++ d :: other) : left = right ∧ c :: rest = d :: other := by
  have leftPart : (left ++ c :: rest).takeWhile isSpace = left := by
    rw [List.takeWhile_append_of_pos blankLeft, List.takeWhile_cons_of_neg (by simp [solid]),
      List.append_nil]
  have rightPart : (right ++ d :: other).takeWhile isSpace = right := by
    rw [List.takeWhile_append_of_pos blankRight, List.takeWhile_cons_of_neg (by simp [solid']),
      List.append_nil]
  have equal : left = right := by rw [← leftPart, same, rightPart]
  subst equal
  exact ⟨rfl, List.append_cancel_left same⟩

theorem opens_compatible {word key text : Text} (first : Opens word text)
    (second : Opens key text) : compatible word key = true := by
  obtain ⟨form, more, rfl, same⟩ := first
  obtain ⟨keyForm, others, split, sameKey⟩ := second
  exact compatible_of_common_start same sameKey split

theorem not_blank_of_leads {word line : Text} (headed : isHeaded word = true)
    (leads : Leads word line) : ¬Blank line := by
  obtain ⟨left, rest, -, opens, rfl⟩ := leads
  obtain ⟨c, others, rfl, solid⟩ := opens_headed word rest headed opens
  intro blank
  rw [blank c (by simp)] at solid
  exact absurd solid (by decide)

/-- Two words that lead one line agree as far as both go. -/
theorem leads_compatible {word key line : Text} (headed : isHeaded word = true)
    (headedKey : isHeaded key = true) (first : Leads word line) (second : Leads key line) :
    compatible word key = true := by
  obtain ⟨left, rest, blank, opens, rfl⟩ := first
  obtain ⟨right, other, blank', opens', split⟩ := second
  obtain ⟨c, more, rfl, solid⟩ := opens_headed word rest headed opens
  obtain ⟨d, others, rfl, solid'⟩ := opens_headed key other headedKey opens'
  obtain ⟨-, same⟩ := blank_prefix_unique _ _ _ _ _ _ blank blank' solid solid' split
  exact opens_compatible opens (same ▸ opens')

theorem leads_append (word line more : Text) (leads : Leads word line) :
    Leads word (line ++ more) := by
  obtain ⟨left, rest, blank, ⟨form, others, rfl, same⟩, rfl⟩ := leads
  exact ⟨left, form ++ others ++ more, blank, ⟨form, others ++ more, by simp, same⟩, by simp⟩

theorem leads_indented (word left rest : Text) (blank : Blank left) :
    Leads word (left ++ (word ++ rest)) :=
  ⟨left, word ++ rest, blank, opens_append word rest, rfl⟩

theorem same_text_split {word more text : Text} (same : SameText (word ++ more) text) :
    ∃ front back, text = front ++ back ∧ SameText word front ∧ SameText more back := by
  have head := List.forall₂_take word.length same
  have tail := List.forall₂_drop word.length same
  rw [List.take_left] at head
  rw [List.drop_left] at tail
  exact ⟨_, _, (List.take_append_drop ..).symm, head, tail⟩

theorem opens_shorter (word more text : Text) (opens : Opens (word ++ more) text) :
    Opens word text := by
  obtain ⟨_, rest, rfl, same⟩ := opens
  obtain ⟨front, back, rfl, head, -⟩ := same_text_split same
  exact ⟨front, back ++ rest, List.append_assoc .., head⟩

theorem leads_shorter (word more line : Text) (leads : Leads (word ++ more) line) :
    Leads word line := by
  obtain ⟨left, rest, blank, opens, rfl⟩ := leads
  exact ⟨left, rest, blank, opens_shorter word more rest opens, rfl⟩

theorem trim_cons (c : Char) (rest : Text) (solid : isSpace c = false) :
    ∃ core right, Blank right ∧ rest = core ++ right ∧ trim (c :: rest) = c :: core := by
  obtain ⟨right, blank, split⟩ := drop_end_split isSpace rest
  refine ⟨dropEndWhile isSpace rest, right, blank, split, ?_⟩
  rw [trim, trimLeft, List.dropWhile_cons_of_neg (by simp [solid]), trimRight, dropEndWhile]
  cases dropEndWhile isSpace rest <;> simp [solid]

/-- The first character of a trimmed line that a word leads is a form of the word's first letter. -/
theorem leads_trim {c : Char} {word line : Text} (solid : isSpace c = false)
    (leads : Leads (c :: word) line) :
    ∃ d core, trim line = d :: core ∧ sameLetter c d = true := by
  obtain ⟨left, _, blank, ⟨_, more, rfl, same⟩, rfl⟩ := leads
  cases same with
  | cons first others =>
      obtain ⟨core, right, -, -, trimmed⟩ := trim_cons _ (_ ++ more)
        ((space_of_same_letter first).symm.trans solid)
      exact ⟨_, core, by rw [trim_append_left _ _ blank]; exact trimmed, first⟩

/-- Trimming does not reach into a solid part. -/
theorem trim_keeps_solid (left core back : Text) (blank : Blank left)
    (solid : isSolid core = true) : ∃ more, trim (left ++ (core ++ back)) = core ++ more := by
  simp only [isSolid, Bool.and_eq_true, Option.any_eq_true, Bool.not_eq_true'] at solid
  obtain ⟨⟨c, head, startKept⟩, d, last, endKept⟩ := solid
  obtain ⟨others, rfl⟩ : ∃ others, core = c :: others := ⟨core.tail, List.eq_cons_of_mem_head? head⟩
  obtain ⟨kept, right, blankRight, split, trimmed⟩ := trim_cons c (others ++ back) startKept
  rw [trim_append_left _ _ blank, List.cons_append, trimmed]
  have whole : (c :: others) ++ back = (c :: kept) ++ right := congrArg (c :: ·) split
  rcases List.append_eq_append_iff.mp whole with ⟨between, shape, -⟩ | ⟨between, shape, rest⟩
  · exact ⟨between, shape⟩
  · cases between with
    | nil => exact ⟨[], by simpa using shape.symm⟩
    | cons e between =>
        rw [shape, List.getLast?_append, List.getLast?_cons, Option.some_or] at last
        have member : d ∈ right := by
          rw [rest]
          exact List.mem_append_left _ (List.mem_of_getLast? (List.getLast?_cons.trans last))
        rw [blankRight d member] at endKept
        exact absurd endKept (by decide)

theorem head_of_same_text {word form : Text} (same : SameText word form) :
    form.head?.any (fun c => !isSpace c) = word.head?.any fun c => !isSpace c := by
  cases same with
  | nil => rfl
  | cons letter _ => simp [space_of_same_letter letter]

theorem solid_of_same_text {word form : Text} (same : SameText word form) :
    isSolid form = isSolid word := by
  have back := head_of_same_text (List.rel_reverse same)
  rw [List.head?_reverse, List.head?_reverse] at back
  rw [isSolid, isSolid, head_of_same_text same, back]

/-- A word that leads a line opens the trimmed line. -/
theorem opens_trim {word line : Text} (solid : isSolid word = true) (leads : Leads word line) :
    Opens word (trim line) := by
  obtain ⟨left, _, blank, ⟨form, more, rfl, same⟩, rfl⟩ := leads
  obtain ⟨others, shape⟩ := trim_keeps_solid left form more blank
    ((solid_of_same_text same).trans solid)
  exact ⟨form, others, shape, same⟩

/-! Patterns that look for their word behind the indentation. -/

/-- Every line that the pattern matches is led by the word. -/
def LedBy (word : String) (pattern : Pattern) : Prop :=
  ∀ piece rest, pattern.Takes none piece rest → Leads word.toList piece

/-- The pattern takes any indentation and the word behind it. -/
def TakesWord (word : String) (pattern : Pattern) : Prop :=
  ∀ piece rest, pattern.Takes none piece rest ↔
    ∃ left form, piece = left ++ form ∧ Blank left ∧ SameText word.toList form

theorem takes_word_start (word : String) : TakesWord word (textStart ++ blanks ++ anyCase word) := by
  intro piece rest
  simp only [takes_append, takes_text_start, takes_blanks, takes_any_case]
  constructor
  · rintro ⟨_, form, rfl, ⟨_, left, rfl, ⟨rfl, -⟩, blank⟩, same⟩
    exact ⟨left, form, rfl, blank, same⟩
  · rintro ⟨left, form, rfl, blank, same⟩
    exact ⟨left, form, rfl, ⟨[], left, rfl, by simp, blank⟩, same⟩

theorem takes_word_captured_start (word : String) :
    TakesWord word (textStart ++ capture 1 blanks ++ anyCase word) := by
  intro piece rest
  rw [← takes_word_start word piece rest]
  simp only [takes_append, takes_capture]

theorem led_by_of_takes_word {word : String} {pattern : Pattern} (takes : TakesWord word pattern) :
    LedBy word pattern := by
  intro piece rest taken
  obtain ⟨left, form, rfl, blank, same⟩ := (takes piece rest).mp taken
  exact ⟨left, form, blank, ⟨form, [], by simp, same⟩, rfl⟩

theorem led_by_append {word : String} {first : Pattern} (led : LedBy word first)
    (second : Pattern) : LedBy word (first ++ second) := by
  intro piece rest taken
  obtain ⟨left, right, rfl, takesLeft, -⟩ := (takes_append ..).mp taken
  exact leads_append _ _ _ (led left (right ++ rest) takesLeft)

theorem leads_of_starts {word : String} {pattern : Pattern} (led : LedBy word pattern)
    {line : Text} (starts : pattern.startsText line = true) : Leads word.toList line := by
  obtain ⟨piece, rest, rfl, taken⟩ := (starts_text_iff ..).mp starts
  exact leads_append _ _ _ (led piece rest taken)

/-- A pattern that matches a line just as well behind more indentation. -/
def Floats (pattern : Pattern) : Prop :=
  ∀ left piece rest, Blank left →
    (pattern.Takes none (left ++ piece) rest ↔ pattern.Takes none piece rest)

/-- A pattern that reads beyond the indentation. -/
def Reaches (pattern : Pattern) : Prop :=
  ∀ piece rest, pattern.Takes none piece rest → ¬Blank piece

theorem reaches_of_led_by {word : String} {pattern : Pattern} (headed : isHeaded word.toList = true)
    (led : LedBy word pattern) : Reaches pattern := by
  intro piece rest taken blank
  obtain ⟨left, other, -, opens, rfl⟩ := led piece rest taken
  obtain ⟨c, others, rfl, solid⟩ := opens_headed _ _ headed opens
  rw [blank c (by simp)] at solid
  exact absurd solid (by decide)

theorem prefix_of_reaching (left piece line rest : Text) (blank : Blank left)
    (reaching : ¬Blank piece) (split : left ++ line = piece ++ rest) :
    ∃ other, piece = left ++ other ∧ line = other ++ rest := by
  rcases List.append_eq_append_iff.mp split with ⟨between, rfl, rfl⟩ | ⟨between, rfl, -⟩
  · exact ⟨between, rfl, rfl⟩
  · exact absurd ((blank_append ..).mp blank).1 reaching

theorem floats_of_takes_word {word : String} {pattern : Pattern}
    (headed : isHeaded word.toList = true) (takes : TakesWord word pattern) : Floats pattern := by
  intro left piece rest blank
  rw [takes, takes]
  constructor
  · rintro ⟨gap, form, split, blankGap, same⟩
    obtain ⟨c, others, rfl, solid⟩ := opens_headed word.toList form headed ⟨form, [], by simp, same⟩
    rcases List.append_eq_append_iff.mp split with ⟨between, rfl, rfl⟩ | ⟨between, rfl, split'⟩
    · exact ⟨between, c :: others, rfl, ((blank_append ..).mp blankGap).2, same⟩
    · cases between with
      | nil => exact ⟨[], c :: others, split'.symm, by simp [Blank], same⟩
      | cons d between =>
          rw [List.cons_append, List.cons.injEq] at split'
          rw [blank c (by simp [split'.1])] at solid
          exact absurd solid (by decide)
  · rintro ⟨gap, form, rfl, blankGap, same⟩
    exact ⟨left ++ gap, form, by simp, (blank_append ..).mpr ⟨blank, blankGap⟩, same⟩

theorem floats_append {first : Pattern} (floats : Floats first) (reaches : Reaches first)
    (second : Pattern) : Floats (first ++ second) := by
  intro left piece rest blank
  have lastSame : ∀ head, ¬Blank head → lastOf none (left ++ head) = lastOf none head := by
    intro head reaching
    have nonempty : head ≠ [] := by
      rintro rfl
      exact reaching (by simp [Blank])
    obtain ⟨c, -, last⟩ := last_of_mem none head nonempty
    obtain ⟨d, -, last'⟩ := last_of_mem (lastOf none left) head nonempty
    rw [last_of_append]
    simp [lastOf, List.getLast?_eq_some_getLast nonempty]
  simp only [takes_append]
  constructor
  · rintro ⟨head, tail, split, takesHead, takesTail⟩
    obtain ⟨other, rfl, rfl⟩ := prefix_of_reaching left head piece tail blank
      (reaches _ _ takesHead) split
    have takesOther := (floats left other _ blank).mp takesHead
    refine ⟨other, tail, rfl, takesOther, ?_⟩
    rwa [lastSame other (reaches _ _ takesOther)] at takesTail
  · rintro ⟨head, tail, rfl, takesHead, takesTail⟩
    refine ⟨left ++ head, tail, by simp, (floats left head _ blank).mpr takesHead, ?_⟩
    rwa [lastSame head (reaches _ _ takesHead)]

theorem reaches_append {first : Pattern} (reaches : Reaches first) (second : Pattern) :
    Reaches (first ++ second) := by
  intro piece rest taken blank
  obtain ⟨head, tail, rfl, takesHead, -⟩ := (takes_append ..).mp taken
  exact reaches _ _ takesHead ((blank_append ..).mp blank).1

/-- Both together, for patterns that begin with a word. -/
theorem floating_append {first : Pattern} (floating : Floats first ∧ Reaches first)
    (second : Pattern) : Floats (first ++ second) ∧ Reaches (first ++ second) :=
  ⟨floats_append floating.1 floating.2 second, reaches_append floating.2 second⟩

theorem floating_of_takes_word {word : String} {pattern : Pattern}
    (headed : isHeaded word.toList = true) (takes : TakesWord word pattern) :
    Floats pattern ∧ Reaches pattern :=
  ⟨floats_of_takes_word headed takes, reaches_of_led_by headed (led_by_of_takes_word takes)⟩

/-- Growing the indentation of a line changes nothing for a pattern that looks behind it. -/
theorem starts_text_indent {pattern : Pattern} (floating : Floats pattern ∧ Reaches pattern)
    (left line : Text) (blank : Blank left) :
    pattern.startsText (left ++ line) = pattern.startsText line := by
  obtain ⟨floats, reaches⟩ := floating
  rw [Bool.eq_iff_iff, starts_text_iff, starts_text_iff]
  constructor
  · rintro ⟨piece, rest, split, taken⟩
    obtain ⟨other, rfl, rfl⟩ := prefix_of_reaching left piece line rest blank
      (reaches _ _ taken) split
    exact ⟨other, rest, rfl, (floats left other rest blank).mp taken⟩
  · rintro ⟨piece, rest, rfl, taken⟩
    exact ⟨left ++ piece, rest, by simp, (floats left piece rest blank).mpr taken⟩

end BasicBench.Text.Pattern
