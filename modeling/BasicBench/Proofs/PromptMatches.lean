import BasicBench.Proofs.WaitsKept

/-!
Prompts that wait, told from the text and from its lines. The pattern for a prompt and its wait goes
over the ends of lines. Where prompts stand by themselves it matches exactly when among the lines a
wait is the first one behind a prompt that is not blank.
-/

set_option autoImplicit false

namespace BasicBench.Instrument

open Text Pattern

/-! What the pattern matches. -/

/-- A wait for a key, with a break behind it. -/
def WaitAhead (text : Text) : Prop :=
  ∃ word rest, text = word ++ rest ∧ SameText "SLEEP".toList word ∧
    rest.head?.any isWordChar = false

/-- Blanks that go to another line. -/
def BreaksLine (gap : Text) : Prop := Blank gap ∧ ∃ c ∈ gap, c = '\r' ∨ c = '\n'

/-- The text in front of a quotation is the word that prints it. -/
def Prints (front : Text) : Prop :=
  ∃ above word gap, front = above ++ (word ++ gap) ∧ SameText "PRINT".toList word ∧ gap ≠ [] ∧
    Blank gap

/-- A quotation that begins with a prompt. -/
def PromptText (quoted : Text) : Prop :=
  '"' ∉ quoted ∧ Opens "Press any key".toList quoted

/-- A quoted prompt, in front of it what fits, and behind it on another line a wait. -/
def QuotedWait (fits : Text → Prop) (text : Text) : Prop :=
  ∃ front quoted gap wait, text = front ++ '"' :: (quoted ++ '"' :: (gap ++ wait)) ∧
    fits front ∧ PromptText quoted ∧ BreaksLine gap ∧ WaitAhead wait

theorem sleep_edge {word : Text} (same : SameText "SLEEP".toList word) (before : Option Char)
    (rest : Text) : (lastOf before word).any isWordChar ≠ rest.head?.any isWordChar ↔
      rest.head?.any isWordChar = false :=
  edge_behind_letters (by decide) (by decide) same before rest

theorem among_breaks (c : Char) : among "\r\n" c = true ↔ c = '\r' ∨ c = '\n' := by
  simp [among]

/-- What the pattern goes over between the prompt and the wait. -/
theorem breaks_append {tail ends under : Text} (blankTail : Blank tail) (some : ends ≠ [])
    (breaks : ∀ c ∈ ends, among "\r\n" c = true) (blankUnder : Blank under) :
    BreaksLine (tail ++ (ends ++ under)) := by
  constructor
  · have blankEnds : Blank ends := by
      intro c member
      rcases (among_breaks c).mp (breaks c member) with rfl | rfl
      · decide
      · decide
    rw [blank_append, blank_append]
    exact ⟨blankTail, blankEnds, blankUnder⟩
  · rcases List.exists_mem_of_ne_nil ends some with ⟨c, member⟩
    exact ⟨c, by simp [member], (among_breaks c).mp (breaks c member)⟩

/-- The pattern matches where a printed prompt has a wait on another line. -/
theorem prompt_and_wait_iff (text : Text) :
    promptAndWait.occursIn text = true ↔ QuotedWait Prints text := by
  rw [occurs_in_iff]
  simp only [promptAndWait, takes_append, takes_any_case, takes_blanks1, takes_blanks, takes_one,
    takes_many, takes_many1, takes_word_edge, beq_iff_eq, bne_iff_ne]
  constructor
  · rintro ⟨above, _, rest, rfl, _, _, rfl, ⟨_, sleep, rfl, ⟨_, under, rfl, ⟨_, ends, rfl, ⟨_, tail,
      rfl, ⟨_, _, rfl, ⟨_, more, rfl, ⟨_, form, rfl, ⟨_, _, rfl, ⟨word, gap, rfl, print, nonempty,
        blank⟩, _, rfl, rfl⟩, key⟩, closed⟩, _, rfl, rfl⟩, blankTail⟩, some, breaks⟩, blankUnder⟩,
          same⟩, rfl, edge⟩
    rw [last_of_append, sleep_edge same] at edge
    refine ⟨above ++ (word ++ gap), form ++ more, tail ++ (ends ++ under), sleep ++ rest, by simp,
      ⟨above, word, gap, rfl, print, nonempty, blank⟩, ⟨?_, form, more, rfl, key⟩,
      breaks_append blankTail some breaks blankUnder, sleep, rest, rfl, same, edge⟩
    rw [List.mem_append, not_or]
    exact ⟨foreign_to_piece key (by decide), fun member => closed _ member rfl⟩
  · rintro ⟨_, quoted, gap, _, rfl, ⟨above, word, space, rfl, print, nonempty, blank⟩,
      ⟨closed, form, more, rfl, key⟩, ⟨blankGap, c, member, ends⟩, sleep, rest, rfl, same, edge⟩
    rcases List.append_of_mem member with ⟨tail, under, rfl⟩
    rw [blank_append] at blankGap
    rw [List.mem_append, not_or] at closed
    refine ⟨above, word ++ space ++ ['"'] ++ form ++ more ++ ['"'] ++ tail ++ [c] ++ under ++ sleep ++
      [], rest, by simp, _, [], rfl, ⟨_, sleep, rfl, ⟨_, under, rfl, ⟨_, [c], rfl, ⟨_, tail, rfl,
        ⟨_, ['"'], rfl, ⟨_, more, rfl, ⟨_, form, rfl, ⟨_, ['"'], rfl, ⟨word, space, rfl, print,
          nonempty, blank⟩, '"', rfl, rfl⟩, key⟩, ?_⟩, '"', rfl, rfl⟩, blankGap.1⟩, by simp, ?_⟩,
            ?_⟩, same⟩, rfl, ?_⟩
    · rintro d listed rfl
      exact closed.2 listed
    · intro d listed
      rw [List.mem_singleton.mp listed]
      exact (among_breaks c).mpr ends
    · exact fun d listed => blankGap.2 d (List.mem_cons_of_mem c listed)
    · rw [last_of_append, sleep_edge same]
      exact edge

/-! From the text to its lines. -/

theorem cut_at {c : Char} {front other under below : Text} (none : c ∉ front)
    (same : other ++ c :: under = front ++ c :: below) :
    (other = front ∧ under = below) ∨
      ∃ between, other = front ++ c :: between ∧ below = between ++ c :: under := by
  rcases List.append_eq_append_iff.mp same with ⟨middle, rfl, behind⟩ | ⟨middle, rfl, behind⟩
  · cases middle with
    | nil => exact .inl ⟨by simp, (List.cons.inj behind).2⟩
    | cons d middle =>
        rw [List.cons_append, List.cons.injEq] at behind
        exact absurd (by simp [behind.1]) none
  · cases middle with
    | nil => exact .inl ⟨by simp, (List.cons.inj behind).2.symm⟩
    | cons d middle =>
        rw [List.cons_append, List.cons.injEq] at behind
        rcases behind with ⟨rfl, rfl⟩
        exact .inr ⟨middle, rfl, rfl⟩

theorem quote_not_in_blank {gap : Text} (blank : Blank gap) : '"' ∉ gap :=
  fun member => absurd (blank _ member) (by decide)

/-- In a line that quotes the prompt to show it there are two quotes. Behind the second one stands
nothing, or it is the argument of a call. -/
theorem standalone_shape {line : Text} (alone : Standalone line) :
    ∃ front quoted tail, line = front ++ '"' :: (quoted ++ '"' :: tail) ∧ '"' ∉ front ∧
      PromptText quoted ∧ ((role? line = some .prompt ∧ Blank tail) ∨
        (front.getLast? = some '(' ∧ tail = [')'])) := by
  rcases alone.shows with prompts | ⟨left, blank, rfl⟩
  · have role := role_of_prompt prompts
    rcases prompt_shape prompts with
      ⟨left, word, gap, form, more, tail, rfl, blank, print, -, blankGap, key, closed, blankTail⟩
    refine ⟨left ++ (word ++ gap), form ++ more, tail, by simp, ?_, ⟨?_, form, more, rfl, key⟩,
      .inl ⟨role, blankTail⟩⟩
    · rw [List.mem_append, List.mem_append, not_or, not_or]
      exact ⟨quote_not_in_blank blank, foreign_to_piece print (by decide),
        quote_not_in_blank blankGap⟩
    · rw [List.mem_append, not_or]
      exact ⟨foreign_to_piece key (by decide), closed⟩
  · refine ⟨left ++ "CALL DebugPause(".toList, "Press any key to continue...".toList, [')'], ?_, ?_,
      ⟨by decide, "Press any key".toList, " to continue...".toList, by decide, by decide⟩,
      .inr ⟨?_, rfl⟩⟩
    · rw [pauseCall, show "CALL DebugPause(\"Press any key to continue...\")".toList =
        "CALL DebugPause(".toList ++ '"' :: ("Press any key to continue...".toList ++
          '"' :: [')']) by decide]
      simp
    · rw [List.mem_append, not_or]
      exact ⟨quote_not_in_blank blank, by decide⟩
    · rw [List.getLast?_append, show "CALL DebugPause(".toList.getLast? = some '(' by decide]
      rfl

theorem foreign_of_line_end {c : Char} (ends : isLineEnd c = true) :
    "Press any key".toList.all (fun letter => !sameLetter letter c) = true := by
  have listed : c.toNat ∈ [10, 11, 12, 13, 28, 29, 30, 0x85, 0x2028, 0x2029] := by
    simp only [isLineEnd, Bool.or_eq_true, Bool.and_eq_true, decide_eq_true_eq, beq_iff_eq] at ends
    simp only [List.mem_cons, List.not_mem_nil, or_false]
    omega
  have all : [10, 11, 12, 13, 28, 29, 30, 0x85, 0x2028, 0x2029].all (fun code =>
      "Press any key".toList.all fun letter => !sameLetter letter (Char.ofNat code)) = true := by
    decide
  have here := List.all_eq_true.mp all c.toNat listed
  rwa [Char.ofNat_toNat] at here

/-- The quotation begins in the line, and so it shows its prompt there. -/
theorem quoted_in_line {line front quoted behind after : Text} {c : Char} (ends : isLineEnd c = true)
    (starts : front.length < line.length) (text : PromptText quoted)
    (split : line ++ c :: after = front ++ '"' :: (quoted ++ behind)) :
    ∃ form rest, SameText "Press any key".toList form ∧ line = front ++ '"' :: (form ++ rest) ∧
      quoted ++ behind = form ++ (rest ++ c :: after) := by
  rcases text.2 with ⟨form, more, rfl, key⟩
  have foreign := foreign_to_piece key (foreign_of_line_end ends)
  rcases List.append_eq_append_iff.mp split with ⟨middle, rfl, -⟩ | ⟨middle, rfl, inner⟩
  · rw [List.length_append] at starts
    omega
  · cases middle with
    | nil => simp at starts
    | cons d middle =>
        rw [List.cons_append, List.cons.injEq, List.append_assoc] at inner
        rcases inner with ⟨rfl, inner⟩
        rcases List.append_eq_append_iff.mp inner with ⟨gap, rfl, rest⟩ | ⟨gap, rfl, rest⟩
        · exact ⟨form, gap, key, rfl, by rw [List.append_assoc, rest]⟩
        · cases gap with
          | nil =>
              rw [List.append_nil] at key inner ⊢
              exact ⟨middle, [], key, by simp, by simpa using inner⟩
          | cons e gap =>
              rw [List.cons_append, List.cons.injEq] at rest
              exact absurd (by simp [rest.1]) foreign

/-- What stands in front of a quotation that is not the argument of a call. -/
def NotCalled (front : Text) : Prop := front.getLast? ≠ some '('

theorem not_called_of_prints {front : Text} (prints : Prints front) : NotCalled front := by
  rcases prints with ⟨above, word, gap, rfl, -, nonempty, blank⟩
  rcases List.eq_nil_or_concat gap with rfl | ⟨others, c, rfl⟩
  · exact absurd rfl nonempty
  · rw [List.concat_eq_append] at blank ⊢
    rw [NotCalled, ← List.append_assoc, ← List.append_assoc, List.getLast?_concat, ne_eq,
      Option.some.injEq]
    rintro rfl
    exact absurd (blank '(' (by simp)) (by decide)

/-- Where a quoted prompt begins in a line with a wait on another line, the line is a prompt, and
only blanks stand between its end and the wait. -/
theorem prompt_in_line {line after front quoted gap wait : Text} {c : Char}
    (ends : isLineEnd c = true) (unbroken : Unbroken line) (tame : Tame line)
    (starts : front.length < line.length) (fits : NotCalled front) (text : PromptText quoted)
    (breaks : BreaksLine gap)
    (split : line ++ c :: after = front ++ '"' :: (quoted ++ '"' :: (gap ++ wait))) :
    role? line = some .prompt ∧ ∃ more, Blank more ∧ c :: after = more ++ wait := by
  rcases quoted_in_line ends starts text split with ⟨form, rest, key, rfl, behind⟩
  have quotes : Quotes (front ++ '"' :: (form ++ rest)) := by
    refine ⟨'"' :: form, ?_, front, rest, by simp⟩
    rw [show promptLetters = '"' :: "Press any key".toList by decide]
    exact .cons (by decide) key
  rcases standalone_shape (tame quotes) with ⟨front', quoted', tail, same, opening, text', kind⟩
  have inTail : ∀ d ∈ tail, isSpace d = true ∨ d = ')' := by
    intro d member
    rcases kind with ⟨-, blank⟩ | ⟨-, closing⟩
    · exact .inl (blank d member)
    · rw [closing] at member
      exact .inr (List.mem_singleton.mp member)
  rcases cut_at opening same with ⟨rfl, inner⟩ | ⟨between, rfl, inner⟩
  · rcases kind with ⟨role, blankTail⟩ | ⟨last, -⟩
    · refine ⟨role, ?_⟩
      rw [← List.append_assoc, inner, List.append_assoc, List.cons_append] at behind
      rcases cut_at text'.1 behind with ⟨-, later⟩ | ⟨more, rfl, -⟩
      · rcases List.append_eq_append_iff.mp later with ⟨more, rfl, -⟩ | ⟨more, rfl, line⟩
        · rcases breaks.2 with ⟨d, member, lineEnd⟩
          have plain := unbroken d (by rw [inner]; simp [member])
          rcases lineEnd with rfl | rfl
          · exact absurd plain (by decide)
          · exact absurd plain (by decide)
        · exact ⟨more, ((blank_append ..).mp breaks.1).2, line⟩
      · exact absurd (by simp) text.1
    · exact absurd last fits
  -- The second quote of a standalone line opens nothing.
  · rcases cut_at text'.1 inner.symm with ⟨-, rfl⟩ | ⟨more, -, rfl⟩
    · rw [show "Press any key".toList = 'P' :: "ress any key".toList by decide] at key
      rcases List.forall₂_cons_left_iff.mp key with ⟨d, others, letter, -, rfl⟩
      rcases inTail d (by simp) with space | rfl
      · rw [← space_of_same_letter letter] at space
        exact absurd space (by decide)
      · exact absurd letter (by decide)
    · rcases inTail '"' (by simp) with space | same
      · exact absurd space (by decide)
      · exact absurd same (by decide)

/-! The wait. -/

theorem head_line_prefix (text : Text) :
    ∃ rest, text = (splitLines text).headD [] ++ rest ∧
      (rest = [] ∨ ∃ c more, rest = c :: more ∧ isLineEnd c = true) := by
  fun_induction splitLines text with
  | case1 => exact ⟨[], rfl, .inl rfl⟩
  | case2 rest induction => exact ⟨_, rfl, .inr ⟨_, _, rfl, by decide⟩⟩
  | case3 c rest _ ends induction => exact ⟨_, rfl, .inr ⟨_, _, rfl, ends⟩⟩
  | case4 c rest _ plain empty induction =>
      rcases induction with ⟨more, split, stop⟩
      rw [empty] at split
      exact ⟨more, congrArg (c :: ·) split, stop⟩
  | case5 c rest _ plain line lines split induction =>
      rcases induction with ⟨more, whole, stop⟩
      rw [split] at whole
      exact ⟨more, congrArg (c :: ·) whole, stop⟩

/-- The first line of a text that begins with a wait is one, behind any indentation. -/
theorem wait_in_line {text left : Text} (waits : WaitAhead text) (blank : Blank left) :
    role? (left ++ (splitLines text).headD []) = some .wait := by
  rcases waits with ⟨word, rest, rfl, same, edge⟩
  rcases head_line_prefix (word ++ rest) with ⟨below, split, stop⟩
  generalize (splitLines (word ++ rest)).headD [] = line at split
  have inner : ∃ more, line = word ++ more ∧ more.head?.any isWordChar = false := by
    rcases List.append_eq_append_iff.mp split with ⟨more, rfl, rfl⟩ | ⟨more, rfl, rfl⟩
    · refine ⟨more, rfl, ?_⟩
      cases more with
      | nil => rfl
      | cons c more => exact edge
    · cases more with
      | nil => exact ⟨[], by simp, rfl⟩
      | cons c more =>
          rcases stop with none | ⟨d, others, shape, ends⟩
          · cases none
          · rw [List.cons_append, List.cons.injEq] at shape
            have letter := spelled_letters (by decide) same c (by simp)
            rw [shape.1, not_word_char_of_space d (isSpace_of_isLineEnd d ends)] at letter
            cases letter
  rcases inner with ⟨more, rfl, edge⟩
  rw [role_wait_iff, starts_text_iff]
  refine ⟨left ++ word, more, by simp, ?_⟩
  simp only [sleepStatement, takes_append, takes_text_start, takes_blanks, takes_any_case,
    takes_word_edge]
  refine ⟨left ++ word, [], by simp, ⟨left, word, rfl, ⟨[], left, rfl, ⟨rfl, trivial⟩, blank⟩, same⟩, rfl,
    ?_⟩
  rw [last_of_append, sleep_edge same]
  exact edge

theorem roles_head_tail (lines : List Text) : roles (lines.headD [] :: lines.tail) = roles lines := by
  cases lines with
  | nil => exact List.filterMap_cons_none (role_of_blank blank_nil)
  | cons line lines => rfl

theorem wait_head {wait : Text} (waits : WaitAhead wait) :
    ∃ c more, wait = c :: more ∧ isSpace c = false := by
  rcases waits with ⟨word, rest, rfl, same, -⟩
  exact opens_headed "SLEEP".toList _ (by decide) ⟨word, rest, rfl, same⟩

/-- The cases of a text as it is split: it goes on with one of the two kinds of line ends, or with
a character of its first line. -/
theorem split_lines_induction {motive : Text → Prop} (empty : motive [])
    (pair : ∀ rest, motive rest → motive ('\r' :: '\n' :: rest))
    (single : ∀ c rest, isLineEnd c = true → splitLines (c :: rest) = [] :: splitLines rest →
      motive rest → motive (c :: rest))
    (plain : ∀ c rest, isLineEnd c = false →
      (splitLines (c :: rest)).headD [] = c :: (splitLines rest).headD [] →
      (splitLines (c :: rest)).tail = (splitLines rest).tail → motive rest → motive (c :: rest))
    (text : Text) : motive text := by
  have longer : ∀ c rest, ¬isLineEnd c = true →
      (splitLines (c :: rest)).headD [] = c :: (splitLines rest).headD [] ∧
        (splitLines (c :: rest)).tail = (splitLines rest).tail := by
    intro c rest inner
    rw [split_lines_cons c rest (by simpa using inner)]
    cases splitLines rest <;> exact ⟨rfl, rfl⟩
  fun_induction splitLines text with
  | case1 => exact empty
  | case2 rest induction => exact pair rest induction
  | case3 c rest other ends induction =>
      refine single c rest ends ?_ induction
      rw [splitLines, if_pos ends]
      exact other
  | case4 c rest _ inner _ induction =>
      exact plain c rest (by simpa using inner) (longer c rest inner).1 (longer c rest inner).2
        induction
  | case5 c rest _ inner _ _ _ induction =>
      exact plain c rest (by simpa using inner) (longer c rest inner).1 (longer c rest inner).2
        induction

/-- Behind blanks a wait is the first line that is not blank. -/
theorem wait_first {text gap wait left : Text} (split : text = gap ++ wait) (blank : Blank left)
    (blankGap : Blank gap) (waits : WaitAhead wait) :
    (roles ((left ++ (splitLines text).headD []) :: (splitLines text).tail)).head? =
      some .wait := by
  rcases wait_head waits with ⟨first, others, shape, solid⟩
  induction text using split_lines_induction generalizing gap left with
  | empty =>
      rw [shape] at split
      exact absurd split.symm (by simp)
  | pair rest induction =>
      cases gap with
      | nil =>
          rw [shape, List.nil_append, List.cons.injEq] at split
          rw [← split.1] at solid
          exact absurd solid (by decide)
      | cons c gap =>
          cases gap with
          | nil =>
              rw [shape, List.cons_append, List.nil_append, List.cons.injEq, List.cons.injEq] at split
              rw [← split.2.1] at solid
              exact absurd solid (by decide)
          | cons d gap =>
              rw [List.cons_append, List.cons_append, List.cons.injEq, List.cons.injEq] at split
              have later := induction split.2.2 blank_nil
                (fun e member => blankGap e (by simp [member]))
              rw [List.nil_append, roles_head_tail] at later
              rw [splitLines, List.headD_cons, List.append_nil, roles_cons, role_of_blank blank]
              exact later
  | single c rest ends lines induction =>
      cases gap with
      | nil =>
          rw [shape, List.nil_append, List.cons.injEq] at split
          rw [← split.1, isSpace_of_isLineEnd c ends] at solid
          cases solid
      | cons d gap =>
          rw [List.cons_append, List.cons.injEq] at split
          have later := induction split.2 blank_nil (fun e member => blankGap e (by simp [member]))
          rw [List.nil_append, roles_head_tail] at later
          rw [lines, List.headD_cons, List.append_nil, roles_cons, role_of_blank blank]
          exact later
  | plain c rest _ head tail induction =>
      cases gap with
      | nil =>
          rw [List.nil_append] at split
          rw [← split] at waits
          rw [roles_cons, wait_in_line waits blank]
          rfl
      | cons d gap =>
          rw [List.cons_append, List.cons.injEq] at split
          have grown : Blank (left ++ [c]) := by
            rw [blank_append]
            refine ⟨blank, fun e member => ?_⟩
            rw [List.mem_singleton.mp member, split.1]
            exact blankGap d List.mem_cons_self
          have later := induction split.2 grown (fun e member => blankGap e (by simp [member]))
          rw [List.append_assoc, List.singleton_append] at later
          rw [head, tail]
          exact later

/-- At the end of a line its prompt waits, or what waits begins on a later line. -/
theorem quoted_wait_at_end {line after : Text} {c : Char} (ends : isLineEnd c = true)
    (unbroken : Unbroken line) (tame : Tame line)
    (waits : QuotedWait NotCalled (line ++ c :: after)) :
    (role? line = some .prompt ∧ (roles (splitLines (c :: after))).head? = some .wait) ∨
      QuotedWait NotCalled after := by
  rcases waits with ⟨front, quoted, gap, wait, split, fits, text, breaks, ahead⟩
  by_cases starts : front.length < line.length
  · rcases prompt_in_line ends unbroken tame starts fits text breaks split with
      ⟨role, more, blank, behind⟩
    have first := wait_first behind blank_nil blank ahead
    rw [List.nil_append, roles_head_tail] at first
    exact .inl ⟨role, first⟩
  · right
    have inner : ∃ more, front = line ++ c :: more ∧
        after = more ++ '"' :: (quoted ++ '"' :: (gap ++ wait)) := by
      have short : line <+: front := by
        apply List.prefix_of_prefix_length_le (List.prefix_append line (c :: after)) _ (by omega)
        rw [split]
        exact List.prefix_append front _
      rcases short with ⟨middle, rfl⟩
      rw [List.append_assoc, List.append_cancel_left_eq] at split
      cases middle with
      | nil =>
          rw [(List.cons.inj split).1] at ends
          exact absurd ends (by decide)
      | cons d middle =>
          rw [List.cons_append, List.cons.injEq] at split
          exact ⟨middle, by rw [split.1], split.2⟩
    rcases inner with ⟨more, rfl, rfl⟩
    refine ⟨more, quoted, gap, wait, rfl, ?_, text, breaks, ahead⟩
    cases more with
    | nil => exact (Option.some_ne_none _).symm
    | cons d more =>
        rw [NotCalled, List.getLast?_append, List.getLast?_cons_cons, List.getLast?_cons,
          Option.some_or] at fits
        rwa [NotCalled, List.getLast?_cons]

theorem stalls_of_line {line : Text} {lines : List Text}
    (waits : (role? line = some .prompt ∧ (roles lines).head? = some .wait) ∨
      Stalls (roles lines)) : Stalls (roles (line :: lines)) := by
  rw [roles_cons]
  rcases waits with ⟨role, first⟩ | later
  · rw [role, Option.toList_some, List.singleton_append, stalls_cons]
    exact .inl ⟨rfl, first⟩
  · exact List.IsInfix.trans later (List.suffix_append _ _).isInfix

theorem tame_nil : Tame [] := tame_of_quoteless (not_quotes_blank blank_nil)

theorem tame_head_tail {lines : List Text} (tame : ∀ line ∈ lines, Tame line) :
    ∀ line ∈ ([] ++ lines.headD []) :: lines.tail, Tame line := by
  cases lines with
  | nil => exact List.forall_mem_singleton.mpr tame_nil
  | cons line lines => exact tame

/-- Where every line that quotes the prompt stands by itself, a match of the pattern is a prompt
that waits. The first line may have begun before the text. -/
theorem stalls_of_quoted_wait {left text : Text} (unbroken : Unbroken left)
    (tame : ∀ line ∈ (left ++ (splitLines text).headD []) :: (splitLines text).tail, Tame line)
    (waits : QuotedWait NotCalled (left ++ text)) :
    Stalls (roles ((left ++ (splitLines text).headD []) :: (splitLines text).tail)) := by
  have emptyRole : role? [] ≠ some .prompt := by
    rw [role_of_blank blank_nil]
    exact (Option.some_ne_none _).symm
  induction text using split_lines_induction generalizing left with
  | empty =>
      rcases waits with ⟨front, quoted, gap, wait, split, -, -, breaks, -⟩
      rcases breaks.2 with ⟨c, member, ends⟩
      have plain := unbroken c (by
        rw [List.append_nil] at split
        rw [split]
        simp [member])
      rcases ends with rfl | rfl
      · exact absurd plain (by decide)
      · exact absurd plain (by decide)
  | pair rest induction =>
      rw [splitLines, List.headD_cons, List.append_nil, List.tail_cons] at tame ⊢
      rw [List.forall_mem_cons] at tame
      apply stalls_of_line
      rcases quoted_wait_at_end (by decide) unbroken tame.1 waits with ⟨role, first⟩ | later
      · rw [splitLines, roles_cons, role_of_blank blank_nil] at first
        exact .inl ⟨role, first⟩
      · rw [← List.nil_append ('\n' :: rest)] at later
        rcases quoted_wait_at_end (by decide) (by simp [Unbroken]) tame_nil later with
          ⟨role, -⟩ | behind
        · exact absurd role emptyRole
        · have stalls := induction (by simp [Unbroken]) (tame_head_tail tame.2) behind
          rw [List.nil_append, roles_head_tail] at stalls
          exact .inr stalls
  | single c rest ends lines induction =>
      rw [lines, List.headD_cons, List.append_nil, List.tail_cons] at tame ⊢
      rw [List.forall_mem_cons] at tame
      apply stalls_of_line
      rcases quoted_wait_at_end ends unbroken tame.1 waits with ⟨role, first⟩ | later
      · rw [lines, roles_cons, role_of_blank blank_nil] at first
        exact .inl ⟨role, first⟩
      · have stalls := induction (by simp [Unbroken]) (tame_head_tail tame.2) later
        rw [List.nil_append, roles_head_tail] at stalls
        exact .inr stalls
  | plain c rest inner head tail induction =>
      rw [head, tail, List.append_cons] at tame ⊢
      rw [List.append_cons] at waits
      refine induction ?_ tame waits
      rw [unbroken_append]
      refine ⟨unbroken, fun d member => ?_⟩
      rwa [List.mem_singleton.mp member]

/-- A text in which a prompt has a wait has lines in which one waits. -/
theorem stalls_of_match {text : Text} (tame : ∀ line ∈ splitLines text, Tame line)
    (occurs : promptAndWait.occursIn text = true) : Stalls (roles (splitLines text)) := by
  rcases (prompt_and_wait_iff text).mp occurs with
    ⟨front, quoted, gap, wait, split, prints, text', breaks, ahead⟩
  have waits : QuotedWait NotCalled ([] ++ text) :=
    ⟨front, quoted, gap, wait, split, not_called_of_prints prints, text', breaks, ahead⟩
  have stalls := stalls_of_quoted_wait (by simp [Unbroken]) (tame_head_tail tame) waits
  rwa [List.nil_append, roles_head_tail] at stalls

/-! From lines to their text. -/

theorem join_lines_single (line : Text) : joinLines [line] false = line := by
  simp [joinLines]

theorem wait_ahead_of_line {line : Text} (waits : sleepStatement.startsText line = true)
    {below : Text} (stop : below.head?.any isWordChar = false) :
    ∃ gap wait, line ++ below = gap ++ wait ∧ Blank gap ∧ WaitAhead wait := by
  rcases (starts_text_iff ..).mp waits with ⟨piece, rest, rfl, taken⟩
  simp only [sleepStatement, takes_append, takes_text_start, takes_blanks, takes_any_case,
    takes_word_edge] at taken
  rcases taken with ⟨_, _, rfl, ⟨_, word, rfl, ⟨_, left, rfl, ⟨rfl, -⟩, blank⟩, same⟩, rfl, edge⟩
  rw [last_of_append, sleep_edge same] at edge
  refine ⟨left, word ++ (rest ++ below), by simp, blank, word, rest ++ below, rfl, same, ?_⟩
  cases rest with
  | nil => exact stop
  | cons c rest => exact edge

theorem wait_ahead_of_head {lines : List Text} (first : (roles lines).head? = some .wait) :
    ∃ gap wait, joinLines lines false = gap ++ wait ∧ Blank gap ∧ WaitAhead wait := by
  induction lines with
  | nil => cases first
  | cons line lines induction =>
      rw [roles_cons] at first
      cases role : role? line with
      | none =>
          rw [role] at first
          have blank := (role_none_iff line).mp role
          have nonempty : lines ≠ [] := by
            rintro rfl
            cases first
          rcases induction first with ⟨gap, wait, split, blankGap, ahead⟩
          refine ⟨line ++ '\n' :: gap, wait, ?_, ?_, ahead⟩
          · rw [join_lines_cons line lines false nonempty, split]
            simp
          · have feed : Blank ['\n'] := List.all_eq_true.mp (by decide)
            rw [← List.singleton_append, blank_append, blank_append]
            exact ⟨blank, feed, blankGap⟩
      | some kind =>
          rw [role] at first
          obtain rfl : kind = .wait := Option.some.inj first
          have waits := (role_wait_iff line).mp role
          cases lines with
          | nil =>
              have stop : ([] : Text).head?.any isWordChar = false := rfl
              have ahead := wait_ahead_of_line waits stop
              rwa [List.append_nil, ← join_lines_single line] at ahead
          | cons next lines =>
              rw [join_lines_cons line (next :: lines) false (List.cons_ne_nil _ _)]
              exact wait_ahead_of_line waits (by simp; decide)

theorem quoted_wait_behind {text : Text} (above : Text) (waits : QuotedWait Prints text) :
    QuotedWait Prints (above ++ text) := by
  rcases waits with ⟨front, quoted, gap, wait, rfl, ⟨first, word, space, rfl, print⟩, others⟩
  exact ⟨above ++ (first ++ (word ++ space)), quoted, gap, wait, by simp,
    ⟨above ++ first, word, space, by simp, print⟩, others⟩

/-- Lines in which a prompt waits make a text in which a prompt has a wait. -/
theorem match_of_stalls {lines : List Text} (stalls : Stalls (roles lines)) :
    promptAndWait.occursIn (joinLines lines false) = true := by
  rw [prompt_and_wait_iff]
  induction lines with
  | nil => exact absurd stalls not_stalls_nil
  | cons line lines induction =>
      have nonempty : lines ≠ [] := by
        rintro rfl
        rw [roles_cons] at stalls
        cases role : role? line with
        | none =>
            rw [role] at stalls
            exact absurd stalls not_stalls_nil
        | some kind =>
            rw [role, Option.toList_some, List.singleton_append, stalls_cons] at stalls
            rcases stalls with ⟨-, first⟩ | later
            · cases first
            · exact absurd later not_stalls_nil
      have later : Stalls (roles lines) →
          QuotedWait Prints (joinLines (line :: lines) false) := by
        intro stalls
        rw [join_lines_cons line lines false nonempty, List.append_cons]
        exact quoted_wait_behind _ (induction stalls)
      rw [roles_cons] at stalls
      cases role : role? line with
      | none =>
          rw [role] at stalls
          exact later stalls
      | some kind =>
          rw [role, Option.toList_some, List.singleton_append, stalls_cons] at stalls
          rcases stalls with ⟨rfl, first⟩ | behind
          · rcases prompt_shape ((role_prompt_iff line).mp role) with
              ⟨left, word, gap, form, more, tail, rfl, blank, print, some, blankGap, key, closed,
                blankTail⟩
            rcases wait_ahead_of_head first with ⟨under, wait, split, blankUnder, ahead⟩
            have feed : Blank ['\n'] := List.all_eq_true.mp (by decide)
            refine ⟨left ++ (word ++ gap), form ++ more, tail ++ '\n' :: under, wait, ?_,
              ⟨left, word, gap, rfl, print, some, blankGap⟩, ⟨?_, form, more, rfl, key⟩,
              ⟨?_, '\n', by simp, .inr rfl⟩, ahead⟩
            · rw [join_lines_cons _ lines false nonempty, split]
              simp
            · rw [List.mem_append, not_or]
              exact ⟨foreign_to_piece key (by decide), closed⟩
            · rw [← List.singleton_append, blank_append, blank_append]
              exact ⟨blankTail, feed, blankUnder⟩
          · exact later behind

/-- Between lines of which none hides a prompt the pattern matches exactly when a prompt waits. -/
theorem joined_match_iff {lines : List Text} (unbroken : AllUnbroken lines)
    (tame : ∀ line ∈ lines, Tame line) :
    promptAndWait.occursIn (joinLines lines false) = true ↔ Stalls (roles lines) := by
  refine ⟨fun occurs => ?_, match_of_stalls⟩
  have agree := split_join_agree lines false unbroken
  have tameSplit := @agree_but_end_iff (fun lines => ∀ line ∈ lines, Tame line) (by
    intro lines
    rw [List.forall_mem_append, List.forall_mem_singleton]
    exact and_iff_left tame_nil) _ _ agree
  have stallsSplit := @agree_but_end_iff (fun lines => Stalls (roles lines)) (by
    intro lines
    rw [roles_concat, role_of_blank blank_nil, Option.toList_none, List.append_nil]) _ _ agree
  exact stallsSplit.mp (stalls_of_match (tameSplit.mpr tame) occurs)

end BasicBench.Instrument
