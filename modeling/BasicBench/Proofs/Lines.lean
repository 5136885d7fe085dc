import BasicBench.Text.Line

/-!
Splitting a text into lines and joining lines into a text undo each other, but for a blank line
at the end: lines that are joined without a closing line feed lose one, since a text that stops
right after a line feed has no further line. A text whose only line ends are line feeds is the
join of its lines.
-/

set_option autoImplicit false

namespace BasicBench.Text

/-- No character of the text ends a line. -/
def Unbroken (text : Text) : Prop := ∀ c ∈ text, isLineEnd c = false

instance (text : Text) : Decidable (Unbroken text) :=
  decidable_of_iff ((text.all fun c => !isLineEnd c) = true) (by simp [Unbroken])

theorem unbroken_nil : Unbroken [] := fun _ member => absurd member List.not_mem_nil

theorem unbroken_append (left right : Text) :
    Unbroken (left ++ right) ↔ Unbroken left ∧ Unbroken right := by
  simp [Unbroken, or_imp, forall_and]

theorem unbroken_of_sublist {part text : Text} (sublist : part.Sublist text)
    (unbroken : Unbroken text) : Unbroken part :=
  fun c member => unbroken c (sublist.subset member)

theorem no_feed_of_unbroken {text : Text} (unbroken : Unbroken text) : '\n' ∉ text := by
  intro member
  exact absurd (unbroken '\n' member) (by decide)

/-- The same lines, up to one blank line at the end. -/
def AgreeButEnd (left right : List Text) : Prop :=
  left = right ∨ right = left ++ [[]] ∨ left = right ++ [[]]

theorem agree_but_end_iff {property : List Text → Prop}
    (ignores : ∀ lines, property (lines ++ [[]]) ↔ property lines) {left right : List Text}
    (agree : AgreeButEnd left right) : property left ↔ property right := by
  rcases agree with rfl | rfl | rfl
  · exact Iff.rfl
  · exact (ignores left).symm
  · exact ignores right

theorem split_lines_cons (c : Char) (rest : Text) (plain : isLineEnd c = false) :
    splitLines (c :: rest) = match splitLines rest with
      | [] => [[c]]
      | line :: lines => (c :: line) :: lines := by
  rw [splitLines]
  · rw [plain]
    rfl
  · rintro _ rfl
    exact absurd plain (by decide)

theorem split_lines_newline (rest : Text) : splitLines ('\n' :: rest) = [] :: splitLines rest := by
  rw [splitLines]
  · rw [show isLineEnd '\n' = true by decide, if_pos rfl]
  · rintro _ same
    exact absurd same (by decide)

theorem split_lines_append_newline (line rest : Text) (unbroken : Unbroken line) :
    splitLines (line ++ '\n' :: rest) = line :: splitLines rest := by
  induction line with
  | nil => exact split_lines_newline rest
  | cons c line induction =>
      rw [List.cons_append, split_lines_cons c _ (unbroken c (by simp)),
        induction fun d member => unbroken d (by simp [member])]

theorem split_lines_unbroken (line : Text) (unbroken : Unbroken line) :
    splitLines line = if line = [] then [] else [line] := by
  induction line with
  | nil => rfl
  | cons c line induction =>
      rw [split_lines_cons c line (unbroken c (by simp)),
        induction fun d member => unbroken d (by simp [member])]
      by_cases empty : line = [] <;> simp [empty]

theorem mem_split_lines_unbroken (text line : Text) (member : line ∈ splitLines text) :
    Unbroken line := by
  fun_induction splitLines text generalizing line with
  | case1 => simp at member
  | case2 rest induction =>
      rcases List.mem_cons.mp member with rfl | later
      · simp [Unbroken]
      · exact induction line later
  | case3 c rest _ ends induction =>
      rcases List.mem_cons.mp member with rfl | later
      · simp [Unbroken]
      · exact induction line later
  | case4 c rest _ plain empty induction =>
      obtain rfl := List.mem_singleton.mp member
      simpa [Unbroken] using plain
  | case5 c rest _ plain first others split induction =>
      rw [split] at induction
      rcases List.mem_cons.mp member with rfl | later
      · intro d inside
        rcases List.mem_cons.mp inside with rfl | behind
        · simpa using plain
        · exact induction first (by simp) d behind
      · exact induction line (by simp [later])

theorem join_lines_cons (line : Text) (lines : List Text) (closing : Bool)
    (nonempty : lines ≠ []) :
    joinLines (line :: lines) closing = line ++ '\n' :: joinLines lines closing := by
  cases lines with
  | nil => exact absurd rfl nonempty
  | cons next lines => cases closing <;> simp [joinLines, List.intercalate_cons_cons]

/-- Joining lines and splitting the text gives the lines back, a blank line at the end excepted. -/
theorem split_join_agree (lines : List Text) (closing : Bool)
    (unbroken : ∀ line ∈ lines, Unbroken line) :
    AgreeButEnd (splitLines (joinLines lines closing)) lines := by
  induction lines with
  | nil => cases closing <;> simp [joinLines, AgreeButEnd, splitLines, split_lines_newline]
  | cons line lines induction =>
      have lineUnbroken := unbroken line (by simp)
      by_cases last : lines = []
      · subst last
        cases closing with
        | true =>
            have split := split_lines_append_newline line [] lineUnbroken
            simp only [joinLines, List.intercalate_singleton, if_true, split]
            exact .inl rfl
        | false =>
            simp only [joinLines, List.intercalate_singleton, Bool.false_eq_true, if_false,
              split_lines_unbroken line lineUnbroken]
            by_cases empty : line = [] <;> simp [AgreeButEnd, empty]
      · rw [join_lines_cons line lines closing last,
          split_lines_append_newline line _ lineUnbroken]
        rcases induction fun line member => unbroken line (by simp [member]) with
          same | longer | shorter
        · exact .inl (congrArg (line :: ·) same)
        · exact .inr (.inl (congrArg (line :: ·) longer))
        · exact .inr (.inr (congrArg (line :: ·) shorter))

/-- A text whose lines are ended by line feeds alone. -/
def Plain (text : Text) : Prop := ∀ c ∈ text, isLineEnd c = true → c = '\n'

theorem join_lines_plain (lines : List Text) (closing : Bool)
    (unbroken : ∀ line ∈ lines, Unbroken line) : Plain (joinLines lines closing) := by
  have joined : Plain (['\n'].intercalate lines) := by
    induction lines with
    | nil => simp [Plain]
    | cons line lines induction =>
        have others := induction fun line member => unbroken line (by simp [member])
        cases lines with
        | nil =>
            intro c member ends
            rw [List.intercalate_singleton] at member
            rw [unbroken line (by simp) c member] at ends
            exact absurd ends (by decide)
        | cons next lines =>
            intro c member ends
            rw [List.intercalate_cons_cons, List.mem_append, List.mem_append] at member
            rcases member with (inside | feed) | later
            · rw [unbroken line (by simp) c inside] at ends
              exact absurd ends (by decide)
            · exact List.mem_singleton.mp feed
            · exact others c later ends
  cases closing with
  | false => exact joined
  | true =>
      intro c member ends
      rcases List.mem_append.mp member with inside | feed
      · exact joined c inside ends
      · exact List.mem_singleton.mp feed

theorem ends_with_newline_cons (c d : Char) (rest : Text) :
    endsWithNewline (c :: d :: rest) = endsWithNewline (d :: rest) := by
  simp [endsWithNewline]

theorem split_lines_cons_ne_nil (c : Char) (rest : Text) (plain : Plain (c :: rest)) :
    splitLines (c :: rest) ≠ [] := by
  by_cases ends : isLineEnd c = true
  · obtain rfl := plain c (by simp) ends
    simp [split_lines_newline]
  · rw [split_lines_cons c rest (by simpa using ends)]
    cases splitLines rest <;> simp

/-- A text with line feeds as its only line ends is the join of its lines. -/
theorem join_split (text : Text) (plain : Plain text) :
    joinLines (splitLines text) (endsWithNewline text) = text := by
  induction text with
  | nil => rfl
  | cons c text induction =>
      have later : Plain text := fun d member => plain d (by simp [member])
      have rest := induction later
      cases text with
      | nil =>
          by_cases ends : isLineEnd c = true
          · obtain rfl := plain c (by simp) ends
            rfl
          · have notFeed : c ≠ '\n' := by
              rintro rfl
              exact ends (by decide)
            rw [split_lines_cons c [] (by simpa using ends)]
            simp [splitLines, endsWithNewline, notFeed, joinLines]
      | cons d text =>
          have some := split_lines_cons_ne_nil d text later
          rw [ends_with_newline_cons]
          by_cases ends : isLineEnd c = true
          · obtain rfl := plain c (by simp) ends
            rw [split_lines_newline, join_lines_cons _ _ _ some, rest, List.nil_append]
          · rw [split_lines_cons c (d :: text) (by simpa using ends)]
            obtain ⟨line, lines, split⟩ := List.exists_cons_of_ne_nil some
            rw [split] at rest ⊢
            change joinLines ((c :: line) :: lines) _ = _
            generalize endsWithNewline (d :: text) = closing at rest ⊢
            by_cases last : lines = []
            · subst last
              rw [← rest]
              cases closing <;> simp [joinLines]
            · rw [join_lines_cons _ _ _ last] at rest ⊢
              rw [← rest, List.cons_append]

end BasicBench.Text
