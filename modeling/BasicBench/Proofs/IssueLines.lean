import BasicBench.Instrument.Issue
import BasicBench.Proofs.Widths
import BasicBench.Proofs.WordRuns
import Mathlib.Data.Bool.AllAny
import Mathlib.Tactic.ByContra

/-!
The lines of issues. An issue names the line on which its first match begins. For a prompt, a file
number and an image the match begins with the word itself, so the word stands on that line. The
match for an exit begins with the blanks in front of it, and blank lines are blanks too: the line is
the first of the blank lines right above the exit, and the line of the exit when there is none.
-/

set_option autoImplicit false

namespace BasicBench

namespace Text

/-! Texts whose lines are ended by line feeds. -/

/-- Lines, each with a line feed behind it. -/
def closedLines (lines : List Text) : Text := lines.flatMap (· ++ ['\n'])

theorem closed_lines_cons (line : Text) (lines : List Text) :
    closedLines (line :: lines) = line ++ '\n' :: closedLines lines := by
  simp [closedLines]

theorem closed_lines_append (above below : List Text) :
    closedLines (above ++ below) = closedLines above ++ closedLines below :=
  List.flatMap_append

theorem split_lines_closed (lines : List Text) (text : Text)
    (unbroken : ∀ line ∈ lines, Unbroken line) :
    splitLines (closedLines lines ++ text) = lines ++ splitLines text := by
  induction lines with
  | nil => rfl
  | cons line lines induction =>
      rw [List.forall_mem_cons] at unbroken
      rw [closed_lines_cons, List.append_assoc, List.cons_append,
        split_lines_append_newline line _ unbroken.1, induction unbroken.2, List.cons_append]

theorem count_closed_lines (lines : List Text) (unbroken : ∀ line ∈ lines, Unbroken line) :
    (closedLines lines).count '\n' = lines.length := by
  induction lines with
  | nil => rfl
  | cons line lines induction =>
      rw [List.forall_mem_cons] at unbroken
      rw [closed_lines_cons, List.count_append, List.count_cons_self, induction unbroken.2,
        List.count_eq_zero_of_not_mem (no_feed_of_unbroken unbroken.1), List.length_cons,
        Nat.zero_add]

theorem last_of_closed_lines (lines : List Text) :
    (lastOf none (closedLines lines)).all (· == '\n') = true := by
  rcases List.eq_nil_or_concat lines with rfl | ⟨others, line, rfl⟩
  · rfl
  · rw [List.concat_eq_append, closed_lines_append, closed_lines_cons, last_of_append,
      last_of_append]
    rfl

theorem plain_append (left right : Text) : Plain (left ++ right) ↔ Plain left ∧ Plain right := by
  simp [Plain, or_imp, forall_and]

/-- Such a text is made of closed lines and what stands on the line behind them. -/
theorem plain_split (text : Text) (plain : Plain text) :
    ∃ lines front, text = closedLines lines ++ front ∧ (∀ line ∈ lines, Unbroken line) ∧
      Unbroken front := by
  induction text with
  | nil => exact ⟨[], [], rfl, by simp, by simp [Unbroken]⟩
  | cons c text induction =>
      have ⟨here, later⟩ := List.forall_mem_cons.mp plain
      obtain ⟨lines, front, rfl, unbroken, frontUnbroken⟩ := induction later
      cases ends : isLineEnd c with
      | true =>
          obtain rfl := here ends
          exact ⟨[] :: lines, front, rfl, List.forall_mem_cons.mpr ⟨by simp [Unbroken], unbroken⟩,
            frontUnbroken⟩
      | false =>
          cases lines with
          | nil =>
              exact ⟨[], c :: front, rfl, unbroken, List.forall_mem_cons.mpr ⟨ends, frontUnbroken⟩⟩
          | cons line lines =>
              have ⟨first, others⟩ := List.forall_mem_cons.mp unbroken
              have longer : Unbroken (c :: line) := List.forall_mem_cons.mpr ⟨ends, first⟩
              exact ⟨(c :: line) :: lines, front, by simp [closed_lines_cons],
                List.forall_mem_cons.mpr ⟨longer, others⟩, frontUnbroken⟩

/-- The first line goes on with a piece of what stands behind its beginning. -/
theorem first_line_split (front behind : Text) (unbroken : Unbroken front) (nonempty : front ≠ [])
    (plain : Plain behind) :
    ∃ shown later, splitLines (front ++ behind) = (front ++ shown) :: later ∧ shown <+: behind := by
  obtain ⟨lines, tail, rfl, linesUnbroken, tailUnbroken⟩ := plain_split behind plain
  cases lines with
  | nil =>
      refine ⟨tail, [], ?_, List.prefix_rfl⟩
      rw [closedLines, List.flatMap_nil, List.nil_append,
        split_lines_unbroken _ ((unbroken_append ..).mpr ⟨unbroken, tailUnbroken⟩), if_neg]
      simp [nonempty]
  | cons line lines =>
      have lineUnbroken := (List.forall_mem_cons.mp linesUnbroken).1
      refine ⟨line, splitLines (closedLines lines ++ tail), ?_, ?_⟩
      · rw [closed_lines_cons, List.append_assoc, List.cons_append, ← List.append_assoc,
          split_lines_append_newline _ _ ((unbroken_append ..).mpr ⟨unbroken, lineUnbroken⟩)]
      · rw [closed_lines_cons, List.append_assoc]
        exact List.prefix_append ..

namespace Pattern

theorem unbroken_of_letters {word form : Text} (letters : word.all isWordChar = true)
    (same : SameText word form) : Unbroken form := by
  intro c member
  have letter := Instrument.spelled_letters letters same c member
  cases ends : isLineEnd c with
  | false => rfl
  | true => rw [not_word_char_of_space c (isSpace_of_isLineEnd c ends)] at letter; cases letter

/-! First matches. -/

@[simp] theorem takes_line_start (before : Option Char) (piece rest : Text) :
    lineStart.Takes before piece rest ↔ piece = [] ∧ before.all (· == '\n') = true := by
  simp [Takes, Reads]

/-- Behind `above` the pattern matches, and at no place before. -/
structure FirstMatch (pattern : Pattern) (above rest : Text) : Prop where
  here : ∃ piece behind, rest = piece ++ behind ∧ pattern.Takes (lastOf none above) piece behind
  first : ∀ front piece behind, front ++ (piece ++ behind) = above ++ rest →
    front.length < above.length → ¬pattern.Takes (lastOf none front) piece behind

theorem find_from_first {pattern : Pattern} {offset : Nat} {before : Option Char} {text : Text}
    {found : Found} (matched : pattern.findFrom offset before text = some found) :
    ∃ above rest, FoundAt pattern offset before text found above rest ∧
      ∀ front piece behind, front ++ (piece ++ behind) = text → front.length < above.length →
        ¬pattern.Takes (lastOf before front) piece behind := by
  induction text generalizing offset before with
  | nil =>
      obtain ⟨stop, stopped, rfl⟩ := Option.map_eq_some_iff.mp matched
      exact ⟨[], stop.rest, found_at_stop stopped,
        fun _ _ _ _ short => absurd short (Nat.not_lt_zero _)⟩
  | cons c text induction =>
      rw [findFrom] at matched
      split at matched
      next stop stopped =>
        cases matched
        exact ⟨[], stop.rest, found_at_stop stopped,
          fun _ _ _ _ short => absurd short (Nat.not_lt_zero _)⟩
      next stopped =>
        obtain ⟨above, rest, later, first⟩ := induction matched
        refine ⟨c :: above, rest, found_at_behind later, fun front piece behind split short => ?_⟩
        cases front with
        | nil => exact (stop_none_iff ..).mp stopped piece behind split.symm
        | cons d front =>
            obtain ⟨rfl, behindSplit⟩ := List.cons.inj split
            rw [last_of_cons]
            exact first front piece behind behindSplit (by simpa using short)

theorem find_first {pattern : Pattern} {text : Text} {found : Found}
    (matched : pattern.find? text = some found) :
    ∃ above rest, text = above ++ rest ∧ found.offset = above.length ∧
      FirstMatch pattern above rest := by
  obtain ⟨above, rest, ⟨split, offset, reads⟩, first⟩ := find_from_first matched
  rw [Nat.zero_add] at offset
  exact ⟨above, found.text ++ rest, split, offset, ⟨found.text, rest, rfl, found.groups, reads⟩,
    split ▸ first⟩

/-- The first of all matches is the leftmost one. -/
theorem find_of_find_all {pattern : Pattern} {offset : Nat} {before : Option Char} {text : Text}
    {first : Found} {others : List Found}
    (all : pattern.findAllFrom 0 offset before text = first :: others) :
    pattern.findFrom offset before text = some first := by
  induction text generalizing offset before with
  | nil => cases all
  | cons c text induction =>
      simp only [findAllFrom] at all
      rw [findFrom]
      split at all
      next stop stopped => exact congrArg some (List.cons.inj all).1
      next => exact induction all

/-- Every piece that the pattern takes begins with the word. -/
def OpensWith (word : Text) (pattern : Pattern) : Prop :=
  ∀ before piece rest, pattern.Takes before piece rest → Opens word piece

theorem opens_with_append {word : Text} {first second : Pattern} (opens : OpensWith word first) :
    OpensWith word (first ++ second) := by
  intro before piece rest taken
  obtain ⟨left, right, rfl, early, -⟩ := (takes_append ..).mp taken
  obtain ⟨form, more, rfl, same⟩ := opens _ _ _ early
  exact ⟨form, more ++ right, List.append_assoc .., same⟩

theorem opens_with_any_case (word : String) : OpensWith word.toList (anyCase word) := by
  intro before piece rest taken
  exact ⟨piece, [], (List.append_nil _).symm, (takes_any_case ..).mp taken⟩

theorem opens_with_keyword (word : String) : OpensWith word.toList (keyword word) := by
  refine opens_with_append fun before piece rest taken => ?_
  obtain ⟨left, right, rfl, edge, same⟩ := (takes_append ..).mp taken
  obtain ⟨rfl, -⟩ := (takes_word_edge ..).mp edge
  exact ⟨right, [], by simp, (takes_any_case ..).mp same⟩

end Pattern
end Text

namespace Instrument

open Text Pattern

/-! Places on lines. -/

/-- The first match of a pattern stands on the line with this number, and the word it begins with is
on this line. -/
def FirstOnLine (pattern : Pattern) (word : String) (program : Text) (number : Nat) : Prop :=
  ∃ earlier front form more later rest,
    splitLines program = earlier ++ (front ++ (form ++ more)) :: later ∧
    number = earlier.length + 1 ∧ SameText word.toList form ∧
    program = (closedLines earlier ++ front) ++ (form ++ (more ++ rest)) ∧
    FirstMatch pattern (closedLines earlier ++ front) (form ++ (more ++ rest))

theorem line_number_behind (above rest : Text) (lines : List Text) (front : Text)
    (split : above = closedLines lines ++ front) (unbroken : ∀ line ∈ lines, Unbroken line)
    (frontUnbroken : Unbroken front) :
    lineNumberAt (above ++ rest) above.length = lines.length + 1 := by
  rw [lineNumberAt, List.take_left, split, List.count_append, count_closed_lines lines unbroken,
    List.count_eq_zero_of_not_mem (no_feed_of_unbroken frontUnbroken), Nat.add_zero]

/-- A match that begins with a word begins on the line of this word. -/
theorem first_on_line {pattern : Pattern} {word : String} {program : Text} {found : Found}
    (plain : Plain program) (letters : word.toList.all isWordChar = true)
    (nonempty : word.toList ≠ []) (opens : OpensWith word.toList pattern)
    (matched : pattern.find? program = some found) :
    FirstOnLine pattern word program (lineNumberAt program found.offset) := by
  obtain ⟨above, rest, rfl, offset, first⟩ := find_first matched
  obtain ⟨piece, behind, rfl, taken⟩ := first.here
  obtain ⟨form, tail, rfl, same⟩ := opens _ _ _ taken
  rw [List.append_assoc] at plain first ⊢
  generalize tail ++ behind = below at plain first ⊢
  obtain ⟨abovePlain, restPlain⟩ := (plain_append ..).mp plain
  obtain ⟨lines, front, rfl, unbroken, frontUnbroken⟩ := plain_split above abovePlain
  have formNonempty : form ≠ [] := by
    rintro rfl
    exact nonempty (List.forall₂_nil_right_iff.mp same)
  obtain ⟨shown, later, split, rest, rfl⟩ := first_line_split (front ++ form) below
    ((unbroken_append ..).mpr ⟨frontUnbroken, unbroken_of_letters letters same⟩)
    (by simp [formNonempty]) ((plain_append ..).mp restPlain).2
  refine ⟨lines, front, form, shown, later, rest, ?_, ?_, same, rfl, first⟩
  · rw [List.append_assoc, split_lines_closed lines _ unbroken, ← List.append_assoc front, split,
      List.append_assoc]
  · rw [offset, line_number_behind _ _ lines front rfl unbroken frontUnbroken]

/-! Exits. -/

/-- The line begins with the word that ends a program. -/
def LeadsWithSystem (line : Text) : Prop :=
  ∃ left word rest, line = left ++ (word ++ rest) ∧ Blank left ∧ SameText "SYSTEM".toList word ∧
    rest.head?.any isWordChar = false

theorem system_edge {word : Text} (same : SameText "SYSTEM".toList word) (before : Option Char)
    (rest : Text) : (lastOf before word).any isWordChar ≠ rest.head?.any isWordChar ↔
      rest.head?.any isWordChar = false :=
  edge_behind_letters (by decide) (by decide) same before rest

theorem system_statement_takes (before : Option Char) (piece rest : Text) :
    systemStatement.Takes before piece rest ↔ before.all (· == '\n') = true ∧
      ∃ left word, piece = left ++ word ∧ Blank left ∧ SameText "SYSTEM".toList word ∧
        rest.head?.any isWordChar = false := by
  simp only [systemStatement, takes_append, takes_line_start, takes_blanks, takes_any_case,
    takes_word_edge]
  constructor
  · rintro ⟨_, _, rfl, ⟨_, word, rfl, ⟨_, left, rfl, ⟨rfl, start⟩, blank⟩, same⟩, rfl, edge⟩
    refine ⟨start, left, word, by simp, blank, same, ?_⟩
    rwa [last_of_append, system_edge same] at edge
  · rintro ⟨start, left, word, rfl, blank, same, edge⟩
    refine ⟨left ++ word, [], by simp,
      ⟨left, word, rfl, ⟨[], left, rfl, ⟨rfl, start⟩, blank⟩, same⟩, rfl, ?_⟩
    rwa [last_of_append, system_edge same]

theorem leads_with_system_iff (line : Text) :
    systemStatement.startsText line = true ↔ LeadsWithSystem line := by
  rw [starts_text_iff]
  simp only [system_statement_takes]
  constructor
  · rintro ⟨_, rest, rfl, -, left, word, rfl, blank, same, edge⟩
    exact ⟨left, word, rest, List.append_assoc .., blank, same, edge⟩
  · rintro ⟨left, word, rest, rfl, blank, same, edge⟩
    exact ⟨left ++ word, rest, by simp, rfl, left, word, rfl, blank, same, edge⟩

instance (line : Text) : Decidable (LeadsWithSystem line) :=
  decidable_of_iff _ (leads_with_system_iff line)

/-- The first line that begins with an exit has this number. -/
def FirstExitLine (program : Text) (number : Nat) : Prop :=
  ∃ earlier line later, splitLines program = earlier ++ line :: later ∧
    number = earlier.length + 1 ∧ LeadsWithSystem line ∧ ∀ other ∈ earlier, ¬LeadsWithSystem other

/-- The first exit stands right below these blank lines, the first of which has this number. -/
structure ExitBelow (program : Text) (number : Nat) (gap : List Text) : Prop where
  blank : ∀ line ∈ gap, Blank line
  lines : ∃ earlier line later, splitLines program = earlier ++ (gap ++ line :: later) ∧
    number = earlier.length + 1 ∧ LeadsWithSystem line ∧
    (∀ other ∈ earlier, ¬LeadsWithSystem other) ∧ ∀ other ∈ earlier.getLast?, ¬Blank other

theorem break_behind {more behind : Text} (edge : behind.head?.any isWordChar = false)
    (stop : more.head?.any isWordChar = false) : (more ++ behind).head?.any isWordChar = false := by
  cases more with
  | nil => exact edge
  | cons c more => exact stop

/-- Above the first match no exit stands behind blanks at the beginning of a line. -/
theorem no_exit_above {earlier above below : List Text} {line rest left word behind : Text}
    (first : FirstMatch systemStatement (closedLines earlier) rest)
    (split : earlier = above ++ line :: below)
    (shape : line ++ '\n' :: (closedLines below ++ rest) = left ++ (word ++ behind))
    (blank : Blank left) (same : SameText "SYSTEM".toList word)
    (edge : behind.head?.any isWordChar = false) : False := by
  have exits := (system_statement_takes ..).mpr
    ⟨last_of_closed_lines above, left, word, rfl, blank, same, edge⟩
  refine first.first (closedLines above) (left ++ word) behind ?_ ?_ exits
  · rw [split, closed_lines_append, closed_lines_cons, List.append_assoc left, ← shape]
    simp only [List.append_assoc, List.cons_append]
  · rw [split, closed_lines_append, closed_lines_cons, List.length_append, List.length_append,
      List.length_cons]
    omega

/-- The match for an exit begins at the beginning of a line, and goes over the blank lines in front
of the exit. No line further up leads to it over blanks alone. -/
theorem exit_below {program : Text} {found : Found} (plain : Plain program)
    (matched : systemStatement.find? program = some found) :
    ∃ gap, ExitBelow program (lineNumberAt program found.offset) gap := by
  obtain ⟨above, rest, rfl, offset, first⟩ := find_first matched
  obtain ⟨piece, behind, rfl, taken⟩ := first.here
  obtain ⟨start, blanks, word, rfl, blank, same, edge⟩ := (system_statement_takes ..).mp taken
  simp only [plain_append] at plain
  obtain ⟨abovePlain, ⟨blanksPlain, -⟩, behindPlain⟩ := plain
  obtain ⟨earlier, front, rfl, unbroken, frontUnbroken⟩ := plain_split above abovePlain
  obtain ⟨gap, left, rfl, gapUnbroken, leftUnbroken⟩ := plain_split blanks blanksPlain
  obtain rfl : front = [] := by
    by_contra nonempty
    obtain ⟨c, member, last⟩ := last_of_mem (lastOf none (closedLines earlier)) front nonempty
    rw [last_of_append, last, Option.all_some, beq_iff_eq] at start
    exact no_feed_of_unbroken frontUnbroken (start ▸ member)
  have wordNonempty : word ≠ [] := by
    rintro rfl
    cases List.forall₂_nil_right_iff.mp same
  obtain ⟨shown, later, split, tail, rfl⟩ := first_line_split (left ++ word) behind
    ((unbroken_append ..).mpr ⟨leftUnbroken, unbroken_of_letters (by decide) same⟩)
    (by simp [wordNonempty]) behindPlain
  have ⟨gapBlank, leftBlank⟩ := (blank_append ..).mp blank
  have shownEdge : shown.head?.any isWordChar = false := by
    cases shown with
    | nil => rfl
    | cons c shown => exact edge
  rw [List.append_nil] at first offset ⊢
  refine ⟨gap, fun line member c inside => gapBlank c ?_, earlier, left ++ (word ++ shown), later,
    ?_, ?_, ⟨left, word, shown, rfl, leftBlank, same, shownEdge⟩, ?_, ?_⟩
  · exact List.mem_flatMap.mpr ⟨line, member, List.mem_append_left _ inside⟩
  · rw [split_lines_closed earlier _ unbroken]
    simp only [List.append_assoc] at split ⊢
    rw [split_lines_closed gap _ gapUnbroken, split]
  · rw [offset, line_number_behind _ _ earlier [] (by simp) unbroken (by simp [Unbroken])]
  · rintro line member ⟨left', word', more, rfl, blank', same', edge'⟩
    obtain ⟨others, below, split'⟩ := List.append_of_mem member
    have shape (text : Text) : (left' ++ (word' ++ more)) ++ '\n' :: text =
        left' ++ (word' ++ (more ++ '\n' :: text)) := by simp
    exact no_exit_above first split' (shape _) blank' same' (break_behind rfl edge')
  · intro line last lineBlank
    obtain ⟨others, split'⟩ := List.getLast?_eq_some_iff.mp last
    have shape : line ++ '\n' :: (closedLines [] ++
        ((closedLines gap ++ left) ++ word ++ (shown ++ tail))) =
        (line ++ '\n' :: (closedLines gap ++ left)) ++ (word ++ (shown ++ tail)) := by
      simp [closedLines]
    have feedBlank : Blank (line ++ '\n' :: (closedLines gap ++ left)) := by
      refine (blank_append ..).mpr ⟨lineBlank, ?_⟩
      exact List.forall_mem_cons.mpr ⟨by decide, blank⟩
    exact no_exit_above first split' shape feedBlank same edge

/-- The first line that begins with an exit stands right below a blank line. -/
def ExitUnderBlank (program : Text) : Prop :=
  ∃ earlier blankLine line later, splitLines program = earlier ++ blankLine :: line :: later ∧
    Blank blankLine ∧ LeadsWithSystem line ∧ ∀ other ∈ earlier, ¬LeadsWithSystem other

theorem not_exit_of_blank {line : Text} (blank : Blank line) : ¬LeadsWithSystem line := by
  rintro ⟨left, word, rest, rfl, -, same, -⟩
  cases same with
  | cons letter others =>
      have space := blank _ (List.mem_append_right left List.mem_cons_self)
      rw [← space_of_same_letter letter] at space
      cases space

theorem first_exit_unique {above above' below below' : List Text} {line line' : Text}
    (split : above ++ line :: below = above' ++ line' :: below') (leads : LeadsWithSystem line)
    (leads' : LeadsWithSystem line') (none : ∀ other ∈ above, ¬LeadsWithSystem other)
    (none' : ∀ other ∈ above', ¬LeadsWithSystem other) : above = above' ∧ line = line' := by
  rcases List.append_eq_append_iff.mp split with ⟨between, rfl, rest⟩ | ⟨between, rfl, rest⟩
  · cases between with
    | nil => exact ⟨(List.append_nil _).symm, (List.cons.inj rest).1⟩
    | cons other between =>
        obtain ⟨rfl, -⟩ := List.cons.inj rest
        exact absurd leads (none' line (by simp))
  · cases between with
    | nil => exact ⟨List.append_nil _, (List.cons.inj rest).1.symm⟩
    | cons other between =>
        obtain ⟨rfl, -⟩ := List.cons.inj rest
        exact absurd leads' (none line' (by simp))

namespace ExitBelow

variable {program : Text} {number : Nat} {gap : List Text}

theorem number_le (exit : ExitBelow program number gap) :
    1 ≤ number ∧ number ≤ (splitLines program).length := by
  obtain ⟨-, earlier, line, later, split, rfl, -⟩ := exit
  rw [split, List.length_append, List.length_append, List.length_cons]
  omega

/-- The lines above the exit are no exits. -/
theorem quiet_above {earlier : List Text} (blank : ∀ line ∈ gap, Blank line)
    (none : ∀ other ∈ earlier, ¬LeadsWithSystem other) :
    ∀ other ∈ earlier ++ gap, ¬LeadsWithSystem other := by
  intro other member
  rcases List.mem_append.mp member with above | inside
  · exact none other above
  · exact not_exit_of_blank (blank other inside)

theorem first_exit_iff (exit : ExitBelow program number gap) :
    FirstExitLine program number ↔ gap = [] := by
  obtain ⟨blank, earlier, line, later, split, rfl, leads, none, -⟩ := exit
  constructor
  · rintro ⟨above, line', below, split', number, leads', none'⟩
    rw [split', ← List.append_assoc] at split
    obtain ⟨rfl, -⟩ := first_exit_unique split leads' leads none' (quiet_above blank none)
    rw [List.length_append] at number
    exact List.length_eq_zero_iff.mp (by omega)
  · rintro rfl
    exact ⟨earlier, line, later, split, rfl, leads, none⟩

theorem under_blank_iff (exit : ExitBelow program number gap) :
    ExitUnderBlank program ↔ gap ≠ [] := by
  obtain ⟨blank, earlier, line, later, split, rfl, leads, none, solid⟩ := exit
  constructor
  · rintro ⟨above, blankLine, line', below, split', lineBlank, leads', none'⟩ rfl
    have quiet : ∀ other ∈ above ++ [blankLine], ¬LeadsWithSystem other :=
      quiet_above (List.forall_mem_singleton.mpr lineBlank) none'
    have same : (above ++ [blankLine]) ++ line' :: below = earlier ++ line :: later := by
      rw [← List.nil_append (line :: later), ← split, split', List.append_assoc]
      rfl
    obtain ⟨rfl, -⟩ := first_exit_unique same leads' leads quiet none
    exact solid blankLine (by simp) lineBlank
  · intro some
    obtain ⟨others, last, rfl⟩ := List.eq_nil_or_concat gap |>.resolve_left some
    rw [List.concat_eq_append] at split blank
    refine ⟨earlier ++ others, last, line, later, ?_, blank last (by simp), leads,
      quiet_above (fun line member => blank line (by simp [member])) none⟩
    rw [split]
    simp

end ExitBelow

/-! Issues. -/

/-- What an issue of each kind is about begins on the line with this number. -/
def OnConstruct (program : Text) (number : Nat) : IssueKind → Prop
  | .consoleVisibility => False
  | .flowControl => FirstOnLine promptAndWait "PRINT" program number
  | .fileHandle => FirstOnLine (keyword "FREEFILE") "FREEFILE" program number
  | .graphicsContext => FirstOnLine (keyword "_NEWIMAGE") "_NEWIMAGE" program number
  | .processManagement => FirstExitLine program number

theorem number_le_of_split {program : Text} {number : Nat} {earlier later : List Text} {line : Text}
    (split : splitLines program = earlier ++ line :: later) (place : number = earlier.length + 1) :
    1 ≤ number ∧ number ≤ (splitLines program).length := by
  rw [split, List.length_append, List.length_cons]
  omega

theorem number_le_of_construct {program : Text} {number : Nat} {kind : IssueKind}
    (placed : OnConstruct program number kind) :
    1 ≤ number ∧ number ≤ (splitLines program).length := by
  cases kind with
  | consoleVisibility => exact placed.elim
  | flowControl | fileHandle | graphicsContext =>
      obtain ⟨earlier, front, form, more, later, rest, split, place, -⟩ := placed
      exact number_le_of_split split place
  | processManagement =>
      obtain ⟨earlier, line, later, split, place, -⟩ := placed
      exact number_le_of_split split place

theorem prompt_opens : OpensWith "PRINT".toList promptAndWait := by
  unfold promptAndWait
  iterate 10 apply opens_with_append
  exact opens_with_any_case "PRINT"

/-- An issue is on the line of its word, or it is about an exit and on the line above which the
blanks in front of the exit begin. -/
theorem issue_placed {mode : Mode} {program : Text} {issue : Issue} {number : Nat}
    (plain : Plain program) (listed : issue ∈ issues mode program)
    (numbered : issue.line = some number) :
    issue.kind ≠ .processManagement ∧ OnConstruct program number issue.kind ∨
      issue.kind = .processManagement ∧ ∃ gap, ExitBelow program number gap := by
  simp only [issues, List.mem_append, Option.mem_toList] at listed
  rcases listed with (((console | wait) | file) | image) | exit
  · rw [consoleIssue?] at console
    split at console
    · cases console
    · cases console
      cases numbered
  · obtain ⟨found, matched, rfl⟩ := Option.map_eq_some_iff.mp wait
    cases numbered
    exact .inl ⟨nofun, first_on_line plain (by decide) (by decide) prompt_opens matched⟩
  · rw [fileIssue?] at file
    split at file
    · cases file
    · next first others all =>
        cases file
        cases numbered
        exact .inl ⟨nofun, first_on_line plain (by decide) (by decide) (opens_with_keyword _)
          (find_of_find_all all)⟩
  · rw [imageIssue?] at image
    split at image
    · cases image
    · next first others all =>
        split at image
        · cases image
        · cases image
          cases numbered
          exact .inl ⟨nofun, first_on_line plain (by decide) (by decide) (opens_with_keyword _)
            (find_of_find_all all)⟩
  · obtain ⟨found, matched, reported⟩ := Option.bind_eq_some_iff.mp exit
    split at reported
    · cases reported
    · cases reported
      cases numbered
      exact .inr ⟨rfl, exit_below plain matched⟩

/-- The line of an issue is a line of the program. What the issue is about begins on it, unless it
is about an exit below a blank line. An exit is reported on the first of the blank lines right above
it, and on its own line where there are none. -/
theorem issue_on_construct_iff (mode : Mode) (program : Text) (issue : Issue) (number : Nat)
    (plain : Plain program) (listed : issue ∈ issues mode program)
    (numbered : issue.line = some number) :
    (1 ≤ number ∧ number ≤ (splitLines program).length) ∧
      (OnConstruct program number issue.kind ↔
        (issue.kind = .processManagement → ¬ExitUnderBlank program)) ∧
      (issue.kind = .processManagement → ∃ gap, ExitBelow program number gap) := by
  rcases issue_placed plain listed numbered with ⟨other, placed⟩ | ⟨exit, gap, below⟩
  · exact ⟨number_le_of_construct placed, iff_of_true placed fun same => absurd same other,
      fun same => absurd same other⟩
  · refine ⟨below.number_le, ?_, fun _ => ⟨gap, below⟩⟩
    rw [exit, below.under_blank_iff, not_not]
    exact below.first_exit_iff.trans ⟨fun none _ => none, fun none => none rfl⟩

/-- An exit right below a line of code is reported on its own line. -/
theorem exit_reported_in_place :
    ∃ issue ∈ issues .console "$CONSOLE\n\nPRINT 1\n  SYSTEM".toList,
      issue.kind = .processManagement ∧ issue.line = some 4 ∧
        OnConstruct "$CONSOLE\n\nPRINT 1\n  SYSTEM".toList 4 issue.kind := by
  have listed : (issues .console "$CONSOLE\n\nPRINT 1\n  SYSTEM".toList)[0]?.map
      (fun issue => (issue.kind, issue.line)) = some (.processManagement, some 4) := by
    decide +kernel
  obtain ⟨issue, found, same⟩ := Option.map_eq_some_iff.mp listed
  obtain ⟨kind, line⟩ := Prod.mk.inj same
  have member := List.mem_of_getElem? found
  have plain : Plain "$CONSOLE\n\nPRINT 1\n  SYSTEM".toList := by
    intro c listed
    revert c
    exact List.all_iff_forall_prop.mp (by decide +kernel)
  refine ⟨issue, member, kind, line, ?_⟩
  rw [(issue_on_construct_iff .console _ issue 4 plain member line).2.1]
  rintro - ⟨earlier, blankLine, exit, later, split, blank, leads, none⟩
  have whole : ["$CONSOLE".toList, [], "PRINT 1".toList] ++ "  SYSTEM".toList :: [] =
      (earlier ++ [blankLine]) ++ exit :: later := by
    rw [List.append_assoc]
    exact split
  have above : ["$CONSOLE".toList, []] ++ ["PRINT 1".toList] = earlier ++ [blankLine] :=
    (first_exit_unique whole (by decide +kernel) leads (by decide +kernel)
      (ExitBelow.quiet_above (List.forall_mem_singleton.mpr blank) none)).1
  obtain rfl := (List.cons.inj (List.append_inj' above rfl).2).1
  exact absurd (blank 'P' (by decide)) (by decide)

/-- An exit below a blank line is reported on the blank line. -/
theorem exit_reported_above :
    (∃ issue ∈ issues .console "$CONSOLE\n\nSYSTEM".toList,
      issue.kind = .processManagement ∧ issue.line = some 2) ∧
    (splitLines "$CONSOLE\n\nSYSTEM".toList)[1]? = some [] ∧
    ¬OnConstruct "$CONSOLE\n\nSYSTEM".toList 2 .processManagement := by
  have listed : (issues .console "$CONSOLE\n\nSYSTEM".toList)[0]?.map
      (fun issue => (issue.kind, issue.line)) = some (.processManagement, some 2) := by
    decide +kernel
  obtain ⟨issue, found, same⟩ := Option.map_eq_some_iff.mp listed
  obtain ⟨kind, line⟩ := Prod.mk.inj same
  refine ⟨⟨issue, List.mem_of_getElem? found, kind, line⟩, by decide +kernel, ?_⟩
  rintro ⟨earlier, line, later, split, number, leads, none⟩
  have here : (splitLines "$CONSOLE\n\nSYSTEM".toList)[1]? = some line := by
    rw [split, List.getElem?_append_right (by omega)]
    have place : 1 - earlier.length = 0 := by omega
    rw [place]
    rfl
  obtain rfl : [] = line := Option.some.inj ((by decide +kernel : _ = some []).symm.trans here)
  exact absurd leads (by decide)

end Instrument
end BasicBench
