import BasicBench.Instrument.Pass
import BasicBench.Proofs.Statements

/-!
The lines that decide how a program is cut into sections, in words: those that may stay on top, and
those that begin a procedure. Letters count in either case. Beyond ASCII there are letters with the
upper case of two, so in general it is the upper case of a line that is compared; a line in ASCII
begins with the words themselves.
-/

set_option autoImplicit false

namespace BasicBench.Instrument

open Text Pattern

/-! Lines on top. -/

/-- The lines that may stay on top are blank, or their upper case begins as a directive, a comment or
a declaration does. -/
theorem is_top_line_iff (line : Text) : isTopLine line = true ↔
    Blank line ∨ ∃ opening ∈ headerOpenings, opening <+: upper (trim line) := by
  have blank : upper (trim line) = [] ↔ Blank line := by
    rw [← trim_eq_nil_iff]
    refine ⟨eq_nil_of_upper, fun empty => ?_⟩
    rw [empty]
    rfl
  simp only [isTopLine, Bool.or_eq_true, List.isEmpty_iff, blank, List.any_eq_true, startsWith,
    List.isPrefixOf_iff_prefix]

/-- The marks and words that lead a line on top, but for the one that wants a name behind it. -/
def topWords : List String := ["$", "'", "DIM SHARED", "DEFINT", "OPTION"]

/-- The line declares a constant: a space stands behind the keyword, and something behind the space. -/
def DeclaresConstant (line : Text) : Prop :=
  ∃ left form name, line = left ++ (form ++ ' ' :: name) ∧ Blank left ∧
    SameText "CONST".toList form ∧ ¬Blank name

/-- A word in capitals is in front of the capitals of a text where the text begins with the word. -/
theorem prefix_capitals_iff {word text : Text} (fixed : ∀ c ∈ word, capital c = c) :
    word <+: text.map capital ↔ Opens word text := by
  constructor
  · rintro ⟨_, split⟩
    obtain ⟨form, rest, rfl, rfl, -⟩ := List.map_eq_append_iff.mp split.symm
    refine ⟨form, rest, rfl, List.forall₂_map_left_iff.mpr (List.forall₂_same.mpr fun c member => ?_)⟩
    rw [sameLetter, fixed _ (List.mem_map_of_mem member), beq_self_eq_true]
  · rintro ⟨form, rest, rfl, same⟩
    have capitals : form.map capital = word := by
      induction same with
      | nil => rfl
      | cons letter others induction =>
          rw [List.forall_mem_cons] at fixed
          rw [List.map_cons, induction fixed.2, ← beq_iff_eq.mp letter, fixed.1]
    rw [List.map_append, capitals]
    exact List.prefix_append ..

/-- What opens a trimmed line leads the line, if it has no blanks at its ends. -/
theorem opens_trim_iff {word line : Text} (solid : isSolid word = true) :
    Opens word (trim line) ↔ Leads word line := by
  refine ⟨?_, opens_trim solid⟩
  rintro ⟨form, more, shown, same⟩
  obtain ⟨left, right, blank, -, split⟩ := trim_split line
  refine ⟨left, form ++ (more ++ right), blank, ⟨form, more ++ right, rfl, same⟩, ?_⟩
  rw [split, shown]
  simp

theorem opens_constant_iff (line : Text) :
    Opens "CONST ".toList (trim line) ↔ DeclaresConstant line := by
  rw [show "CONST ".toList = "CONST".toList ++ [' '] by decide]
  constructor
  · rintro ⟨_, more, shown, same⟩
    obtain ⟨form, _, rfl, word, space⟩ := same_text_split same
    obtain ⟨d, rfl⟩ := List.length_eq_one_iff.mp space.length_eq.symm
    obtain rfl := mark_of_same_letter (by decide) (List.forall₂_cons.mp space).1
    rw [List.append_assoc, List.singleton_append] at shown
    obtain ⟨left, right, blank, -, split⟩ := trim_split line
    refine ⟨left, form, more ++ right, by rw [split, shown]; simp, blank, word, fun empty => ?_⟩
    have idle := trim_of_solid _ (solid_trim line (by rw [shown]; simp))
    rw [shown, trim_append_right form (' ' :: more)
      (List.forall_mem_cons.mpr ⟨rfl, ((blank_append ..).mp empty).1⟩)] at idle
    have shorter := (trim_sublist form).length_le
    rw [idle, List.length_append, List.length_cons] at shorter
    omega
  · rintro ⟨left, form, name, rfl, blank, same, filled⟩
    obtain ⟨gap, right, -, -, split⟩ := trim_split name
    have named := solid_trim name (mt (trim_eq_nil_iff name).mp filled)
    have solid := solid_around (' ' :: gap) ((solid_of_same_text same).trans (by decide)) named
    obtain ⟨more, shown⟩ := trim_keeps_solid left _ right blank solid
    have shape : form ++ ' ' :: name = form ++ ' ' :: gap ++ trim name ++ right := by
      conv => lhs; rw [split]
      simp
    refine ⟨form ++ [' '], gap ++ trim name ++ more, ?_, List.rel_append same ?_⟩
    · rw [shape, shown]
      simp
    · exact .cons (same_letter_refl ' ') .nil

/-- The lines in ASCII that may stay on top. -/
theorem top_line_iff_words {line : Text} (ascii : ∀ c ∈ line, c.toNat < 128) :
    isTopLine line = true ↔
      Blank line ∨ (∃ word ∈ topWords, Leads word.toList line) ∨ DeclaresConstant line := by
  have shown : upper (trim line) = (trim line).map capital :=
    upper_of_ascii fun c member => ascii c ((trim_sublist line).subset member)
  have capitals : ∀ opening ∈ headerOpenings, opening.all (fun c => capital c == c) = true := by
    decide
  have openings : (∃ opening ∈ headerOpenings, opening <+: upper (trim line)) ↔
      ∃ opening ∈ headerOpenings, Opens opening (trim line) := by
    rw [shown]
    exact exists_congr fun opening => and_congr_right fun listed =>
      prefix_capitals_iff fun c member =>
        beq_iff_eq.mp (List.all_eq_true.mp (capitals opening listed) c member)
  have solid : ∀ word ∈ topWords, isSolid word.toList = true := by decide
  have leads : (∃ word ∈ topWords, Leads word.toList line) ↔
      ∃ word ∈ topWords, Opens word.toList (trim line) :=
    exists_congr fun word => and_congr_right fun listed => (opens_trim_iff (solid word listed)).symm
  rw [is_top_line_iff, openings, leads, ← opens_constant_iff]
  simp only [headerOpenings, topWords, List.map_cons, List.map_nil, List.mem_cons,
    List.not_mem_nil, or_false, exists_eq_or_imp, exists_eq_left]
  constructor
  · rintro (blank | directive | comment | constant | others)
    · exact .inl blank
    · exact .inr (.inl (.inl directive))
    · exact .inr (.inl (.inr (.inl comment)))
    · exact .inr (.inr constant)
    · exact .inr (.inl (.inr (.inr others)))
  · rintro (blank | (directive | comment | others) | constant)
    · exact .inl blank
    · exact .inr (.inl directive)
    · exact .inr (.inr (.inl comment))
    · exact .inr (.inr (.inr (.inr others)))
    · exact .inr (.inr (.inr (.inl constant)))

/-! Procedures. -/

/-- A procedure begins with its keyword behind the indentation, and a blank behind the keyword. -/
theorem procedure_start_iff {line : Text} : procedureStart.startsText line = true ↔
    ∃ left form rest, line = left ++ (form ++ rest) ∧ Blank left ∧
      (SameText "SUB".toList form ∨ SameText "FUNCTION".toList form) ∧
      rest.head?.any isSpace = true := by
  simp only [procedureStart, starts_text_iff, takes_append, takes_text_start, takes_capture,
    takes_blanks, takes_or, takes_any_case, takes_one]
  constructor
  · rintro ⟨_, rest, rfl, _, _, rfl, ⟨_, form, rfl, ⟨_, left, rfl, ⟨rfl, -⟩, blank⟩, word⟩, c, space,
      rfl⟩
    exact ⟨left, form, c :: rest, by simp, blank, word, space⟩
  · rintro ⟨left, form, rest, rfl, blank, word, space⟩
    cases rest with
    | nil => cases space
    | cons c rest =>
        exact ⟨left ++ form ++ [c], rest, by simp, left ++ form, [c], rfl,
          ⟨left, form, rfl, ⟨[], left, rfl, ⟨rfl, trivial⟩, blank⟩, word⟩, c, space, rfl⟩

theorem leads_of_procedure_start {line : Text} (starts : procedureStart.startsText line = true) :
    Leads "SUB".toList line ∨ Leads "FUNCTION".toList line := by
  obtain ⟨left, form, rest, rfl, blank, word, -⟩ := procedure_start_iff.mp starts
  refine word.imp (fun same => ?_) fun same => ?_
  · exact ⟨left, form ++ rest, blank, ⟨form, rest, rfl, same⟩, rfl⟩
  · exact ⟨left, form ++ rest, blank, ⟨form, rest, rfl, same⟩, rfl⟩

theorem led_procedure_end : LedBy "END" procedureEnd :=
  led_by_append (led_by_append (led_by_append (led_by_of_takes_word (takes_word_start "END")) _) _) _

/-- A line that begins a procedure ends none. -/
theorem no_end_of_procedure_start {line : Text} (starts : procedureStart.startsText line = true) :
    procedureEnd.startsText line = false := by
  rcases leads_of_procedure_start starts with leads | leads
  · exact not_starts_of_leads led_procedure_end (by decide) leads
  · exact not_starts_of_leads led_procedure_end (by decide) leads

end BasicBench.Instrument
