import BasicBench.Proofs.Guarantees
import BasicBench.Proofs.SectionWords
import Mathlib.Data.List.Infix

/-!
Programs without a main part. Every line of such a program stands in a block, in a procedure or
among the declarations on top. What the passes add are blocks, and calls next to statements, which
are never declarations; and no edit turns a declaration into a statement. So a program that has no
main part when the others are wrapped does not get one later.
-/

set_option autoImplicit false

namespace BasicBench.Instrument

open Text Pattern

/-- No line goes to the main part, inside a procedure from the beginning or not. -/
def NoMain (inProcedure : Bool) : List (Text × Bool) → Prop
  | [] => True
  | (_, true) :: rest => NoMain inProcedure rest
  | (line, false) :: rest =>
      if inProcedure then NoMain (!procedureEnd.startsText line) rest
      else if procedureStart.startsText line then NoMain true rest
      else isTopLine line = true ∧ NoMain false rest

theorem no_main_true (line : Text) (rest : List (Text × Bool)) :
    NoMain true ((line, false) :: rest) ↔ NoMain (!procedureEnd.startsText line) rest := by
  rw [NoMain, if_pos rfl]

theorem no_main_false (line : Text) (rest : List (Text × Bool)) :
    NoMain false ((line, false) :: rest) ↔
      (procedureStart.startsText line = true ∧ NoMain true rest) ∨
      (procedureStart.startsText line = false ∧ isTopLine line = true ∧ NoMain false rest) := by
  rw [NoMain, if_neg (by decide)]
  split
  next starts => simp [starts]
  next other => simp [Bool.not_eq_true _ ▸ other]

theorem main_stays (sections : Sections) (tagged : List (Text × Bool)) (filled : sections.main ≠ []) :
    (tagged.foldl (fun sections (line, inside) => sections.add line inside) sections).main ≠ [] := by
  induction tagged generalizing sections with
  | nil => exact filled
  | cons entry rest induction =>
      obtain ⟨line, inside⟩ := entry
      refine induction _ ?_
      change (sections.add line inside).main ≠ []
      unfold Sections.add
      split
      · split <;> exact filled
      · split
        · exact filled
        · split
          · exact filled
          · split
            · exact filled
            · simp

theorem main_empty_from (sections : Sections) (tagged : List (Text × Bool))
    (empty : sections.main = []) :
    (tagged.foldl (fun sections (line, inside) => sections.add line inside) sections).main = [] ↔
      NoMain sections.inProcedure tagged := by
  induction tagged generalizing sections with
  | nil => simp [empty, NoMain]
  | cons entry rest induction =>
      obtain ⟨line, inside⟩ := entry
      rw [List.foldl_cons]
      cases inside with
      | true =>
          have added : (sections.add line true).main = [] ∧
              (sections.add line true).inProcedure = sections.inProcedure := by
            simp [Sections.add, empty]
          rw [induction _ added.1, added.2, NoMain]
      | false =>
          cases state : sections.inProcedure with
          | true =>
              have added : (sections.add line false).main = [] ∧
                  (sections.add line false).inProcedure = !procedureEnd.startsText line := by
                simp [Sections.add, empty, state]
              rw [induction _ added.1, added.2, no_main_true]
          | false =>
              rw [no_main_false]
              cases starts : procedureStart.startsText line with
              | true =>
                  have added : (sections.add line false).main = [] ∧
                      (sections.add line false).inProcedure = true := by
                    simp [Sections.add, empty, state, starts]
                  rw [induction _ added.1, added.2]
                  simp
              | false =>
                  cases top : isTopLine line with
                  | true =>
                      have added : (sections.add line false).main = [] ∧
                          (sections.add line false).inProcedure = false := by
                        simp [Sections.add, empty, state, starts, top]
                      rw [induction _ added.1, added.2]
                      simp
                  | false =>
                      have added : (sections.add line false).main ≠ [] := by
                        simp [Sections.add, empty, state, starts, top]
                      simp [main_stays _ rest added]

theorem main_empty_iff (lines : List Text) :
    (Sections.ofLines lines).main = [] ↔ NoMain false (masked lines) :=
  main_empty_from {} (masked lines) rfl

/-! Lines that are no declarations. -/

/-- Whether two texts differ within the length of both. -/
def differ (left right : Text) : Bool := !left.isPrefixOf right && !right.isPrefixOf left

/-- A line whose letters differ from all openings is no declaration. -/
theorem not_top_of_letters {line letters more : Text} (shown : upper (trim line) = letters ++ more)
    (apart : headerOpenings.all (fun opening => differ opening letters) = true)
    (nonempty : letters ≠ []) : isTopLine line = false := by
  rw [← Bool.not_eq_true, is_top_line_iff]
  rintro (blank | ⟨opening, listed, starts⟩)
  · rw [trim_of_blank line blank] at shown
    exact nonempty (List.append_eq_nil_iff.mp shown.symm).1
  rw [shown] at starts
  have differs := List.all_eq_true.mp apart opening listed
  simp only [differ, Bool.and_eq_true, Bool.not_eq_true', ← Bool.not_eq_true,
    List.isPrefixOf_iff_prefix] at differs
  rcases List.prefix_or_prefix_of_prefix starts (List.prefix_append letters more) with within | beyond
  · exact differs.1 within
  · exact differs.2 beyond

/-- The upper case of a form of a word without special letters. -/
theorem upper_of_form {word form : Text} (plain : word.all isPlainForm = true)
    (same : SameText word form) : upper form = word := by
  induction same with
  | nil => rfl
  | cons letter others induction =>
      rw [List.all_cons, Bool.and_eq_true] at plain
      rw [upper, List.flatMap_cons, upper_char_of_plain plain.1 letter]
      exact congrArg (_ :: ·) (induction plain.2)

theorem upper_of_leads {word line : Text} (plain : word.all isPlainForm = true)
    (solid : isSolid word = true) (leads : Leads word line) :
    ∃ more, upper (trim line) = word ++ more := by
  obtain ⟨form, more, shape, same⟩ := opens_trim solid leads
  exact ⟨upper more, by rw [shape, upper_append, upper_of_form plain same]⟩

theorem not_top_of_leads {word line : Text} (leads : Leads word line)
    (plain : word.all isPlainForm = true) (solid : isSolid word = true)
    (apart : headerOpenings.all (fun opening => differ opening word) = true) :
    isTopLine line = false := by
  obtain ⟨more, shown⟩ := upper_of_leads plain solid leads
  refine not_top_of_letters shown apart ?_
  rintro rfl
  exact absurd solid (by decide)

theorem not_top_of_exit {line : Text} (exits : isExit line = true) : isTopLine line = false := by
  rw [isExit, Bool.or_eq_true, Bool.or_eq_true] at exits
  rcases exits with (system | ends) | call
  · exact not_top_of_leads (leads_of_starts led_bare_system system) (by decide)
      (by decide) (by decide)
  · exact not_top_of_leads (leads_of_starts led_bare_end ends) (by decide)
      (by decide) (by decide)
  · exact not_top_of_leads (leads_of_starts led_debug_exit call) (by decide)
      (by decide) (by decide)

theorem not_top_of_open {line : Text} (opens : openStatement.startsText line = true) :
    isTopLine line = false :=
  not_top_of_leads (leads_of_starts led_open opens) (by decide) (by decide)
    (by decide)

/-- A circle and a constant part at their second letter. -/
theorem not_top_of_circle {line : Text} (leads : Leads "CIRCLE".toList line) :
    isTopLine line = false := by
  obtain ⟨form, more, shape, same⟩ := opens_trim (by decide) leads
  rw [show "CIRCLE".toList = 'C' :: 'I' :: "RCLE".toList by decide] at same
  cases same with
  | cons first same =>
      cases same with
      | @cons _ _ _ others second rest =>
          obtain ⟨d, single, listed⟩ := upper_char_of_i second
          have shown : upper (trim line) = ['C', d] ++ upper (others ++ more) := by
            rw [shape, List.cons_append, List.cons_append, upper, List.flatMap_cons,
              List.flatMap_cons, upper_char_of_plain (by decide) first, single]
            rfl
          refine not_top_of_letters shown ?_ (by simp)
          simp only [List.mem_cons, List.not_mem_nil, or_false] at listed
          rcases listed with rfl | rfl
          · decide
          · decide

theorem not_top_of_draw {line : Text} (draws : drawStatement.startsText line = true) :
    isTopLine line = false := by
  obtain ⟨word, listed, leads⟩ := leads_of_draw draws
  simp only [drawWords, List.mem_cons, List.not_mem_nil, or_false] at listed
  rcases listed with rfl | rfl | rfl
  · exact not_top_of_circle leads
  · exact not_top_of_leads (leads_shorter "L".toList "INE".toList line
      (by rwa [show "L".toList ++ "INE".toList = "LINE".toList by decide]))
      (by decide) (by decide) (by decide)
  · exact not_top_of_leads (leads_shorter "_P".toList "UTIMAGE".toList line
      (by rwa [show "_P".toList ++ "UTIMAGE".toList = "_PUTIMAGE".toList by decide]))
      (by decide) (by decide) (by decide)

/-! Procedures. -/

theorem no_procedure_start {word line : Text} (leads : Leads word line)
    (apart : areApart word "SUB".toList = true ∧ areApart word "FUNCTION".toList = true) :
    procedureStart.startsText line = false := by
  cases starts : procedureStart.startsText line with
  | false => rfl
  | true =>
      rcases leads_of_procedure_start starts with other | other
      · exact absurd other (leads_excludes apart.1 leads)
      · exact absurd other (leads_excludes apart.2 leads)

/-- A call neither begins nor ends a procedure. -/
theorem call_keeps_procedure {name line : Text} (calls : Calls name line) :
    procedureEnd.startsText line = false :=
  not_starts_of_leads led_procedure_end (by decide) (leads_of_calls calls)

/-- A statement next to which a call is put: it begins no procedure and is no declaration. -/
def IsStatement (line : Text) : Prop :=
  procedureStart.startsText line = false ∧ isTopLine line = false

theorem exit_is_statement {line : Text} (exits : isExit line = true) : IsStatement line := by
  refine ⟨?_, not_top_of_exit exits⟩
  rw [isExit, Bool.or_eq_true, Bool.or_eq_true] at exits
  rcases exits with (system | ends) | call
  · exact no_procedure_start (leads_of_starts led_bare_system system) (by decide)
  · exact no_procedure_start (leads_of_starts led_bare_end ends) (by decide)
  · exact no_procedure_start (leads_of_starts led_debug_exit call) (by decide)

theorem open_is_statement {line : Text} (opens : openStatement.startsText line = true) :
    IsStatement line :=
  ⟨no_procedure_start (leads_of_starts led_open opens) (by decide), not_top_of_open opens⟩

theorem draw_is_statement {line : Text} (draws : drawStatement.startsText line = true) :
    IsStatement line := by
  refine ⟨?_, not_top_of_draw draws⟩
  obtain ⟨word, listed, leads⟩ := leads_of_draw draws
  simp only [drawWords, List.mem_cons, List.not_mem_nil, or_false] at listed
  rcases listed with rfl | rfl | rfl
  · exact no_procedure_start leads (by decide)
  · exact no_procedure_start leads (by decide)
  · exact no_procedure_start leads (by decide)

theorem draw_ends_no_procedure {line : Text} (draws : drawStatement.startsText line = true) :
    procedureEnd.startsText line = false :=
  not_starts_of_draw led_procedure_end (by decide) draws

/-! Lines put in. -/

/-- A header line begins no procedure and may stay on top. -/
theorem top_of_header {line : Text} (header : isHeader line false = true) :
    procedureStart.startsText line = false ∧ isTopLine line = true := by
  constructor
  · cases starts : procedureStart.startsText line with
    | false => rfl
    | true =>
        rcases leads_of_procedure_start starts with leads | leads
        · rw [show "SUB".toList = 'S' :: "UB".toList by decide] at leads
          exact absurd leads (header_not_led header (by decide) (by decide))
        · rw [show "FUNCTION".toList = 'F' :: "UNCTION".toList by decide] at leads
          exact absurd leads (header_not_led header (by decide) (by decide))
  · rw [is_top_line_iff]
    rcases header_shape header with blank | ⟨c, core, shape, mark⟩
    · exact .inl blank
    · rw [shape, upper, List.flatMap_cons]
      rcases mark with rfl | rfl
      · exact .inr ⟨"$".toList, by simp [headerOpenings], List.prefix_append ..⟩
      · exact .inr ⟨"'".toList, by simp [headerOpenings], List.prefix_append ..⟩

theorem header_is_top {line : Text} (header : isHeader line false = true) (rest : List (Text × Bool)) :
    NoMain false ((line, false) :: rest) ↔ NoMain false rest := by
  rcases top_of_header header with ⟨starts, top⟩
  rw [no_main_false, starts, top]
  simp

theorem no_main_blank {line : Text} (blank : Blank line) (rest : List (Text × Bool)) :
    NoMain false ((line, false) :: rest) ↔ NoMain false rest := by
  apply header_is_top
  rw [isHeader, trim_of_blank line blank]
  rfl

theorem no_main_inside (inProcedure : Bool) (added : List Text) (rest : List (Text × Bool)) :
    NoMain inProcedure (added.map (·, true) ++ rest) ↔ NoMain inProcedure rest := by
  induction added with
  | nil => rfl
  | cons line added induction => exact induction

theorem no_main_headers (above rest : List (Text × Bool))
    (headers : ∀ entry ∈ above, isHeader entry.1 entry.2 = true) :
    NoMain false (above ++ rest) ↔ NoMain false rest := by
  induction above with
  | nil => rfl
  | cons entry above induction =>
      have others := induction fun other member => headers other (by simp [member])
      obtain ⟨line, inside⟩ := entry
      cases inside with
      | true => exact others
      | false =>
          rw [List.cons_append, header_is_top (headers (line, false) (by simp)), others]

theorem no_main_insert {added lines : List Text} (contained : SelfContained added)
    (none : NoMain false (masked lines)) : NoMain false (masked (insertBlock added lines)) := by
  obtain ⟨above, below, inside, before, after, headers, -⟩ := masked_insert_block contained lines
  rw [before, no_main_headers above below headers] at none
  rw [after, no_main_headers above _ headers, no_main_inside]
  cases inside with
  | true => exact none
  | false => exact (no_main_blank blank_nil below).mpr none

/-- Calls behind statements stand in procedures where nothing else does. -/
theorem no_main_follow (follow? : Text → Option Text) (isDone : Text → Bool)
    (statements : ∀ line other, follow? line = some other → IsStatement line ∧
      procedureEnd.startsText line = false ∧ procedureEnd.startsText other = false)
    (inProcedure : Bool) (tagged : List (Text × Bool)) (none : NoMain inProcedure tagged) :
    NoMain inProcedure (followTagged follow? isDone tagged) := by
  induction tagged generalizing inProcedure with
  | nil => exact none
  | cons entry rest induction =>
      obtain ⟨line, inside⟩ := entry
      rw [followTagged]
      cases inside with
      | true => exact induction inProcedure none
      | false =>
          rcases followers_cases follow? isDone (line, false) (lineBelow rest) with
            ⟨nothing, -⟩ | ⟨other, found, single⟩
          · rw [nothing, List.map_nil, List.nil_append]
            cases inProcedure with
            | true =>
                rw [no_main_true] at none ⊢
                exact induction _ none
            | false =>
                rw [no_main_false] at none ⊢
                exact none.imp (And.imp_right (induction true))
                  (And.imp_right (And.imp_right (induction false)))
          · obtain ⟨⟨noStart, noTop⟩, noEnd, noEndBelow⟩ := statements line other found
            rw [single, List.map_singleton, List.singleton_append]
            cases inProcedure with
            | true =>
                rw [no_main_true, noEnd] at none
                rw [no_main_true, noEnd, Bool.not_false, no_main_true, noEndBelow]
                exact induction true none
            | false =>
                rw [no_main_false, noStart, noTop] at none
                simp at none

theorem no_main_guard (previous : Option Text) (inProcedure : Bool) (tagged : List (Text × Bool))
    (none : NoMain inProcedure tagged) : NoMain inProcedure (guardTagged previous tagged) := by
  induction tagged generalizing previous inProcedure with
  | nil => exact none
  | cons entry rest induction =>
      obtain ⟨line, inside⟩ := entry
      cases inside with
      | true =>
          rw [guardTagged, guards_inside]
          exact induction (some line) inProcedure none
      | false =>
          rw [guardTagged, guards]
          cases inProcedure with
          | true =>
              rw [no_main_true] at none
              have later := induction (some line) _ none
              split
              next =>
                have calls := calls_cleanup (indentation line) (blank_indentation line)
                rw [List.map_singleton, List.singleton_append, no_main_true,
                  call_keeps_procedure calls, Bool.not_false, no_main_true]
                exact later
              next =>
                rw [List.map_nil, List.nil_append, no_main_true]
                exact later
          | false =>
              rw [no_main_false] at none
              split
              next needed =>
                simp only [Bool.and_eq_true] at needed
                obtain ⟨noStart, noTop⟩ := exit_is_statement needed.1.2
                rw [noStart, noTop] at none
                simp at none
              next =>
                rw [List.map_nil, List.nil_append, no_main_false]
                exact none.imp (And.imp_right (induction (some line) true))
                  (And.imp_right (And.imp_right (induction (some line) false)))

/-! Edits. -/

/-- The first two letters of the word that an edit looks for. -/
def keyStart : Edit → Text
  | .freefile => ['F', 'R']
  | .image => ['_', 'N']
  | .point => ['P', 'S']

theorem key_start_split (edit : Edit) : ∃ others, edit.key.toList = keyStart edit ++ others := by
  cases edit with
  | freefile => exact ⟨"EEFILE".toList, by decide⟩
  | image => exact ⟨"EWIMAGE".toList, by decide⟩
  | point => exact ⟨"ET".toList, by decide⟩

/-- Whether no end of the opening agrees with the letters. -/
def isInterrupted (opening letters : Text) : Bool :=
  opening.tails.all fun rest => rest.isEmpty || differ rest letters

/-- An opening that does not end in front of the letters is no opening at all. -/
theorem opening_before_letters {front more opening letters : Text}
    (interrupted : isInterrupted opening letters = true)
    (starts : opening <+: front ++ (letters ++ more)) : opening <+: front := by
  rcases List.prefix_or_prefix_of_prefix starts (List.prefix_append front _) with within | ⟨rest, rfl⟩
  · exact within
  · rw [List.prefix_append_right_inj] at starts
    have avoids := List.all_eq_true.mp interrupted rest
      ((List.mem_tails _ _).mpr (List.suffix_append _ _))
    simp only [Bool.or_eq_true, List.isEmpty_iff, differ, Bool.and_eq_true, Bool.not_eq_true',
      ← Bool.not_eq_true, List.isPrefixOf_iff_prefix] at avoids
    rcases avoids with rfl | ⟨outside, beyond⟩
    · rw [List.append_nil]
    · rcases List.prefix_or_prefix_of_prefix starts (List.prefix_append _ more) with short | long
      · exact absurd short outside
      · exact absurd long beyond

/-- No opening of a declaration reaches into a key. -/
theorem openings_avoid_keys (edit : Edit) :
    headerOpenings.all (fun opening => isInterrupted opening (keyStart edit)) = true := by
  cases edit <;> decide

/-- A declaration opens in front of the first exchanged word, where nothing changes. -/
theorem top_line_apply (edit : Edit) {line : Text} (top : isTopLine line = true) :
    isTopLine (edit.apply line) = true := by
  rcases edit.apply_exchanges line with same | ⟨kept, old, new, tail, exchange⟩
  · rwa [same]
  · obtain ⟨others, keySplit⟩ := key_start_split edit
    have opens : Opens (keyStart edit) old :=
      opens_shorter _ others old (keySplit ▸ exchange.opensOld)
    obtain ⟨form, more, rfl, same⟩ := opens
    obtain ⟨c, behind, rfl, start⟩ := edit.name_head_of_call exchange.opensNew
    obtain ⟨left, blank, front⟩ := trim_left_split kept
    have keyPlain : (keyStart edit).all isPlainForm = true ∧ isSolid (keyStart edit) = true := by
      cases edit <;> decide
    have formSolid : isSolid form = true := (solid_of_same_text same).trans keyPlain.2
    have callSolid : isSolid [c] = true := by simp [isSolid, not_space_of_name_start c start]
    obtain ⟨rest, lineTrim⟩ := trim_keeps_solid left _ (more ++ tail) blank
      (solid_trim_left_append kept form formSolid)
    obtain ⟨rest', outTrim⟩ := trim_keeps_solid left _ (behind ++ tail) blank
      (solid_trim_left_append kept [c] callSolid)
    have lineShape : line = left ++ ((trimLeft kept ++ form) ++ (more ++ tail)) := by
      rw [exchange.before]
      conv => lhs; rw [front]
      simp
    have outShape : edit.apply line = left ++ ((trimLeft kept ++ [c]) ++ (behind ++ tail)) := by
      rw [exchange.after]
      conv => lhs; rw [front]
      simp
    have lineUpper : upper (trim line) =
        upper (trimLeft kept) ++ (keyStart edit ++ upper rest) := by
      rw [lineShape, lineTrim, upper_append, upper_append, upper_of_form keyPlain.1 same,
        List.append_assoc]
    have outUpper : upper (trim (edit.apply line)) =
        upper (trimLeft kept) ++ upper ([c] ++ rest') := by
      rw [outShape, outTrim, List.append_assoc, upper_append]
    have filled : ¬Blank line := by
      intro blank
      rw [trim_of_blank line blank] at lineUpper
      cases edit <;> simp [keyStart, upper] at lineUpper
    obtain ⟨opening, listed, starts⟩ := ((is_top_line_iff line).mp top).resolve_left filled
    rw [lineUpper] at starts
    have kept' := opening_before_letters
      (List.all_eq_true.mp (openings_avoid_keys edit) opening listed) starts
    refine (is_top_line_iff _).mpr (.inr ⟨opening, listed, ?_⟩)
    rw [outUpper]
    exact kept'.trans (List.prefix_append _ _)

theorem no_main_exchange (edit : Edit) (inProcedure : Bool) (tagged : List (Text × Bool))
    (none : NoMain inProcedure tagged) : NoMain inProcedure (tagged.map fun (line, inside) =>
      (if inside then line else edit.apply line, inside)) := by
  induction tagged generalizing inProcedure with
  | nil => exact none
  | cons entry rest induction =>
      obtain ⟨line, inside⟩ := entry
      cases inside with
      | true => exact induction inProcedure none
      | false =>
          rw [List.map_cons]
          simp only [Bool.false_eq_true, if_false]
          cases inProcedure with
          | true =>
              rw [no_main_true] at none
              rw [no_main_true, Edit.starts_text_apply steady_procedure_end]
              exact induction _ none
          | false =>
              rw [no_main_false] at none
              rw [no_main_false, Edit.starts_text_apply steady_procedure_start]
              rcases none with ⟨starts, inner⟩ | ⟨noStart, top, later⟩
              · exact .inl ⟨starts, induction true inner⟩
              · exact .inr ⟨noStart, top_line_apply edit top, induction false later⟩

end BasicBench.Instrument
