import BasicBench.Proofs.Outside

/-!
Exits and cleanups, as lines. A cleanup is told by its upper case, in which it differs from every
other kind of line that a pass looks for, and no edit of drawing changes a cleanup or makes an
exit.
-/

set_option autoImplicit false

namespace BasicBench.Instrument

open Text Pattern

/-! Lines that are no cleanups. -/

theorem cleanup_upper : upper cleanupCall = "CALL RESOURCEMANAGER_CLEANUP".toList := by
  decide

theorem cleanup_behind {left : Text} (blank : Blank left) :
    isCleanup (left ++ cleanupCall) = true := by
  rw [isCleanup, trim_append_left _ _ blank]
  decide

/-- Behind its indentation a cleanup begins with the letters of a call. -/
theorem cleanup_letters {line : Text} (cleans : isCleanup line = true) :
    ∃ more, upper (trim line) = 'C' :: 'A' :: 'L' :: more := by
  rw [isCleanup, beq_iff_eq, cleanup_upper] at cleans
  exact ⟨"L RESOURCEMANAGER_CLEANUP".toList, cleans.trans (by decide)⟩

theorem not_cleanup_of_head {line core : Text} {letter c : Char} (shape : trim line = c :: core)
    (plain : isPlainForm letter = true) (same : sameLetter letter c = true) (other : letter ≠ 'C') :
    isCleanup line = false := by
  cases cleans : isCleanup line with
  | false => rfl
  | true =>
      obtain ⟨more, letters⟩ := cleanup_letters cleans
      rw [shape, upper, List.flatMap_cons, upper_char_of_plain plain same, List.singleton_append,
        List.cons.injEq] at letters
      exact absurd letters.1 other

theorem not_cleanup_of_blank {line : Text} (blank : Blank line) : isCleanup line = false := by
  rw [isCleanup, trim_of_blank line blank]
  decide

theorem not_cleanup_of_leads {letter : Char} {word line : Text} (leads : Leads (letter :: word) line)
    (plain : isPlainForm letter = true) (solid : isSpace letter = false) (other : letter ≠ 'C') :
    isCleanup line = false := by
  obtain ⟨c, core, shape, same⟩ := leads_trim solid leads
  exact not_cleanup_of_head shape plain same other

/-- A circle shares the first letter with a call but not the third one. -/
theorem not_cleanup_of_circle {line : Text} (leads : Leads "CIRCLE".toList line) :
    isCleanup line = false := by
  obtain ⟨form, more, shape, same⟩ := opens_trim (by decide) leads
  rw [show "CIRCLE".toList = 'C' :: 'I' :: 'R' :: "CLE".toList by decide] at same
  cases cleans : isCleanup line with
  | false => rfl
  | true =>
      obtain ⟨others, letters⟩ := cleanup_letters cleans
      cases same with
      | cons first same =>
          cases same with
          | cons second same =>
              cases same with
              | cons third _ =>
                  obtain ⟨d, single, -⟩ := upper_char_of_i second
                  rw [shape] at letters
                  simp only [List.cons_append, upper, List.flatMap_cons,
                    upper_char_of_plain (by decide) first, upper_char_of_plain (by decide) third,
                    single, List.nil_append, List.cons.injEq] at letters
                  exact absurd letters.2.2.1 (by decide)

theorem not_cleanup_of_open {line : Text} (opens : openStatement.startsText line = true) :
    isCleanup line = false := by
  have leads := leads_of_starts led_open opens
  rw [show "OPEN".toList = 'O' :: "PEN".toList by decide] at leads
  exact not_cleanup_of_leads leads (by decide) (by decide) (by decide)

theorem not_cleanup_of_draw {line : Text} (draws : drawStatement.startsText line = true) :
    isCleanup line = false := by
  obtain ⟨word, listed, leads⟩ := leads_of_draw draws
  simp only [drawWords, List.mem_cons, List.not_mem_nil, or_false] at listed
  rcases listed with rfl | rfl | rfl
  · exact not_cleanup_of_circle leads
  · rw [show "LINE".toList = 'L' :: "INE".toList by decide] at leads
    exact not_cleanup_of_leads leads (by decide) (by decide) (by decide)
  · rw [show "_PUTIMAGE".toList = '_' :: "PUTIMAGE".toList by decide] at leads
    exact not_cleanup_of_leads leads (by decide) (by decide) (by decide)

theorem not_cleanup_of_marker {line : Text} {kind : MarkerKind}
    (marks : markerKind? line = some kind) : isCleanup line = false := by
  cases shape : trim line with
  | nil => exact not_cleanup_of_blank ((trim_eq_nil_iff line).mp shape)
  | cons c core =>
      by_cases apostrophe : c = '\''
      · subst apostrophe
        exact not_cleanup_of_head shape (by decide) (same_letter_refl _) (by decide)
      · obtain ⟨left, right, blank, -, split⟩ := trim_split line
        have solid := solid_trim line (by simp [shape])
        rw [shape, isSolid, List.head?_cons, Option.any_some, Bool.and_eq_true,
          Bool.not_eq_true'] at solid
        rw [shape, List.append_assoc, List.cons_append] at split
        rw [split, marker_kind_of_head left _ c blank solid.1 apostrophe] at marks
        exact absurd marks (by simp)

/-- A header line outside blocks is blank, a directive or a comment. -/
theorem header_shape {line : Text} (header : isHeader line false = true) :
    Blank line ∨ ∃ c core, trim line = c :: core ∧ (c = '$' ∨ c = '\'') := by
  rw [isHeader, Bool.false_or] at header
  cases shape : trim line with
  | nil => exact .inl ((trim_eq_nil_iff line).mp shape)
  | cons c core =>
      rw [shape] at header
      exact .inr ⟨c, core, rfl, by simpa using header⟩

theorem not_cleanup_of_header {line : Text} (header : isHeader line false = true) :
    isCleanup line = false := by
  rcases header_shape header with blank | ⟨c, core, shape, rfl | rfl⟩
  · exact not_cleanup_of_blank blank
  · exact not_cleanup_of_head shape (by decide) (same_letter_refl _) (by decide)
  · exact not_cleanup_of_head shape (by decide) (same_letter_refl _) (by decide)

theorem header_not_led {letter : Char} {word line : Text} (header : isHeader line false = true)
    (solid : isSpace letter = false)
    (other : sameLetter letter '$' = false ∧ sameLetter letter '\'' = false) :
    ¬Leads (letter :: word) line := by
  intro leads
  obtain ⟨d, core, shape, same⟩ := leads_trim solid leads
  rcases header_shape header with blank | ⟨c, core', shape', rfl | rfl⟩
  · rw [trim_of_blank line blank] at shape
    exact absurd shape (by simp)
  · rw [shape', List.cons.injEq] at shape
    rw [← shape.1, other.1] at same
    exact absurd same (by decide)
  · rw [shape', List.cons.injEq] at shape
    rw [← shape.1, other.2] at same
    exact absurd same (by decide)

theorem header_is_no_open {line : Text} (header : isHeader line false = true) :
    openStatement.startsText line = false := by
  cases opens : openStatement.startsText line with
  | false => rfl
  | true =>
      have leads := leads_of_starts led_open opens
      rw [show "OPEN".toList = 'O' :: "PEN".toList by decide] at leads
      exact absurd leads (header_not_led header (by decide) (by decide))

/-! Edits and exits. -/

theorem exit_of_blank {line : Text} (blank : Blank line) : isExit line = false := by
  have system : bareSystem.startsText line = false := by
    cases starts : bareSystem.startsText line with
    | false => rfl
    | true => exact absurd blank (not_blank_of_leads (by decide)
        (leads_of_starts led_bare_system starts))
  have call : debugExitCall.startsText line = false := by
    cases starts : debugExitCall.startsText line with
    | false => rfl
    | true => exact absurd blank (not_blank_of_leads (by decide)
        (leads_of_starts led_debug_exit starts))
  rw [isExit, system, no_end_of_blank line blank, call]
  rfl

theorem form_of_mem {word piece : Text} {letter : Char} (same : SameText word piece)
    (listed : letter ∈ word) : ∃ c ∈ piece, sameLetter letter c = true := by
  induction same with
  | nil => exact absurd listed List.not_mem_nil
  | cons first others induction =>
      rcases List.mem_cons.mp listed with rfl | later
      · exact ⟨_, List.mem_cons_self, first⟩
      · obtain ⟨c, member, form⟩ := induction later
        exact ⟨c, List.mem_cons_of_mem _ member, form⟩

theorem letter_of_mem {word piece : Text} {c : Char} (same : SameText word piece)
    (member : c ∈ piece) : ∃ letter ∈ word, sameLetter letter c = true := by
  induction same with
  | nil => exact absurd member List.not_mem_nil
  | cons first others induction =>
      rcases List.mem_cons.mp member with rfl | later
      · exact ⟨_, List.mem_cons_self, first⟩
      · obtain ⟨letter, listed, form⟩ := induction later
        exact ⟨letter, List.mem_cons_of_mem _ listed, form⟩

/-- A line without any form of some letter of the key stays as it is. -/
theorem apply_of_absent (edit : Edit) (letter : Char) (listed : letter ∈ edit.key.toList) (line : Text)
    (absent : ∀ c ∈ line, sameLetter letter c = false) : edit.apply line = line := by
  rcases edit.apply_exchanges line with same | ⟨kept, old, new, tail, exchange⟩
  · exact same
  · obtain ⟨form, more, split, same⟩ := exchange.opensOld
    obtain ⟨c, member, letterForm⟩ := form_of_mem same listed
    have gone := absent c (by rw [exchange.before, split]; simp [member])
    rw [letterForm] at gone
    exact absurd gone (by decide)

/-- A cleanup has no form of a letter that its upper case lacks. -/
theorem absent_in_cleanup {line : Text} {letter : Char} (cleans : isCleanup line = true)
    (plain : isPlainForm letter = true) (solid : isSpace letter = false)
    (foreign : letter ∉ "CALL RESOURCEMANAGER_CLEANUP".toList) :
    ∀ c ∈ line, sameLetter letter c = false := by
  intro c member
  cases same : sameLetter letter c with
  | false => rfl
  | true =>
      have seen := (space_of_same_letter same).symm.trans solid
      obtain ⟨left, right, blankLeft, blankRight, split⟩ := trim_split line
      rw [isCleanup, beq_iff_eq, cleanup_upper] at cleans
      rw [split, List.mem_append, List.mem_append] at member
      rcases member with (front | core) | back
      · rw [blankLeft c front] at seen
        exact absurd seen (by decide)
      · have shown : letter ∈ upper (trim line) :=
          List.mem_flatMap.mpr ⟨c, core, by rw [upper_char_of_plain plain same]; simp⟩
        rw [cleans] at shown
        exact absurd shown foreign
      · rw [blankRight c back] at seen
        exact absurd seen (by decide)

/-- The edits of drawing leave a cleanup alone. -/
theorem cleanup_apply (edit : Edit) (other : edit ≠ .freefile) {line : Text}
    (cleans : isCleanup line = true) : edit.apply line = line := by
  cases edit with
  | freefile => exact absurd rfl other
  | image =>
      exact apply_of_absent .image 'W' (by decide) line
        (absent_in_cleanup cleans (by decide) (by decide) (by decide))
  | point =>
      exact apply_of_absent .point 'T' (by decide) line
        (absent_in_cleanup cleans (by decide) (by decide) (by decide))

/-- A call of the exit procedure is read up to its parenthesis, whatever comes behind. -/
theorem debug_exit_takes {before : Option Char} {piece rest : Text}
    (taken : debugExitCall.Takes before piece rest) :
    piece.getLast? = some '(' ∧ ∀ other, debugExitCall.Takes before piece other := by
  simp only [debugExitCall, takes_append, takes_text_start, takes_blanks, takes_blanks1,
    takes_any_case, takes_one, beq_iff_eq] at taken ⊢
  obtain ⟨front, _, rfl, parts, _, rfl, rfl⟩ := taken
  exact ⟨List.getLast?_concat, fun other => ⟨front, ['('], rfl, parts, '(', rfl, rfl⟩⟩

theorem debug_exit_stops {old : Text} (new : Text) (opens : Opens "GraphicsManager_".toList old) :
    debugExitCall.StopsShort false old new := by
  have head : NameHead old := by
    rw [show "GraphicsManager_".toList = 'G' :: "raphicsManager_".toList by decide] at opens
    exact Edit.name_head_of_opens (by decide) opens
  refine stops_short_append (stops_short_append (stops_short_append (stops_short_append
    (stops_short_append (stops_short_append stops_short_text_start (stops_short_blanks head))
      (stops_short_any_case "CALL" opens (by decide))) (stops_short_blanks1 head))
        (stops_short_any_case "DebugExit" opens (by decide))) (stops_short_blanks head)) ?_
  refine stops_short_one (fun c start => ?_) head
  cases mark : c == '(' with
  | false => rfl
  | true =>
      rw [beq_iff_eq.mp mark] at start
      exact absurd start (by decide)

/-- What an edit of drawing writes, behind a call of it if any. -/
theorem drawing_call_split (edit : Edit) (other : edit ≠ .freefile) {new : Text}
    (opens : Opens edit.call.toList new) :
    ∃ front name, new = front ++ name ∧ Opens "GraphicsManager_".toList name ∧ '(' ∉ front := by
  cases edit with
  | freefile => exact absurd rfl other
  | image =>
      have shape : Edit.image.call.toList = "GraphicsManager_".toList ++ "CreateImage&(".toList := by
        decide
      rw [shape] at opens
      exact ⟨[], new, rfl, opens_shorter _ _ _ opens, by simp⟩
  | point =>
      have shape : Edit.point.call.toList =
          "CALL ".toList ++ ("GraphicsManager_".toList ++ "SafePSET(".toList) := by decide
      obtain ⟨form, more, rfl, same⟩ := opens
      rw [shape] at same
      have front := List.forall₂_take "CALL ".toList.length same
      have name := List.forall₂_drop "CALL ".toList.length same
      rw [List.take_left] at front
      rw [List.drop_left] at name
      refine ⟨form.take "CALL ".toList.length, form.drop "CALL ".toList.length ++ more, ?_,
        opens_shorter _ "SafePSET(".toList _ ⟨_, more, rfl, name⟩, ?_⟩
      · rw [← List.append_assoc, List.take_append_drop]
      · intro member
        obtain ⟨letter, listed, form⟩ := letter_of_mem front member
        have none : "CALL ".toList.all (fun letter => !sameLetter letter '(') = true := by
          decide
        have differs := List.all_eq_true.mp none letter listed
        rw [form] at differs
        exact absurd differs (by decide)

theorem debug_exit_of_apply (edit : Edit) (other : edit ≠ .freefile) {line : Text}
    (exits : debugExitCall.startsText (edit.apply line) = true) :
    debugExitCall.startsText line = true := by
  rcases edit.apply_exchanges line with same | ⟨kept, old, new, tail, exchange⟩
  · rwa [same] at exits
  · obtain ⟨front, name, split, opens, absent⟩ := drawing_call_split edit other exchange.opensNew
    rw [exchange.after, split, List.append_assoc, ← List.append_assoc kept] at exits
    obtain ⟨piece, rest, whole, taken⟩ := (starts_text_iff ..).mp exits
    obtain ⟨between, keptSplit, -, -⟩ := debug_exit_stops [] (Edit.opens_left opens) none
      (kept ++ front) piece rest (fun fresh => absurd fresh (by decide)) whole taken
    obtain ⟨last, anywhere⟩ := debug_exit_takes taken
    obtain ⟨more, rfl, -⟩ := cut_before_tail kept piece front between '(' keptSplit last absent
    rw [starts_text_iff, exchange.before]
    exact ⟨piece, more ++ (old ++ tail), by simp, anywhere _⟩

/-- The edits of drawing make no exit. -/
theorem exit_of_apply (edit : Edit) (other : edit ≠ .freefile) {line : Text}
    (exits : isExit (edit.apply line) = true) : isExit line = true := by
  rw [isExit, Edit.starts_text_apply steady_bare_system, Edit.starts_text_apply steady_bare_end,
    Bool.or_eq_true] at exits
  rw [isExit, Bool.or_eq_true]
  exact exits.imp id (debug_exit_of_apply edit other)

end BasicBench.Instrument
