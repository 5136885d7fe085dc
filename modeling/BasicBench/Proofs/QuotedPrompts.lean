import BasicBench.Proofs.WaitsMoved
import BasicBench.Proofs.WaitsReplaced

/-!
Lines that quote the prompt for a key. Where every such line is a prompt statement by itself that no
edit changes, so is every one that stands outside blocks later: the passes write no quoted prompt
but that of a pause, and what they put into a line makes none with what stands around it.
-/

set_option autoImplicit false

namespace BasicBench.Text

open Pattern

/-- The text holds these letters one after the other, in any mixture of cases. -/
def Holds (letters text : Text) : Prop := ∃ piece, SameText letters piece ∧ piece <:+: text

theorem occurs_any_case_iff (word : String) (text : Text) :
    (anyCase word).occursIn text = true ↔ Holds word.toList text := by
  rw [occurs_in_iff]
  constructor
  · rintro ⟨above, piece, rest, rfl, taken⟩
    exact ⟨piece, (takes_any_case ..).mp taken, above, rest, List.append_assoc ..⟩
  · rintro ⟨piece, same, above, rest, rfl⟩
    exact ⟨above, piece, rest, List.append_assoc .., (takes_any_case ..).mpr same⟩

section

variable {letters : Text}

theorem holds_of_part {part text : Text} (inner : part <:+: text) (holds : Holds letters part) :
    Holds letters text := by
  rcases holds with ⟨piece, same, within⟩
  exact ⟨piece, same, within.trans inner⟩

theorem foreign_to_piece {piece : Text} {c : Char} (same : SameText letters piece)
    (foreign : letters.all (fun letter => !sameLetter letter c) = true) : c ∉ piece := by
  induction same with
  | nil => exact List.not_mem_nil
  | cons letter others induction =>
      rw [List.all_cons, Bool.and_eq_true, Bool.not_eq_true'] at foreign
      rw [List.mem_cons, not_or]
      refine ⟨?_, induction foreign.2⟩
      rintro rfl
      exact absurd (letter.symm.trans foreign.1) (by decide)

/-- The letters are not held across a character that is none of them. -/
theorem holds_break {c : Char}
    (foreign : letters.all (fun letter => !sameLetter letter c) = true) (left right : Text) :
    Holds letters (left ++ c :: right) ↔ Holds letters left ∨ Holds letters right := by
  have short : ∀ piece : Text, c ∉ piece → piece <+: c :: right → piece = [] := by
    intro piece outside starts
    cases piece with
    | nil => rfl
    | cons d piece =>
        rw [(List.cons_prefix_cons.mp starts).1] at outside
        exact absurd List.mem_cons_self outside
  constructor
  · rintro ⟨piece, same, within⟩
    have outside := foreign_to_piece same foreign
    rcases List.infix_append_iff.mp within with before | behind | ⟨front, back, rfl, ends, starts⟩
    · exact .inl ⟨piece, same, before⟩
    · rcases List.infix_cons_iff.mp behind with starts | later
      · rw [short piece outside starts] at same
        exact .inl ⟨[], same, List.nil_infix⟩
      · exact .inr ⟨piece, same, later⟩
    · have none : back = [] := by
        apply short back _ starts
        exact fun member => outside (List.mem_append_right front member)
      rw [none, List.append_nil] at same
      exact .inl ⟨front, same, ends.isInfix⟩
  · rintro (before | behind)
    · exact holds_of_part (List.prefix_append left _).isInfix before
    · apply holds_of_part _ behind
      exact ((List.suffix_cons c right).trans (List.suffix_append left _)).isInfix

/-- In front of a text another character than the first letter makes no difference. -/
theorem holds_head {first c : Char} (other : sameLetter first c = false) (text : Text) :
    Holds (first :: letters) (c :: text) ↔ Holds (first :: letters) text := by
  constructor
  · rintro ⟨piece, same, within⟩
    rcases List.infix_cons_iff.mp within with starts | later
    · rcases List.forall₂_cons_left_iff.mp same with ⟨d, others, letter, -, rfl⟩
      rw [(List.cons_prefix_cons.mp starts).1, other] at letter
      cases letter
    · exact ⟨piece, same, later⟩
  · exact holds_of_part (List.suffix_cons c text).isInfix

/-- Behind a text another character than the last letter makes no difference. -/
theorem holds_last {last c : Char} (other : sameLetter last c = false) (text : Text) :
    Holds (letters ++ [last]) (text ++ [c]) ↔ Holds (letters ++ [last]) text := by
  constructor
  · rintro ⟨piece, same, within⟩
    rcases List.infix_concat_iff.mp within with ends | earlier
    · have back := List.forall₂_reverse_iff.mpr same
      rw [List.reverse_concat] at back
      rcases List.forall₂_cons_left_iff.mp back with ⟨d, others, letter, -, turned⟩
      rw [← List.reverse_prefix, List.reverse_concat, turned] at ends
      rw [(List.cons_prefix_cons.mp ends).1, other] at letter
      cases letter
    · exact ⟨piece, same, earlier⟩
  · exact holds_of_part (List.prefix_append text [c]).isInfix

theorem holds_behind {last : Char} {tail : Text}
    (others : tail.all (fun c => !sameLetter last c) = true) (text : Text) :
    Holds (letters ++ [last]) (text ++ tail) ↔ Holds (letters ++ [last]) text := by
  induction tail generalizing text with
  | nil => rw [List.append_nil]
  | cons c tail induction =>
      rw [List.all_cons, Bool.and_eq_true, Bool.not_eq_true'] at others
      rw [List.append_cons text c tail, induction others.2, holds_last others.1]

end

end BasicBench.Text

namespace BasicBench.Instrument

open Text Pattern

/-- The letters of a quoted prompt. -/
def promptLetters : Text := "\"Press any key".toList

/-- The line quotes the prompt. -/
def Quotes (line : Text) : Prop := Holds promptLetters line

theorem prompt_letters_split : ∃ others front,
    promptLetters = '"' :: others ∧ promptLetters = front ++ ['y'] :=
  ⟨"Press any key".toList, "\"Press any ke".toList, by decide, by decide⟩

/-- No quoted prompt goes across a character that is not in it. -/
theorem quotes_break {c : Char}
    (foreign : promptLetters.all (fun letter => !sameLetter letter c) = true) (left right : Text) :
    Quotes (left ++ c :: right) ↔ Quotes left ∨ Quotes right :=
  holds_break foreign left right

theorem quotes_of_part {part text : Text} (inner : part <:+: text) (quotes : Quotes part) :
    Quotes text :=
  holds_of_part inner quotes

theorem quotes_behind {tail : Text} (others : tail.all (fun c => !sameLetter 'y' c) = true)
    (text : Text) : Quotes (text ++ tail) ↔ Quotes text := by
  rcases prompt_letters_split with ⟨-, front, -, split⟩
  rw [Quotes, Quotes, split]
  exact holds_behind others text

theorem quotes_blanks {left : Text} (blank : Blank left) (line : Text) :
    Quotes (left ++ line) ↔ Quotes line := by
  rcases prompt_letters_split with ⟨others, -, split, -⟩
  rw [Quotes, Quotes, split]
  induction left with
  | nil => rfl
  | cons c left induction =>
      have other : sameLetter '"' c = false := by
        cases same : sameLetter '"' c with
        | false => rfl
        | true =>
            have space := space_of_same_letter same
            rw [blank c List.mem_cons_self] at space
            exact absurd space (by decide)
      rw [List.cons_append, holds_head other]
      exact induction fun d member => blank d (List.mem_cons_of_mem c member)

instance (line : Text) : Decidable (Quotes line) :=
  decidable_of_iff _ (occurs_any_case_iff "\"Press any key" line)

theorem not_quotes_blank {line : Text} (blank : Blank line) : ¬Quotes line := by
  rw [← List.append_nil line, quotes_blanks blank]
  decide +kernel

/-! Edits. -/

theorem trim_within (text : Text) : trim text <:+: text := by
  rcases trim_split text with ⟨left, right, -, -, split⟩
  exact ⟨left, right, split.symm⟩

/-- A name and what stands behind it in parentheses make no quoted prompt with what is in front. -/
theorem not_quotes_call {run name more : Text} {stop : Char}
    (others : name.all (fun c => !sameLetter 'y' c) = true)
    (foreign : promptLetters.all (fun letter => !sameLetter letter stop) = true)
    (front : ¬Quotes run) (behind : ¬Quotes more) : ¬Quotes (run ++ (name ++ stop :: more)) := by
  rw [← List.append_assoc, quotes_break foreign, quotes_behind others, not_or]
  exact ⟨front, behind⟩

theorem not_quotes_comma {argument more : Text} (inner : ¬Quotes argument) (behind : ¬Quotes more) :
    ¬Quotes (trim argument ++ (", ".toList ++ more)) := by
  have blank : Blank [' '] := List.all_eq_true.mp (by decide)
  have shape : ", ".toList ++ more = ',' :: ([' '] ++ more) := by
    rw [show ", ".toList = [',', ' '] by decide]
    rfl
  rw [shape, quotes_break (by decide), quotes_blanks blank, not_or]
  exact ⟨mt (quotes_of_part (trim_within argument)) inner, behind⟩

theorem not_quotes_closing {argument more : Text} (inner : ¬Quotes argument)
    (behind : ¬Quotes more) : ¬Quotes (trim argument ++ ')' :: more) := by
  rw [quotes_break (by decide), not_or]
  exact ⟨mt (quotes_of_part (trim_within argument)) inner, behind⟩

theorem not_quotes_image {run width height out : Text} (front : ¬Quotes run)
    (first : ¬Quotes width) (second : ¬Quotes height) (behind : ¬Quotes out) :
    ¬Quotes (run ++ ("GraphicsManager_CreateImage&(".toList ++ trim width ++ ", ".toList ++
      trim height ++ [')'] ++ out)) := by
  have call : "GraphicsManager_CreateImage&(".toList =
      "GraphicsManager_CreateImage&".toList ++ ['('] := by decide
  rw [call]
  simp only [List.append_assoc, List.singleton_append]
  apply not_quotes_call (by decide) (by decide) front
  apply not_quotes_comma first
  exact not_quotes_closing second behind

theorem not_quotes_point {run x y colour out : Text} (front : ¬Quotes run)
    (first : ¬Quotes x) (second : ¬Quotes y) (third : ¬Quotes colour) (behind : ¬Quotes out) :
    ¬Quotes (run ++ ("CALL GraphicsManager_SafePSET(".toList ++ trim x ++ ", ".toList ++ trim y ++
      ", ".toList ++ trim colour ++ [')'] ++ out)) := by
  have call : "CALL GraphicsManager_SafePSET(".toList =
      "CALL GraphicsManager_SafePSET".toList ++ ['('] := by decide
  rw [call]
  simp only [List.append_assoc, List.singleton_append]
  apply not_quotes_call (by decide) (by decide) front
  apply not_quotes_comma first
  apply not_quotes_comma second
  exact not_quotes_closing third behind

/-- What an edit writes makes no quoted prompt with what stands around it. -/
theorem not_quotes_write (edit : Edit) {before : Option Char} {piece rest run out : Text}
    {found : Found} (reads : edit.pattern.Reads before piece rest found.groups)
    (front : ¬Quotes run) (inner : ¬Quotes piece) (behind : ¬Quotes out) :
    ¬Quotes (run ++ (edit.write found ++ out)) := by
  have part : ∀ argument : Text, argument <:+: piece → ¬Quotes argument :=
    fun argument within => mt (quotes_of_part within) inner
  cases edit with
  | freefile =>
      have call : "ResourceManager_GetFileHandle%".toList =
          "ResourceManager_GetFileHandle".toList ++ ['%'] := by decide
      change ¬Quotes (run ++ ("ResourceManager_GetFileHandle%".toList ++ out))
      rw [call, List.append_assoc]
      exact not_quotes_call (by decide) (by decide) front behind
  | image =>
      rcases Edit.reads_image _ _ _ _ reads with
        ⟨name, space, gap, width, gap', height, gap'', depth, rfl, -, -, -, -, -, groups⟩
      rw [Edit.write_image groups]
      apply not_quotes_image front (part width ?_) (part height ?_) behind
      · exact ⟨name ++ space ++ ['('] ++ gap,
          [','] ++ gap' ++ height ++ [','] ++ gap'' ++ depth ++ [')'], by simp⟩
      · exact ⟨name ++ space ++ ['('] ++ gap ++ width ++ [','] ++ gap',
          [','] ++ gap'' ++ depth ++ [')'], by simp⟩
  | point =>
      rcases Edit.reads_point _ _ _ _ reads with
        ⟨name, space, gap, x, gap', y, gap'', last, colour, rfl, -, -, -, -, -, -, -, -, groups⟩
      rw [Edit.write_point groups]
      apply not_quotes_point front (part x ?_) (part y ?_) (part colour ?_) behind
      · exact ⟨name ++ space ++ ['('] ++ gap,
          [','] ++ gap' ++ y ++ [')'] ++ gap'' ++ [','] ++ last ++ colour, by simp⟩
      · exact ⟨name ++ space ++ ['('] ++ gap ++ x ++ [','] ++ gap',
          [')'] ++ gap'' ++ [','] ++ last ++ colour, by simp⟩
      · exact ⟨name ++ space ++ ['('] ++ gap ++ x ++ [','] ++ gap' ++ y ++ [')'] ++ gap'' ++ [','] ++
          last, [], by simp⟩

/-- An edit makes no quoted prompt. -/
theorem not_quotes_apply (edit : Edit) {line : Text} (none : ¬Quotes line) :
    ¬Quotes (edit.apply line) := by
  suffices general : ∀ before out, edit.pattern.Rewrites edit.write before line out →
      ∀ run, ¬Quotes (run ++ line) → ¬Quotes (run ++ out) from
    general .none _ (edit.rewrites line) [] none
  clear none
  intro before out rewrites
  induction rewrites with
  | done before => exact fun run none => none
  | keep before c rest out _ _ induction =>
      intro run none
      rw [List.append_cons] at none ⊢
      exact induction (run ++ [c]) none
  | swap before piece rest out found _ reads _ induction =>
      intro run none
      have front : ¬Quotes run := mt (quotes_of_part ⟨[], piece ++ rest, rfl⟩) none
      have inner : ¬Quotes piece :=
        mt (quotes_of_part ⟨run, rest, List.append_assoc ..⟩) none
      have behind : ¬Quotes rest :=
        mt (quotes_of_part ⟨run ++ piece, [], by simp⟩) none
      exact not_quotes_write edit reads front inner (induction [] behind)

/-- Where a match begins, the character before it matters only if it is a letter. -/
theorem takes_fresh (edit : Edit) {before other : Option Char} {piece rest : Text}
    (fresh : other.any isWordChar = false) (taken : edit.pattern.Takes before piece rest) :
    edit.pattern.Takes other piece rest := by
  cases edit with
  | freefile =>
      rcases takes_freefile taken with ⟨-, same, behind⟩
      exact freefile_taken fresh same behind
  | image =>
      simp only [Edit.pattern, newimageCall, argument, takes_append, takes_any_case, takes_blanks,
        takes_one, takes_capture, takes_many1] at taken ⊢
      exact taken
  | point =>
      rcases taken with ⟨groups, reads⟩
      rcases Edit.reads_point _ _ _ _ reads with
        ⟨_, _, _, _, _, _, _, _, _, -, -, -, -, -, -, -, old, -, -⟩
      have taken : psetStatement.Takes before piece rest := ⟨groups, reads⟩
      change psetStatement.Takes other piece rest
      simp only [psetStatement, argument, takes_append, takes_any_case, takes_blanks, takes_one,
        takes_capture, takes_many1, takes_few1, takes_not_after, takes_ahead, takes_or,
        takes_text_end, old] at taken
      simp only [psetStatement, argument, takes_append, takes_any_case, takes_blanks, takes_one,
        takes_capture, takes_many1, takes_few1, takes_not_after, takes_ahead, takes_or,
        takes_text_end, fresh]
      exact taken

/-- An edit finds nothing in a line behind more indentation that it does not find without it. -/
theorem not_occurs_indented (edit : Edit) {left line : Text} (blank : Blank left)
    (none : edit.pattern.occursIn line = false) : edit.pattern.occursIn (left ++ line) = false := by
  rw [← Bool.not_eq_true, occurs_in_iff] at none ⊢
  rintro ⟨above, piece, rest, split, taken⟩
  have inner : ∃ between, above = left ++ between ∧ line = between ++ (piece ++ rest) := by
    rcases List.append_eq_append_iff.mp split with front | ⟨between, same, behind⟩
    · exact front
    · cases between with
      | nil => exact ⟨[], by simpa using same.symm, by simpa using behind.symm⟩
      | cons c between =>
          rcases taken with ⟨groups, reads⟩
          rcases edit.name_head_of_key (edit.reads_key _ _ _ _ reads).2 with ⟨d, more, rfl, start⟩
          rw [List.cons_append, List.cons_append, List.cons.injEq] at behind
          have space := blank c (by simp [same])
          rw [← behind.1, not_space_of_name_start d start] at space
          cases space
  rcases inner with ⟨between, rfl, rfl⟩
  apply none
  refine ⟨between, piece, rest, rfl, ?_⟩
  cases between using List.reverseRecOn with
  | nil => exact takes_fresh edit rfl taken
  | append_singleton between c _ =>
      rw [last_of_append, last_of_append, last_of_cons, last_of_nil] at taken
      rw [last_of_append, last_of_cons, last_of_nil]
      exact taken

/-! Lines that quote the prompt only to show it. -/

/-- A prompt statement or the call for a pause, which no edit changes. -/
structure Standalone (line : Text) : Prop where
  shows : promptStatement.startsText line = true ∨ ∃ left, Blank left ∧ line = pauseCall left
  fixed : ∀ edit : Edit, edit.pattern.occursIn line = false

/-- The line quotes the prompt, if at all, in a statement by itself. -/
def Tame (line : Text) : Prop := Quotes line → Standalone line

/-- So does every line outside blocks. -/
def AllTame (lines : List Text) : Prop := ∀ line, Outside lines line → Tame line

theorem tame_of_quoteless {line : Text} (none : ¬Quotes line) : Tame line :=
  fun quotes => absurd quotes none

theorem pause_standalone {left : Text} (blank : Blank left) : Standalone (pauseCall left) := by
  refine ⟨.inr ⟨left, blank, rfl⟩, fun edit => ?_⟩
  apply not_occurs_indented edit blank
  cases edit <;> decide +kernel

theorem tame_indented {left line : Text} (blank : Blank left) (tame : Tame line) :
    Tame (left ++ line) := by
  intro quotes
  rw [quotes_blanks blank] at quotes
  rcases tame quotes with ⟨shows, fixed⟩
  refine ⟨?_, fun edit => not_occurs_indented edit blank (fixed edit)⟩
  rcases shows with prompts | ⟨gap, empty, rfl⟩
  · left
    rw [← role_prompt_iff, role_behind blank, role_prompt_iff]
    exact prompts
  · right
    exact ⟨left ++ gap, (blank_append ..).mpr ⟨blank, empty⟩, by simp [pauseCall]⟩

theorem tame_indent_line {line : Text} (tame : Tame line) : Tame (indentLine line) := by
  rcases indent_line_cases line with ⟨-, same⟩ | same
  · rw [same]
    exact tame_of_quoteless (not_quotes_blank blank_nil)
  · rw [same]
    exact tame_indented blank_indent tame

theorem tame_apply (edit : Edit) {line : Text} (tame : Tame line) : Tame (edit.apply line) := by
  by_cases quotes : Quotes line
  · rw [(apply_rests_iff edit line).mpr ((tame quotes).fixed edit)]
    exact tame
  · exact tame_of_quoteless (not_quotes_apply edit quotes)

theorem not_quotes_file_log {line other : Text} (added : fileLog? line = some other)
    (none : ¬Quotes line) : ¬Quotes other := by
  rcases file_log_some added with
    ⟨-, left, form, gap, name, c, more, rfl, blank, -, -, -, -, rfl⟩
  have written : fileLogCall ++ ", \"Opened file: \" + ".toList =
      "CALL LogMessage(\"FILE\", \"Opened file: \" ".toList ++ ['+', ' '] := by decide
  have shape : left ++ fileLogCall ++ ", \"Opened file: \" + ".toList ++ name ++ [')'] =
      left ++ ("CALL LogMessage(\"FILE\", \"Opened file: \" ".toList ++
        '+' :: ([' '] ++ (name ++ ')' :: []))) := by
    rw [List.append_assoc left, written]
    simp
  have space : Blank [' '] := List.all_eq_true.mp (by decide)
  have nameQuiet : ¬Quotes name :=
    mt (quotes_of_part ⟨left ++ (form ++ gap), c :: more, by simp⟩) none
  rw [shape, quotes_blanks blank, quotes_break (by decide), quotes_blanks space,
    quotes_break (by decide), not_or, not_or]
  exact ⟨by decide +kernel, nameQuiet, by decide +kernel⟩

/-- An open statement is neither a prompt nor a call. -/
theorem not_open_of_standalone {line : Text} (alone : Standalone line) :
    openStatement.startsText line = false := by
  rcases alone.shows with prompts | ⟨left, blank, rfl⟩
  · exact not_starts_of_leads led_open (by decide) (leads_of_starts led_prompt prompts)
  · exact not_starts_of_leads led_open (by decide) (leads_of_calls (calls_pause left blank))

theorem front_lines_quoteless (hasConsole autoExit : Bool) :
    ∀ line ∈ asLines (frontLines hasConsole autoExit), ¬Quotes line := by
  cases hasConsole <;> cases autoExit <;> decide +kernel

theorem tame_middle {sections : Sections} (tame : ∀ line ∈ sections.main, Tame line)
    {hasConsole autoExit : Bool} {line : Text}
    (member : line ∈ middleLines sections hasConsole autoExit) : Tame line := by
  rw [middleLines, List.mem_append, List.mem_append, List.mem_map, List.mem_cons] at member
  rcases member with front | ⟨other, body, rfl⟩ | rfl | gap
  · exact tame_of_quoteless (front_lines_quoteless hasConsole autoExit line front)
  · exact tame_indent_line (tame other (mem_main_of_mem_body body))
  · exact tame_of_quoteless (by decide +kernel)
  · split at gap
    · exact absurd gap List.not_mem_nil
    · rw [List.mem_singleton.mp gap]
      exact tame_of_quoteless (not_quotes_blank blank_nil)

theorem tame_arrange {lines : List Text} (tame : AllTame lines) (hasConsole autoExit : Bool)
    (wrapping : wraps lines = true) :
    AllTame (arrange (Sections.ofLines lines) hasConsole autoExit) := by
  rcases Sections.distributed_of_lines lines with ⟨main, top, procedures, -⟩
  intro line outside
  rw [Outside, masked_arrange _ _ wrapping, List.mem_append, List.mem_append] at outside
  rcases outside with onTop | between | below
  · exact tame line (top line onTop)
  · rcases List.mem_map.mp between with ⟨other, member, same⟩
    rw [← (Prod.mk.inj same).1]
    exact tame_middle (fun source body => tame source (main source body)) member
  · exact tame line (procedures line below)

/-- What the console's pass writes outside blocks. -/
inductive ConsoleLine : Text → Prop where
  | directive : ConsoleLine "$CONSOLE".toList
  | gap {line : Text} (blank : Blank line) : ConsoleLine line
  | pause {left : Text} (blank : Blank left) : ConsoleLine (pauseCall left)
  | exit {left : Text} (blank : Blank left) : ConsoleLine (exitCall left)

/-- The actions of the console's pass, with any block. -/
def Action.isConsole : Action → Bool
  | normalize | direct | support _ | pause | exit => true
  | _ => false

/-- Behind an action of the console's pass a line outside blocks was there, or the pass wrote it. -/
theorem outside_console_cases {options : Options} {stamp : Text} (plain : Unbroken stamp)
    {action : Action} (ours : action.isConsole = true) {lines : List Text}
    (unbroken : AllUnbroken lines) {line : Text}
    (outside : Outside (action.perform options stamp lines) line) :
    Outside lines line ∨ ConsoleLine line := by
  cases action with
  | normalize =>
      rw [Outside, Action.perform, masked_normalize] at outside
      rcases List.mem_map.mp outside with ⟨⟨other, inside⟩, member, same⟩
      rcases Prod.mk.inj same with ⟨rfl, side⟩
      rw [show inside = false from side] at member
      rw [normalizeLine]
      split
      · exact .inr .directive
      · exact .inl member
  | direct =>
      rw [Action.perform] at outside
      split at outside
      · exact .inl outside
      · rw [Outside, masked_direct] at outside
        rcases List.mem_cons.mp outside with new | old
        · rw [(Prod.mk.inj new).1]
          exact .inr .directive
        · exact .inl old
  | support feature =>
      rw [Action.perform] at outside
      split at outside
      · exact .inl outside
      · exact (outside_insert (contained_support options stamp plain lines feature) outside).imp_right
          .gap
  | pause =>
      rcases pauses_cases (masked_replace_waits lines) outside with
        old | ⟨left, more, blank, -, same⟩
      · exact .inl old
      · rw [(Prod.mk.inj same).1]
        exact .inr (.pause blank)
  | exit =>
      rcases outside_edit (plain_replaced_end unbroken) outside with ⟨other, old, rfl⟩
      rcases replace_end_cases other (unbroken other (mem_of_mem_masked old)) with
        ⟨-, same⟩ | ⟨-, left, more, blank, -, same⟩
      · rw [same]
        exact .inl old
      · rw [same]
        exact .inr (.exit blank)
  | wrap | exchange | cleanUp | logFiles | takeShots => exact absurd ours (by simp [Action.isConsole])

theorem tame_of_console {line : Text} (ours : ConsoleLine line) : Tame line := by
  cases ours with
  | directive => exact tame_of_quoteless (by decide +kernel)
  | gap blank => exact tame_of_quoteless (not_quotes_blank blank)
  | pause blank => exact fun _ => pause_standalone blank
  | exit blank =>
      apply tame_of_quoteless
      rw [exitCall, quotes_blanks blank]
      decide +kernel

/-- Prompts that stand by themselves do so after every action. -/
theorem tame_kept {options : Options} {stamp : Text} (plain : Unbroken stamp) (action : Action) :
    KeptBy options stamp AllTame action := by
  intro lines unbroken tame line outside
  have shown : action.isConsole = true → Tame line := fun ours =>
    (outside_console_cases plain ours unbroken outside).elim (tame line) tame_of_console
  cases action with
  | normalize | direct | support | pause | exit => exact shown rfl
  | wrap =>
      rw [Action.perform, flow_control_eq] at outside
      split at outside
      next wrapping => exact tame_arrange tame _ _ wrapping line outside
      next => exact tame line outside
  | exchange edit =>
      rw [Outside, Action.perform, masked_exchange edit lines unbroken] at outside
      rcases List.mem_map.mp outside with ⟨⟨other, inside⟩, member, same⟩
      rcases Prod.mk.inj same with ⟨rfl, side⟩
      rw [show inside = false from side] at member ⊢
      exact tame_apply edit (tame other member)
  | cleanUp =>
      rw [Outside, Action.perform, masked_insert_cleanup] at outside
      rcases guard_tagged_cases none outside with old | ⟨other, -, same⟩
      · exact tame line old
      · apply tame_of_quoteless
        rw [(Prod.mk.inj same).1, quotes_blanks (blank_indentation other.1)]
        decide +kernel
  | logFiles =>
      rw [Outside, Action.perform, masked_log_files] at outside
      rcases follow_tagged_cases _ _ outside with old | ⟨other, old, added⟩
      · exact tame line old
      · apply tame_of_quoteless
        apply not_quotes_file_log added
        intro quotes
        have opens := (file_log_some added).1
        rw [not_open_of_standalone (tame other old quotes)] at opens
        cases opens
  | takeShots =>
      rw [Outside, Action.perform, masked_take_shots] at outside
      rcases follow_tagged_cases _ _ outside with old | ⟨other, old, added⟩
      · exact tame line old
      · rcases screenshot_some added with ⟨-, left, more, blank, -, rfl⟩
        apply tame_of_quoteless
        rw [quotes_blanks blank]
        decide +kernel

theorem tame_ignores_end : IgnoresEnd AllTame :=
  outside_ignores_end (tame_of_quoteless (not_quotes_blank blank_nil))

end BasicBench.Instrument
