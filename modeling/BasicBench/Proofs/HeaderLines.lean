import BasicBench.Proofs.Frames
import BasicBench.Proofs.TopLines

/-!
Programs that are nothing but header lines, and the last line of a program. A pass edits header
lines into header lines and puts its calls next to statements only, so apart from the block it
changes neither: a program of header lines stays one, no other program becomes one, and the last
line is empty behind the pass where it was before. The block goes below the header, with an empty
line behind it, which is the last line exactly where there is nothing but header lines.
-/

set_option autoImplicit false

namespace BasicBench.Instrument

open Text Pattern

/-! Header lines. -/

/-- A mark that begins a directive or a comment. -/
def isHeaderMark (c : Char) : Bool := c == '$' || c == '\''

/-- What a header line outside blocks begins with. -/
def headerStart : Pattern := textStart ++ blanks ++ (textEnd ||| one isHeaderMark)

theorem header_iff_starts (line : Text) :
    isHeader line false = headerStart.startsText line := by
  rw [Bool.eq_iff_iff, starts_text_iff]
  simp only [headerStart, takes_append, takes_text_start, takes_blanks, takes_or, takes_text_end,
    takes_one]
  constructor
  · intro header
    rcases header_shape header with blank | ⟨c, core, shape, mark⟩
    · exact ⟨line, [], (List.append_nil line).symm, line, [], (List.append_nil line).symm,
        ⟨[], line, rfl, ⟨rfl, trivial⟩, blank⟩, .inl ⟨rfl, .inl rfl⟩⟩
    · obtain ⟨left, right, blank, -, split⟩ := trim_split line
      rw [shape, List.append_assoc, List.cons_append] at split
      refine ⟨left ++ [c], core ++ right, by simp [split], left, [c], rfl,
        ⟨[], left, rfl, ⟨rfl, trivial⟩, blank⟩, .inr ⟨c, ?_, rfl⟩⟩
      rcases mark with rfl | rfl
      · decide
      · decide
  · rintro ⟨_, rest, rfl, _, right, rfl, ⟨_, left, rfl, ⟨rfl, -⟩, blank⟩, ending⟩
    rw [List.nil_append, List.append_assoc, isHeader, trim_append_left left _ blank]
    rcases ending with ⟨rfl, rfl | rfl⟩ | ⟨c, mark, rfl⟩
    · rfl
    · decide
    · have solid : isSpace c = false := by
        simp only [isHeaderMark, Bool.or_eq_true, beq_iff_eq] at mark
        rcases mark with rfl | rfl
        · decide
        · decide
      obtain ⟨core, right, -, -, shape⟩ := trim_cons c rest solid
      rw [List.singleton_append, shape]
      exact mark

theorem not_mark_of_name_start (c : Char) (start : Token.isNameStart c = true) :
    isHeaderMark c = false := by
  cases mark : isHeaderMark c with
  | false => rfl
  | true =>
      simp only [isHeaderMark, Bool.or_eq_true, beq_iff_eq] at mark
      rcases mark with rfl | rfl
      · exact absurd start (by decide)
      · exact absurd start (by decide)

theorem steady_header_start : Edit.Steady headerStart :=
  Edit.steady_append (Edit.steady_append Edit.steady_text_start Edit.steady_blanks)
    (Edit.steady_or Edit.steady_text_end (Edit.steady_one not_mark_of_name_start))

/-- No statement is a header line. -/
theorem not_header_of_not_top {line : Text} (statement : isTopLine line = false) :
    isHeader line false = false := by
  cases header : isHeader line false with
  | false => rfl
  | true =>
      rw [(top_of_header header).2] at statement
      exact absurd statement (by decide)

theorem not_header_of_calls {name line : Text} (calls : Calls name line) :
    isHeader line false = false :=
  not_header_of_not_top (not_top_of_leads (leads_of_calls calls) (by decide) (by decide)
    (by decide))

theorem nonempty_of_not_header {line : Text} (other : isHeader line false = false) :
    line ≠ [] := by
  rintro rfl
  exact absurd other (by decide)

/-! Edits. -/

/-- An edit that makes no header line of a statement and no statement of a header line. -/
structure KeepsHeader (edit : Text → Text) : Prop where
  header : ∀ line, Unbroken line → isHeader (edit line) false = isHeader line false
  empty : ∀ line, Unbroken line → (edit line = [] ↔ line = [])
  unbroken : ∀ line, Unbroken line → Unbroken (edit line)

theorem keeps_header_id : KeepsHeader id where
  header _ _ := rfl
  empty _ _ := Iff.rfl
  unbroken _ unbroken := unbroken

theorem keeps_header_comp {first second : Text → Text} (before : KeepsHeader first)
    (after : KeepsHeader second) : KeepsHeader (second ∘ first) where
  header line unbroken :=
    (after.header _ (before.unbroken line unbroken)).trans (before.header line unbroken)
  empty line unbroken :=
    (after.empty _ (before.unbroken line unbroken)).trans (before.empty line unbroken)
  unbroken line unbroken := after.unbroken _ (before.unbroken line unbroken)

theorem keeps_header_apply (edit : Edit) : KeepsHeader edit.apply where
  header line _ := by
    rw [header_iff_starts, header_iff_starts, Edit.starts_text_apply steady_header_start]
  empty line _ := by
    rcases edit.apply_exchanges line with same | ⟨kept, old, new, tail, exchange⟩
    · rw [same]
    · obtain ⟨c, more, rfl, -⟩ := edit.name_head_of_key exchange.opensOld
      obtain ⟨d, others, rfl, -⟩ := edit.name_head_of_call exchange.opensNew
      rw [exchange.after]
      conv => rhs; rw [exchange.before]
      simp
  unbroken := edit.unbroken_apply

theorem keeps_header_replace_end : KeepsHeader replaceEnd where
  header line unbroken := by
    rcases replace_end_cases line unbroken with ⟨-, same⟩ | ⟨ends, left, more, blank, -, same⟩
    · rw [same]
    · have statement := not_top_of_leads (leads_of_starts led_bare_end ends) (by decide)
        (by decide) (by decide)
      rw [same, not_header_of_calls (calls_exit left blank), not_header_of_not_top statement]
  empty line unbroken := by
    rcases replace_end_cases line unbroken with ⟨-, same⟩ | ⟨ends, left, more, -, -, same⟩
    · rw [same]
    · have shown : line ≠ [] := by
        rintro rfl
        exact absurd ends (by decide)
      simp [same, shown, exitCall]
  unbroken := unbroken_replace_end

theorem header_of_console_off {line : Text} (off : consoleOff.startsText line = true) :
    isHeader line false = true := by
  have leads := leads_of_starts led_console_off off
  rw [show "$CONSOLE".toList = '$' :: "CONSOLE".toList by decide] at leads
  obtain ⟨d, core, shape, same⟩ := leads_trim (by decide) leads
  obtain rfl := mark_of_same_letter (by decide) same
  rw [isHeader, shape]
  rfl

theorem keeps_header_normalize : KeepsHeader normalizeLine where
  header line _ := by
    rw [normalizeLine]
    split
    next off => rw [header_of_console_off off]; decide
    next => rfl
  empty line _ := by
    rw [normalizeLine]
    split
    next off =>
      have shown : line ≠ [] := by
        rintro rfl
        exact absurd off (by decide)
      simp [shown]
    next => rfl
  unbroken line unbroken := by
    rw [normalizeLine]
    split
    · exact unbroken_fixed (by decide)
    · exact unbroken

/-! Rules. -/

/-- Rules that keep header lines and put calls next to statements only. -/
structure SpareHeaders (rules : LineRules) : Prop where
  edit : KeepsHeader rules.edit
  above : ∀ line call, rules.above? line = some call → isHeader line false = false
  below : ∀ line call, rules.below? line = some call → isHeader line false = false ∧ call ≠ []

theorem rules_spare_headers (options : Options) (feature : Feature) :
    SpareHeaders (rulesOf options feature) := by
  cases feature with
  | console =>
      have edit : KeepsHeader (if options.autoExit then replaceEnd else id) := by
        split
        · exact keeps_header_replace_end
        · exact keeps_header_id
      exact ⟨edit, by simp [rulesOf], by simp [rulesOf]⟩
  | flowControl => exact ⟨keeps_header_id, by simp [rulesOf], by simp [rulesOf]⟩
  | resources =>
      refine ⟨keeps_header_apply .freefile, fun line call added => ?_, by simp [rulesOf]⟩
      have guarded : cleanupFor? line = some call := added
      rw [cleanupFor?] at guarded
      split at guarded
      next exits => exact not_header_of_not_top (not_top_of_exit exits)
      next => exact absurd guarded (by simp)
  | graphics =>
      have edit : KeepsHeader drawn :=
        keeps_header_comp (keeps_header_apply .image) (keeps_header_apply .point)
      exact ⟨edit, by simp [rulesOf], by simp [rulesOf]⟩
  | logging =>
      refine ⟨keeps_header_id, by simp [rulesOf], fun line call added => ?_⟩
      have logged : fileLog? line = some call := added
      exact ⟨not_header_of_not_top (not_top_of_open (file_log_some logged).1),
        nonempty_of_not_header (not_header_of_calls (calls_file_log logged))⟩
  | screenshots =>
      refine ⟨keeps_header_id, by simp [rulesOf], fun line call added => ?_⟩
      have shot : screenshot? line = some call := added
      exact ⟨not_header_of_not_top (not_top_of_draw (screenshot_some shot).1),
        nonempty_of_not_header (not_header_of_calls (calls_screenshot shot))⟩

/-- No line but header lines and lines in blocks. -/
def AllHeaders (tagged : List (Text × Bool)) : Prop :=
  ∀ entry ∈ tagged, isHeader entry.1 entry.2 = true

theorem all_headers_cons (entry : Text × Bool) (rest : List (Text × Bool)) :
    AllHeaders (entry :: rest) ↔ isHeader entry.1 entry.2 = true ∧ AllHeaders rest :=
  List.forall_mem_cons

theorem all_headers_append (left right : List (Text × Bool)) :
    AllHeaders (left ++ right) ↔ AllHeaders left ∧ AllHeaders right :=
  List.forall_mem_append

theorem all_headers_inside (lines : List Text) : AllHeaders (lines.map (·, true)) := by
  intro entry member
  obtain ⟨line, -, rfl⟩ := List.mem_map.mp member
  rfl

section Treated

variable {rules : LineRules} {before after : List (Text × Bool)}

/-- Lines that are treated by such rules are header lines where they were. -/
theorem headers_of_treated (spare : SpareHeaders rules) (treated : Treated rules before after)
    (unbroken : ∀ entry ∈ before, Unbroken entry.1) : AllHeaders after ↔ AllHeaders before := by
  induction treated with
  | done => exact Iff.rfl
  | inside line rest out _ induction =>
      rw [List.forall_mem_cons] at unbroken
      rw [all_headers_cons, all_headers_cons, induction unbroken.2]
  | outside line above below rest out _ beforeCalls behindCalls _ induction =>
      rw [List.forall_mem_cons] at unbroken
      have kept := spare.edit.header line unbroken.1
      rw [all_headers_append, all_headers_cons, all_headers_append, all_headers_cons,
        induction unbroken.2]
      cases header : isHeader line false with
      | false => simp [kept.trans header]
      | true =>
          -- A header line has no calls next to it.
          have noAbove : rules.above? (rules.edit line) = none := by
            rw [Option.eq_none_iff_forall_ne_some]
            intro call added
            rw [spare.above _ _ added, header] at kept
            exact absurd kept (by decide)
          have noBelow : rules.below? line = none := by
            rw [Option.eq_none_iff_forall_ne_some]
            intro call added
            rw [(spare.below _ _ added).1] at header
            exact absurd header (by decide)
          rw [noAbove, Option.toList_none, List.sublist_nil] at beforeCalls
          rw [noBelow, Option.toList_none, List.sublist_nil] at behindCalls
          simp [beforeCalls, behindCalls, kept.trans header, AllHeaders]
  | pause line indent wait gap rest out _ prompts blank _ _ _ _ _ =>
      have statement : isHeader line false = false := by
        cases header : isHeader line false with
        | false => rfl
        | true =>
            rw [header_no_prompt header] at prompts
            exact absurd prompts (by decide)
      have call := not_header_of_calls (calls_pause indent blank)
      simp [all_headers_cons, statement, call]

theorem nil_of_treated (treated : Treated rules before after) : before = [] ↔ after = [] := by
  cases treated <;> simp

end Treated

/-! The last line. -/

/-- The last line is empty. -/
def EndsEmpty (lines : List Text) : Prop := lines.getLast? = some []

instance (lines : List Text) : Decidable (EndsEmpty lines) :=
  inferInstanceAs (Decidable (lines.getLast? = some []))

theorem ends_empty_append {left right : List Text} (some : right ≠ []) :
    EndsEmpty (left ++ right) ↔ EndsEmpty right := by
  rw [EndsEmpty, EndsEmpty, List.getLast?_append_of_ne_nil left some]

theorem ends_empty_concat (left : List Text) (line : Text) :
    EndsEmpty (left ++ [line]) ↔ line = [] := by
  rw [EndsEmpty, List.getLast?_concat, Option.some.injEq]

theorem ends_empty_single (line : Text) : EndsEmpty [line] ↔ line = [] :=
  ends_empty_concat [] line

/-- Where two programs go on alike, or stop at the same time, they end alike. -/
theorem ends_empty_congr {left left' right right' : List Text} (alike : right = [] ↔ right' = [])
    (stop : right = [] → (EndsEmpty left ↔ EndsEmpty left'))
    (goes : EndsEmpty right ↔ EndsEmpty right') :
    EndsEmpty (left ++ right) ↔ EndsEmpty (left' ++ right') := by
  by_cases last : right = []
  · rw [last, alike.mp last, List.append_nil, List.append_nil]
    exact stop last
  · rw [ends_empty_append last, ends_empty_append (mt alike.mpr last), goes]

theorem single_of_sublist {found : Option Text} {call : Text} {others : List Text}
    (sublist : (call :: others).Sublist found.toList) : found = some call ∧ others = [] := by
  cases found with
  | none => exact absurd sublist (by simp)
  | some other => simpa [eq_comm] using sublist

/-- Lines that are treated by such rules end with an empty line where they did before. -/
theorem last_of_treated {rules : LineRules} {before after : List (Text × Bool)}
    (spare : SpareHeaders rules) (treated : Treated rules before after)
    (unbroken : ∀ entry ∈ before, Unbroken entry.1) :
    EndsEmpty (after.map (·.1)) ↔ EndsEmpty (before.map (·.1)) := by
  induction treated with
  | done => exact Iff.rfl
  | inside line rest out next induction =>
      rw [List.forall_mem_cons] at unbroken
      rw [List.map_cons, List.map_cons, ← List.singleton_append, ← List.singleton_append]
      refine ends_empty_congr ?_ (fun _ => Iff.rfl) (induction unbroken.2)
      rw [List.map_eq_nil_iff, List.map_eq_nil_iff, nil_of_treated next]
  | outside line above below rest out _ _ behind next induction =>
      rw [List.forall_mem_cons] at unbroken
      have split : (above.map (·, false) ++ (rules.edit line, false) ::
          (below.map (·, false) ++ out)).map (·.1) =
          (above ++ rules.edit line :: below) ++ out.map (·.1) := by
        simp [Function.comp_def]
      have whole : ((line, false) :: rest).map (·.1) = [line] ++ rest.map (·.1) := rfl
      rw [split, whole]
      refine ends_empty_congr ?_ (fun _ => ?_) (induction unbroken.2)
      · rw [List.map_eq_nil_iff, List.map_eq_nil_iff, nil_of_treated next]
      · rw [ends_empty_append (List.cons_ne_nil _ _), ends_empty_single]
        rcases below with _ | ⟨call, others⟩
        · rw [ends_empty_single, spare.edit.empty line unbroken.1]
        · -- A call is not empty, and no empty line has one below it.
          obtain ⟨added, rfl⟩ := single_of_sublist behind
          obtain ⟨statement, shown⟩ := spare.below line call added
          have line' := nonempty_of_not_header statement
          rw [← List.singleton_append, ends_empty_concat]
          simp [shown, line']
  | pause line indent wait gap rest out _ _ _ _ _ waits next induction =>
      rw [List.forall_mem_cons, List.forall_mem_append, List.forall_mem_cons] at unbroken
      have split : ((line, false) :: (gap.map (·, false) ++ (wait, false) :: rest)).map (·.1) =
          (line :: gap ++ [wait]) ++ rest.map (·.1) := by
        simp [Function.comp_def]
      have whole : ((pauseCall indent, false) :: out).map (·.1) =
          [pauseCall indent] ++ out.map (·.1) := rfl
      rw [split, whole]
      refine ends_empty_congr ?_ (fun _ => ?_) (induction unbroken.2.2.2)
      · rw [List.map_eq_nil_iff, List.map_eq_nil_iff, nil_of_treated next]
      · have shown : wait ≠ [] := by
          rintro rfl
          exact absurd waits (by decide)
        rw [ends_empty_single, ends_empty_concat]
        simp [shown, pauseCall]

/-! Whole passes. -/

/-- A program of nothing but header lines. -/
def HeaderOnly (lines : List Text) : Prop := AllHeaders (masked lines)

instance (lines : List Text) : Decidable (HeaderOnly lines) :=
  inferInstanceAs (Decidable (∀ entry ∈ masked lines, isHeader entry.1 entry.2 = true))

theorem header_only_ignores_end : IgnoresEnd HeaderOnly := by
  intro lines
  obtain ⟨inside, split⟩ := masked_concat_blank lines
  have empty : isHeader [] inside = true := by cases inside <;> rfl
  rw [HeaderOnly, split, all_headers_append]
  simp [HeaderOnly, AllHeaders, empty]

theorem unbroken_masked {lines : List Text} (unbroken : AllUnbroken lines) :
    ∀ entry ∈ masked lines, Unbroken entry.1 :=
  fun _ member => unbroken _ (mem_of_mem_masked member)

section Inserted

variable {options : Options} {stamp : Text} {feature : Feature}
  {before above added below : List (Text × Bool)}

/-- What is put in is a block and an empty line, or nothing where there is a block. -/
theorem added_cases (inserted : Inserted options stamp feature before above added below) :
    (hasBlock feature (before.map (·.1)) = true ∧ added = []) ∨
      (hasBlock feature (before.map (·.1)) = false ∧ AllHeaders added ∧
        ∃ block side, added = block ++ [([], side)]) := by
  cases present : hasBlock feature (before.map (·.1)) with
  | true => exact .inl ⟨rfl, inserted.present present⟩
  | false =>
      obtain ⟨-, side, rfl⟩ := inserted.missing present
      refine .inr ⟨rfl, ?_, _, side, rfl⟩
      rw [all_headers_append]
      refine ⟨all_headers_inside _, ?_⟩
      intro entry member
      rw [List.mem_singleton.mp member]
      cases side <;> rfl

theorem headers_of_inserted (inserted : Inserted options stamp feature before above added below) :
    AllHeaders (above ++ added ++ below) ↔ AllHeaders before := by
  rw [inserted.split]
  rcases added_cases inserted with ⟨-, rfl⟩ | ⟨-, headers, -⟩
  · rw [List.append_nil]
  · simp only [all_headers_append, headers, and_true]

/-- The empty line behind a new block is the last line where all lines are header lines. -/
theorem last_of_inserted (inserted : Inserted options stamp feature before above added below) :
    EndsEmpty ((above ++ added ++ below).map (·.1)) ↔ EndsEmpty (before.map (·.1)) ∨
      hasBlock feature (before.map (·.1)) = false ∧ AllHeaders before := by
  have split := inserted.split
  rcases added_cases inserted with ⟨present, rfl⟩ | ⟨missing, -, block, side, rfl⟩
  · rw [List.append_nil, ← split, present]
    simp
  · cases below with
    | nil =>
        rw [List.append_nil] at split
        have only : AllHeaders before := split ▸ inserted.header
        rw [List.append_nil, ← List.append_assoc, List.map_append]
        exact iff_of_true ((ends_empty_concat _ []).mpr rfl) (.inr ⟨missing, only⟩)
    | cons entry below =>
        have other : ¬AllHeaders before := by
          intro only
          have stops := inserted.stop entry rfl
          rw [only entry (by simp [split])] at stops
          exact absurd stops (by decide)
        have filled : (entry :: below).map (·.1) ≠ [] := by simp
        rw [List.map_append, ends_empty_append filled]
        conv => rhs; rw [split]
        rw [List.map_append, ends_empty_append filled]
        simp only [split ▸ other, and_false, or_false]

end Inserted

section Passes

variable (options : Options) (stamp : Text) (feature : Feature) {lines : List Text}

/-- Before it adds its block a pass changes no header line and leaves the last line. -/
theorem headers_of_leading (unbroken : AllUnbroken lines) :
    HeaderOnly (performAll options stamp (leadingActions feature) lines) ↔ HeaderOnly lines := by
  have normal : AllHeaders (normalizedFor feature (masked lines)) ↔ AllHeaders (masked lines) := by
    rw [normalizedFor]
    split
    · simp only [AllHeaders, List.forall_mem_map]
      refine forall₂_congr fun entry member => ?_
      obtain ⟨line, inside⟩ := entry
      cases inside with
      | true => exact Iff.rfl
      | false => rw [keeps_header_normalize.header line (unbroken _ (mem_of_mem_masked member))]
    · exact Iff.rfl
  have directive : AllHeaders (directiveFor feature (normalizedFor feature (masked lines))) := by
    rw [directiveFor]
    split
    · intro entry member
      rw [List.mem_singleton.mp member]
      decide
    · exact fun _ member => absurd member List.not_mem_nil
  rw [HeaderOnly, masked_leading, all_headers_append, normal]
  exact and_iff_right directive

theorem last_of_leading (unbroken : AllUnbroken lines) :
    EndsEmpty (performAll options stamp (leadingActions feature) lines) ↔ EndsEmpty lines := by
  cases feature with
  | console =>
      have normal : EndsEmpty (lines.map normalizeLine) ↔ EndsEmpty lines := by
        rcases List.eq_nil_or_concat lines with rfl | ⟨others, line, rfl⟩
        · rfl
        · rw [List.concat_eq_append, List.map_append, List.map_singleton, ends_empty_concat,
            ends_empty_concat, keeps_header_normalize.empty line (unbroken line (by simp))]
      have leading : performAll options stamp (leadingActions .console) lines =
          Action.direct.perform options stamp (lines.map normalizeLine) := rfl
      rw [leading, Action.perform]
      split
      · exact normal
      · rw [← normal, ← List.singleton_append]
        have alone : EndsEmpty ["$CONSOLE".toList] ↔ EndsEmpty [] := by decide
        exact ends_empty_congr Iff.rfl (fun _ => alone) Iff.rfl
  | _ => exact Iff.rfl

theorem has_block_leading (unbroken : AllUnbroken lines) :
    hasBlock feature (performAll options stamp (leadingActions feature) lines) =
      hasBlock feature lines := by
  rw [Bool.eq_iff_iff, has_block_iff, has_block_iff,
    count_marker_leading options stamp feature feature lines unbroken]

variable {options stamp feature}

/-- A pass keeps header lines, and it leaves the last line unless its block becomes it. -/
theorem headers_and_last_of_pass (plain : Unbroken stamp) (owns : feature ≠ .flowControl)
    (unbroken : AllUnbroken lines) {draft : Draft}
    (drafted : passDraft? options stamp lines feature = some draft) :
    (HeaderOnly (performAll options stamp (actionsOf options feature) lines) ↔ HeaderOnly lines) ∧
      (EndsEmpty (performAll options stamp (actionsOf options feature) lines) ↔
        EndsEmpty lines ∨ hasBlock feature lines = false ∧ HeaderOnly lines) := by
  rw [actions_around_support options feature owns, perform_all_append]
  have ready : AllUnbroken (performAll options stamp (leadingActions feature) lines) :=
    unbroken_perform_all plain _ lines unbroken
  have headersBefore := headers_of_leading options stamp feature unbroken
  have lastBefore := last_of_leading options stamp feature unbroken
  have present := has_block_leading options stamp feature unbroken
  obtain ⟨above, added, below, inserted, supported⟩ := inserted_of_draft plain owns drafted
  generalize performAll options stamp (leadingActions feature) lines = start at *
  have whole := unbroken_perform options stamp plain start ready (.support feature)
  have treated : Treated (rulesOf options feature) _ (masked (performAll options stamp _ _)) :=
    treated_trailing plain owns whole
  have spare := rules_spare_headers options feature
  have headers := headers_of_treated spare treated (unbroken_masked whole)
  have last := last_of_treated spare treated (unbroken_masked whole)
  rw [supported, headers_of_inserted inserted] at headers
  rw [supported, last_of_inserted inserted, lines_of_masked, lines_of_masked, lastBefore,
    present] at last
  refine ⟨headers.trans headersBefore, last.trans ?_⟩
  exact or_congr Iff.rfl (and_congr Iff.rfl headersBefore)

end Passes

end BasicBench.Instrument
