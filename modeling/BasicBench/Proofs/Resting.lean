import BasicBench.Proofs.Guarantees

/-!
Lines at rest. An action leaves a program alone when what it looks for is not there: an edit when
its pattern occurs on no line outside blocks, the call for a wait when no prompt has one, and the
additions when every line is guarded or answered.
-/

set_option autoImplicit false

namespace BasicBench.Instrument

open Text Pattern

theorem edit_outside_rests_iff (edit : Text → Text) (lines : List Text) :
    editOutside edit lines = lines ↔ ∀ line, Outside lines line → edit line = line := by
  have texts := lines_of_masked lines
  have whole : editOutside edit lines = lines ↔
      (masked lines).map (fun entry => if entry.2 then entry.1 else edit entry.1) =
        (masked lines).map (·.1) := by rw [texts]; rfl
  rw [whole, List.map_inj_left]
  constructor
  · intro same line outside
    simpa using same (line, false) outside
  · rintro same ⟨line, inside⟩ member
    cases inside with
    | true => rfl
    | false => exact same line member

/-! Edits. -/

/-- Some match of the pattern begins in the text. -/
def Matches (pattern : Pattern) (before : Option Char) (text : Text) : Prop :=
  ∃ above piece rest, text = above ++ (piece ++ rest) ∧ pattern.Takes (lastOf before above) piece rest

theorem matches_cons (pattern : Pattern) (before : Option Char) (c : Char) (rest : Text)
    (none : ∀ piece after, c :: rest = piece ++ after → ¬pattern.Takes before piece after) :
    Matches pattern before (c :: rest) ↔ Matches pattern (some c) rest := by
  constructor
  · rintro ⟨above, piece, after, split, taken⟩
    cases above with
    | nil => exact absurd (by simpa using taken) (none piece after split)
    | cons d above =>
        rw [List.cons_append, List.cons.injEq] at split
        obtain ⟨rfl, rfl⟩ := split
        exact ⟨above, piece, after, rfl, by simpa using taken⟩
  · rintro ⟨above, piece, after, rfl, taken⟩
    exact ⟨c :: above, piece, after, rfl, by simpa using taken⟩

theorem key_apart_from_call (edit : Edit) : ∃ c word d name, edit.key.toList = c :: word ∧
    edit.call.toList = d :: name ∧ sameLetter c d = false := by
  cases edit with
  | freefile =>
      exact ⟨'F', "REEFILE".toList, 'R', "esourceManager_GetFileHandle%".toList, by decide,
        by decide, by decide⟩
  | image =>
      exact ⟨'_', "NEWIMAGE".toList, 'G', "raphicsManager_CreateImage&(".toList, by decide,
        by decide, by decide⟩
  | point =>
      exact ⟨'P', "SET".toList, 'C', "ALL GraphicsManager_SafePSET(".toList, by decide,
        by decide, by decide⟩

/-- What an edit writes begins with another letter than what it replaces. -/
theorem written_differs (edit : Edit) {before : Option Char} {piece rest out : Text} {found : Found}
    (reads : edit.pattern.Reads before piece rest found.groups) :
    edit.write found ++ out ≠ piece ++ rest := by
  obtain ⟨-, form, more, rfl, same⟩ := edit.reads_key _ _ _ _ reads
  obtain ⟨others, written⟩ := edit.write_opens found
  obtain ⟨c, word, d, name, keySplit, callSplit, apart⟩ := key_apart_from_call edit
  intro equal
  rw [keySplit] at same
  cases same with
  | cons letter _ =>
      rw [written, callSplit, List.cons_append, List.cons_append, List.cons_append, List.cons_append,
        List.cons.injEq] at equal
      rw [← equal.1, apart] at letter
      exact absurd letter (by decide)

/-- An edit leaves a line alone exactly when its pattern occurs nowhere in it. -/
theorem apply_rests_iff (edit : Edit) (line : Text) :
    edit.apply line = line ↔ edit.pattern.occursIn line = false := by
  have general : ∀ before out, edit.pattern.Rewrites edit.write before line out →
      (out = line ↔ ¬Matches edit.pattern before line) := by
    intro before out rewrites
    induction rewrites with
    | done before =>
        refine iff_of_true rfl ?_
        rintro ⟨above, piece, rest, split, taken⟩
        obtain ⟨rfl, nothing⟩ := List.append_eq_nil_iff.mp split.symm
        obtain ⟨rfl, rfl⟩ := List.append_eq_nil_iff.mp nothing
        exact edit.takes_nonempty _ _ taken
    | keep before c rest out none _ induction =>
        rw [matches_cons _ _ _ _ none, ← induction, List.cons.injEq]
        simp
    | swap before piece rest out found _ reads _ _ =>
        refine iff_of_false (written_differs edit reads) (not_not_intro ?_)
        exact ⟨[], piece, rest, rfl, ⟨_, by simpa using reads⟩⟩
  rw [general none _ (edit.rewrites line), ← Bool.not_eq_true, occurs_in_iff]
  rfl

/-! Waits. -/

/-- A prompt stands outside blocks, and behind nothing but blank lines a wait for a key does. -/
def PromptWaits (tagged : List (Text × Bool)) : Prop :=
  ∃ above line gap wait rest, tagged = above ++ (line, false) :: (gap ++ (wait, false) :: rest) ∧
    promptStatement.startsText line = true ∧ (∀ entry ∈ gap, Blank entry.1) ∧
    sleepStatement.startsText wait = true

/-- The first of these lines waits for the rest of them. -/
def HeadWaits (line : Text) (inside : Bool) (rest : List (Text × Bool)) : Prop :=
  inside = false ∧ promptStatement.startsText line = true ∧ ∃ gap wait after,
    rest = gap ++ (wait, false) :: after ∧ (∀ entry ∈ gap, Blank entry.1) ∧
    sleepStatement.startsText wait = true

theorem prompt_waits_cons (line : Text) (inside : Bool) (rest : List (Text × Bool)) :
    PromptWaits ((line, inside) :: rest) ↔ HeadWaits line inside rest ∨ PromptWaits rest := by
  constructor
  · rintro ⟨above, prompt, gap, wait, after, split, prompts, blank, waits⟩
    cases above with
    | nil =>
        rw [List.nil_append, List.cons.injEq, Prod.mk.injEq] at split
        obtain ⟨⟨rfl, rfl⟩, rfl⟩ := split
        exact .inl ⟨rfl, prompts, gap, wait, after, rfl, blank, waits⟩
    | cons first above =>
        rw [List.cons_append, List.cons.injEq] at split
        exact .inr ⟨above, prompt, gap, wait, after, split.2, prompts, blank, waits⟩
  · rintro (⟨rfl, prompts, gap, wait, after, rfl, blank, waits⟩ |
      ⟨above, prompt, gap, wait, after, rfl, prompts, blank, waits⟩)
    · exact ⟨[], line, gap, wait, after, rfl, prompts, blank, waits⟩
    · exact ⟨(line, inside) :: above, prompt, gap, wait, after, rfl, prompts, blank, waits⟩

theorem wait_not_blank {wait : Text} (waits : sleepStatement.startsText wait = true) :
    (trim wait).isEmpty = false := by
  cases empty : (trim wait).isEmpty with
  | false => rfl
  | true =>
      have blank := (trim_eq_nil_iff wait).mp (List.isEmpty_iff.mp empty)
      exact absurd blank (not_blank_of_leads (by decide) (leads_of_starts led_sleep waits))

theorem skip_blank_to_wait {gap after : List (Text × Bool)} {wait : Text}
    (blank : ∀ entry ∈ gap, Blank entry.1) (waits : sleepStatement.startsText wait = true) :
    skipBlank (gap ++ (wait, false) :: after) = (wait, false) :: after := by
  rw [skipBlank, List.dropWhile_append_of_pos, List.dropWhile_cons_of_neg]
  · simp [wait_not_blank waits]
  · intro entry member
    simp [(trim_eq_nil_iff entry.1).mpr (blank entry member)]

theorem skip_blank_gap (tagged : List (Text × Bool)) :
    ∃ gap, tagged = gap ++ skipBlank tagged ∧ ∀ entry ∈ gap, Blank entry.1 := by
  refine ⟨tagged.takeWhile fun entry => (trim entry.1).isEmpty,
    List.takeWhile_append_dropWhile.symm, fun entry member => ?_⟩
  have empty := List.mem_takeWhile_imp member
  exact (trim_eq_nil_iff entry.1).mp (List.isEmpty_iff.mp empty)

theorem replace_waits_length (tagged : List (Text × Bool)) :
    (replaceWaits tagged).length ≤ tagged.length := by
  fun_induction replaceWaits tagged with
  | case1 => exact Nat.le_refl _
  | case2 line inside rest none induction => simpa using induction
  | case3 line inside rest indent found empty induction => simpa using induction
  | case4 line inside rest indent found next nextInside after skipped waits induction =>
      have shorter := length_skipBlank rest
      rw [skipped, List.length_cons] at shorter
      simp only [List.length_cons]
      omega
  | case5 line inside rest indent found next nextInside after skipped other induction =>
      simpa using induction

/-- No call takes the place of a wait exactly when no prompt has one. -/
theorem replace_waits_rests_iff (tagged : List (Text × Bool)) :
    replaceWaits tagged = tagged.map (·.1) ↔ ¬PromptWaits tagged := by
  have head : ∀ line inside rest, ¬HeadWaits line inside rest →
      (replaceWaits rest = rest.map (·.1) ↔ ¬PromptWaits rest) →
      (line :: replaceWaits rest = ((line, inside) :: rest).map (·.1) ↔
        ¬PromptWaits ((line, inside) :: rest)) := by
    intro line inside rest stays later
    rw [prompt_waits_cons, List.map_cons, List.cons.injEq, later]
    simp [stays]
  fun_induction replaceWaits tagged with
  | case1 =>
      refine iff_of_true rfl ?_
      rintro ⟨above, line, gap, wait, rest, split, -⟩
      simp at split
  | case2 line inside rest none induction =>
      refine head line inside rest ?_ induction
      rintro ⟨rfl, prompts, -⟩
      rw [promptIndent?, if_neg (by decide), Option.map_eq_none_iff] at none
      rw [startsText, none] at prompts
      exact absurd prompts (by decide)
  | case3 line inside rest indent found empty induction =>
      refine head line inside rest ?_ induction
      rintro ⟨-, -, gap, wait, after, rfl, blank, waits⟩
      rw [skip_blank_to_wait blank waits] at empty
      exact absurd empty (by simp)
  | case4 line inside rest indent found next nextInside after skipped waits induction =>
      simp only [Bool.and_eq_true, Bool.not_eq_true'] at waits
      obtain ⟨rfl, sleeps⟩ := waits
      obtain ⟨rfl, prompts, -⟩ := prompt_indent_some found
      obtain ⟨gap, split, blank⟩ := skip_blank_gap rest
      rw [skipped] at split
      refine iff_of_false (fun same => ?_) (not_not_intro ?_)
      · have short := replace_waits_length after
        have long := congrArg List.length same
        rw [split] at long
        simp only [List.length_cons, List.length_map, List.length_append] at long
        omega
      · rw [prompt_waits_cons]
        exact .inl ⟨rfl, prompts, gap, next, after, split, blank, sleeps⟩
  | case5 line inside rest indent found next nextInside after skipped other induction =>
      refine head line inside rest ?_ induction
      rintro ⟨-, -, gap, wait, behind, rfl, blank, waits⟩
      rw [skip_blank_to_wait blank waits, List.cons.injEq, Prod.mk.injEq] at skipped
      obtain ⟨⟨rfl, rfl⟩, rfl⟩ := skipped
      rw [waits] at other
      exact absurd other (by decide)

/-! Additions. -/

theorem guard_rests (previous : Option Text) (above : Text × Bool)
    (known : isCleanup above.1 = true → previous.any isCleanup = true)
    (tagged : List (Text × Bool)) (guarded : (above :: tagged).IsChain Guards) :
    guardTagged previous tagged = tagged := by
  induction tagged generalizing previous above with
  | nil => rfl
  | cons entry rest induction =>
      rw [List.isChain_cons_cons] at guarded
      obtain ⟨first, later⟩ := guarded
      have none : guards previous entry = [] := by
        rw [guards, if_neg]
        simp only [Bool.and_eq_true, Bool.not_eq_true', not_and]
        rintro ⟨outside, exits⟩ missing
        rw [known (first outside exits)] at missing
        exact absurd missing (by decide)
      rw [guardTagged, none, induction (some entry.1) entry (fun cleans => cleans) later]
      rfl

theorem insert_cleanup_rests {lines : List Text} (guarded : Guarded lines) :
    insertCleanup none (masked lines) = lines := by
  have blank : isCleanup border.1 = false := not_cleanup_of_blank blank_nil
  rw [← lines_of_guard_tagged, guard_rests none border (by rw [blank]; decide) _ guarded,
    lines_of_masked]

theorem follow_rests {check isDone : Text → Bool} {follow? : Text → Option Text}
    (only : ∀ line other, follow? line = some other → check line = true)
    (tagged : List (Text × Bool))
    (answered : (tagged ++ [border]).IsChain (AnsweredBy check isDone)) :
    followTagged follow? isDone tagged = tagged := by
  induction tagged with
  | nil => rfl
  | cons entry rest induction =>
      rw [List.cons_append, List.isChain_cons] at answered
      obtain ⟨first, later⟩ := answered
      have none : followers follow? isDone entry (lineBelow rest) = [] := by
        rcases followers_cases follow? isDone entry (lineBelow rest) with
          ⟨none, -⟩ | ⟨other, found, single⟩
        · exact none
        · cases side : entry.2 with
          | true => simp [followers, side]
          | false =>
              obtain ⟨below, here⟩ : ∃ below, below ∈ (rest ++ [border]).head? := by
                cases rest with
                | nil => exact ⟨border, rfl⟩
                | cons next rest => exact ⟨next, rfl⟩
              have done := first below here side (only _ _ found)
              rw [line_of_head here] at done
              simp [followers, done]
      rw [followTagged, none, induction later]
      rfl

theorem follow_outside_rests {check isDone : Text → Bool} {follow? : Text → Option Text}
    (only : ∀ line other, follow? line = some other → check line = true) {lines : List Text}
    (answered : Answered check isDone lines) : followOutside follow? isDone (masked lines) = lines := by
  rw [← lines_of_follow_tagged, follow_rests only _ answered, lines_of_masked]

end BasicBench.Instrument
