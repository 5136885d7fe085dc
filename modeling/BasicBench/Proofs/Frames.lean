import BasicBench.Proofs.DrawnLines

/-!
What a pass leaves alone. But for flow control, a pass works on a program line by line: it puts one
block below the header, and from there on a line in a block stays, and a line outside is edited for
itself, gets a call above or below it, or makes way for a pause together with the wait that it
announces. No line changes its side, and the order stays.
-/

set_option autoImplicit false

namespace BasicBench.Instrument

open Text Pattern

/-! Rules. -/

/-- What a pass does with a line outside blocks. -/
structure LineRules where
  edit : Text → Text := id
  /-- The call that may come to stand above the edited line. -/
  above? : Text → Option Text := fun _ => none
  /-- The call that may come to stand below the line. -/
  below? : Text → Option Text := fun _ => none
  pauses : Bool := false

/-- The cleanup that belongs above an exit. -/
def cleanupFor? (line : Text) : Option Text :=
  if isExit line then some (indentation line ++ cleanupCall) else none

def rulesOf (options : Options) : Feature → LineRules
  | .console => { edit := if options.autoExit then replaceEnd else id, pauses := true }
  | .flowControl => {}
  | .resources => { edit := Edit.freefile.apply, above? := cleanupFor? }
  | .graphics => { edit := drawn }
  | .logging => { below? := fileLog? }
  | .screenshots => { below? := screenshot? }

/-- Lines that are treated by the rules, each entry in its place and on its side. -/
inductive Treated (rules : LineRules) : List (Text × Bool) → List (Text × Bool) → Prop
  | done : Treated rules [] []
  | inside (line : Text) (rest out : List (Text × Bool)) (next : Treated rules rest out) :
      Treated rules ((line, true) :: rest) ((line, true) :: out)
  | outside (line : Text) (above below : List Text) (rest out : List (Text × Bool))
      (alone : rules.pauses = true → ¬HeadWaits line false rest)
      (before : above.Sublist (rules.above? (rules.edit line)).toList)
      (behind : below.Sublist (rules.below? line).toList) (next : Treated rules rest out) :
      Treated rules ((line, false) :: rest)
        (above.map (·, false) ++ (rules.edit line, false) :: (below.map (·, false) ++ out))
  | pause (line indent wait : Text) (gap : List Text) (rest out : List (Text × Bool))
      (allowed : rules.pauses = true) (prompts : promptStatement.startsText line = true)
      (blank : Blank indent) (opens : ∃ more, line = indent ++ more)
      (empty : ∀ other ∈ gap, Blank other) (waits : sleepStatement.startsText wait = true)
      (next : Treated rules rest out) :
      Treated rules ((line, false) :: (gap.map (·, false) ++ (wait, false) :: rest))
        ((pauseCall indent, false) :: out)

/-- An edit of the lines outside blocks. -/
def editTagged (edit : Text → Text) (tagged : List (Text × Bool)) : List (Text × Bool) :=
  tagged.map fun (line, inside) => (if inside then line else edit line, inside)

theorem treated_edit (edit : Text → Text) (tagged : List (Text × Bool)) :
    Treated { edit := edit } tagged (editTagged edit tagged) := by
  induction tagged with
  | nil => exact .done
  | cons entry rest induction =>
      obtain ⟨line, inside⟩ := entry
      cases inside with
      | true => exact .inside line rest _ induction
      | false =>
          exact .outside line [] [] rest _ (fun pauses => by simp at pauses) (List.nil_sublist _)
            (List.nil_sublist _) induction

theorem treated_guard (edit : Text → Text) (previous : Option Text)
    (tagged : List (Text × Bool)) : Treated { edit := edit, above? := cleanupFor? } tagged
      (guardTagged previous (editTagged edit tagged)) := by
  induction tagged generalizing previous with
  | nil => exact .done
  | cons entry rest induction =>
      obtain ⟨line, inside⟩ := entry
      cases inside with
      | true =>
          change Treated _ _ ((guards previous (line, true)).map (·, false) ++
            (line, true) :: guardTagged (some line) (editTagged edit rest))
          rw [guards_inside]
          exact .inside line rest _ (induction (some line))
      | false =>
          have guarded : (guards previous (edit line, false)).Sublist
              (cleanupFor? (edit line)).toList := by
            rw [guards, cleanupFor?]
            cases exits : isExit (edit line) <;> cases previous.any isCleanup <;> simp
          exact .outside line _ [] rest _ (fun pauses => by simp at pauses) guarded
            (List.nil_sublist _) (induction (some (edit line)))

theorem treated_follow (follow? : Text → Option Text) (isDone : Text → Bool)
    (tagged : List (Text × Bool)) :
    Treated { below? := follow? } tagged (followTagged follow? isDone tagged) := by
  induction tagged with
  | nil => exact .done
  | cons entry rest induction =>
      obtain ⟨line, inside⟩ := entry
      rw [followTagged]
      cases inside with
      | true => exact .inside line rest _ induction
      | false =>
          have followed : (followers follow? isDone (line, false) (lineBelow rest)).Sublist
              (follow? line).toList := by
            rw [followers]
            split
            · exact List.nil_sublist _
            · exact List.Sublist.refl _
          exact .outside line [] _ rest _ (fun pauses => by simp at pauses) (List.nil_sublist _)
            followed induction

theorem treated_pause {edit : Text → Text} {before after : List (Text × Bool)}
    (calm : ∀ indent, Blank indent → edit (pauseCall indent) = pauseCall indent)
    (paused : Paused before after) :
    Treated { edit := edit, pauses := true } before (editTagged edit after) := by
  induction paused with
  | done => exact .done
  | keep line inside rest out alone _ induction =>
      cases inside with
      | true => exact .inside line rest _ induction
      | false =>
          exact .outside line [] [] rest _ (fun _ => alone) (List.nil_sublist _)
            (List.nil_sublist _) induction
  | pause line indent wait gap rest out prompts blank opens empty waits _ induction =>
      have call : editTagged edit ((pauseCall indent, false) :: out) =
          (pauseCall indent, false) :: editTagged edit out := by
        have same := calm indent blank
        change (edit (pauseCall indent), false) :: editTagged edit out = _
        rw [same]
      rw [call]
      exact .pause line indent wait gap rest _ rfl prompts blank opens empty waits induction

/-! Actions. -/

section Actions

variable {options : Options} {stamp : Text}

theorem edit_tagged_id (tagged : List (Text × Bool)) : editTagged id tagged = tagged := by
  have same : (fun entry : Text × Bool =>
      (if entry.2 then entry.1 else id entry.1, entry.2)) = id := by
    funext entry
    obtain ⟨line, inside⟩ := entry
    cases inside <;> rfl
  exact (congrArg (tagged.map ·) same).trans (List.map_id tagged)

theorem edit_tagged_twice (first second : Text → Text) (tagged : List (Text × Bool)) :
    editTagged second (editTagged first tagged) = editTagged (second ∘ first) tagged := by
  rw [editTagged, editTagged, editTagged, List.map_map]
  apply List.map_congr_left
  intro entry _
  obtain ⟨line, inside⟩ := entry
  cases inside <;> rfl

/-- An end in place of a statement leaves the pauses alone. -/
theorem replace_end_pause (indent : Text) (blank : Blank indent) :
    replaceEnd (pauseCall indent) = pauseCall indent :=
  replace_end_stays
    (not_starts_of_leads led_bare_end (by decide) (leads_of_calls (calls_pause indent blank)))

theorem treated_trailing_console (plain : Unbroken stamp) {lines : List Text}
    (unbroken : AllUnbroken lines) :
    Treated (rulesOf options .console) (masked lines)
      (masked (performAll options stamp (trailingActions options .console) lines)) := by
  have paused := paused_of_replace 0 (masked lines) (nested_masked lines)
  rw [← masked_eq] at paused
  rw [rulesOf]
  cases exits : options.autoExit with
  | false =>
      have trailing : performAll options stamp (trailingActions options .console) lines =
          replaceWaits (masked lines) := by
        rw [trailingActions, exits]
        rfl
      have treated := treated_pause (fun _ _ => rfl : ∀ indent, Blank indent → id _ = _) paused
      rw [edit_tagged_id] at treated
      rw [trailing]
      exact treated
  | true =>
      have trailing : performAll options stamp (trailingActions options .console) lines =
          editOutside replaceEnd (replaceWaits (masked lines)) := by
        rw [trailingActions, exits]
        rfl
      have whole := unbroken_perform options stamp plain lines unbroken .pause
      have edited := masked_edit_outside replaceEnd (replaceWaits (masked lines))
        (plain_replaced_end whole)
      rw [trailing, edited]
      exact treated_pause replace_end_pause paused

/-- What a pass does once its block is there follows its rules. -/
theorem treated_trailing (plain : Unbroken stamp) {feature : Feature}
    (owns : feature ≠ .flowControl) {lines : List Text} (unbroken : AllUnbroken lines) :
    Treated (rulesOf options feature) (masked lines)
      (masked (performAll options stamp (trailingActions options feature) lines)) := by
  cases feature with
  | console => exact treated_trailing_console plain unbroken
  | flowControl => exact absurd rfl owns
  | resources =>
      have exchanged := masked_exchange .freefile lines unbroken
      have trailing : performAll options stamp (trailingActions options .resources) lines =
          insertCleanup none (masked (editOutside Edit.freefile.apply lines)) := rfl
      rw [trailing, masked_insert_cleanup, exchanged]
      exact treated_guard Edit.freefile.apply none (masked lines)
  | graphics =>
      have first := masked_exchange .image lines unbroken
      have whole := unbroken_perform options stamp plain lines unbroken (.exchange .image)
      have second := masked_exchange .point _ whole
      have trailing : performAll options stamp (trailingActions options .graphics) lines =
          editOutside Edit.point.apply ((Action.exchange .image).perform options stamp lines) := rfl
      have twice := edit_tagged_twice Edit.image.apply Edit.point.apply (masked lines)
      have composed : Edit.point.apply ∘ Edit.image.apply = drawn := rfl
      rw [composed] at twice
      rw [trailing, second, Action.perform, first, ← editTagged, ← editTagged, twice]
      exact treated_edit drawn (masked lines)
  | logging =>
      have trailing : performAll options stamp (trailingActions options .logging) lines =
          followOutside fileLog? isFileLog (masked lines) := rfl
      rw [trailing, masked_log_files]
      exact treated_follow fileLog? isFileLog (masked lines)
  | screenshots =>
      have trailing : performAll options stamp (trailingActions options .screenshots) lines =
          followOutside screenshot? isScreenshot (masked lines) := rfl
      rw [trailing, masked_take_shots]
      exact treated_follow screenshot? isScreenshot (masked lines)

/-! Blocks. -/

/-- The block of the pass is put below the header, with an empty line behind it, unless a block of
its feature was there. -/
structure Inserted (options : Options) (stamp : Text) (feature : Feature)
    (before above added below : List (Text × Bool)) : Prop where
  split : before = above ++ below
  header : ∀ entry ∈ above, isHeader entry.1 entry.2 = true
  stop : ∀ entry, below.head? = some entry → isHeader entry.1 entry.2 = false
  present : hasBlock feature (before.map (·.1)) = true → added = []
  missing : hasBlock feature (before.map (·.1)) = false →
    IsSupport feature (supportBlock options stamp (before.map (·.1)) feature) ∧ ∃ side,
      added = (supportBlock options stamp (before.map (·.1)) feature).map (·, true) ++ [([], side)]

theorem contained_of_support {feature : Feature} {added : List Text}
    (support : IsSupport feature added) : SelfContained added := by
  obtain ⟨body, rfl, all⟩ := support
  exact contained_block feature body fun line member =>
    ((support_line_iff line).mp (all line member)).1

/-- Lines begin with their header, and the first line behind it is no header line. -/
theorem header_split (tagged : List (Text × Bool)) : ∃ above below, tagged = above ++ below ∧
    (∀ entry ∈ above, isHeader entry.1 entry.2 = true) ∧
      ∀ entry, below.head? = some entry → isHeader entry.1 entry.2 = false := by
  induction tagged with
  | nil => exact ⟨[], [], rfl, by simp, by simp⟩
  | cons first rest induction =>
      cases header : isHeader first.1 first.2 with
      | false =>
          refine ⟨[], first :: rest, rfl, by simp, ?_⟩
          intro entry head
          rw [List.head?_cons, Option.some.injEq] at head
          rw [← head]
          exact header
      | true =>
          obtain ⟨above, below, split, headers, stop⟩ := induction
          refine ⟨first :: above, below, by rw [split, List.cons_append], ?_, stop⟩
          rw [List.forall_mem_cons]
          exact ⟨header, headers⟩

theorem inserted_of_draft (plain : Unbroken stamp) {feature : Feature}
    (owns : feature ≠ .flowControl) {lines : List Text} {draft : Draft}
    (drafted : passDraft? options stamp lines feature = some draft) :
    ∃ above added below,
      Inserted options stamp feature
        (masked (performAll options stamp (leadingActions feature) lines)) above added below ∧
      masked ((Action.support feature).perform options stamp
        (performAll options stamp (leadingActions feature) lines)) = above ++ added ++ below := by
  have built := support_of_missing plain owns drafted
  generalize performAll options stamp (leadingActions feature) lines = ready at built
  rw [Action.perform]
  cases present : hasBlock feature ready with
  | true =>
      obtain ⟨above, below, split, headers, stop⟩ := header_split (masked ready)
      refine ⟨above, [], below, ⟨split, headers, stop, fun _ => rfl, ?_⟩, ?_⟩
      · intro missing
        rw [lines_of_masked, present] at missing
        exact absurd missing (by decide)
      · rw [if_pos rfl, split, List.append_nil]
  | false =>
      have support := built present
      obtain ⟨above, below, side, split, inserted, headers, stop⟩ :=
        masked_insert_block (contained_of_support support) ready
      refine ⟨above, (supportBlock options stamp ready feature).map (·, true) ++ [([], side)], below,
        ⟨split, headers, stop, ?_, ?_⟩, ?_⟩
      · intro there
        rw [lines_of_masked, present] at there
        exact absurd there (by decide)
      · rw [lines_of_masked]
        exact fun _ => ⟨support, side, rfl⟩
      · rw [if_neg (by decide), inserted]
        simp

/-- The console's pass first names the directive again where it is switched off. -/
def normalizedFor (feature : Feature) (tagged : List (Text × Bool)) : List (Text × Bool) :=
  if feature = .console then tagged.map fun (line, inside) => (normalizeLine line, inside)
  else tagged

/-- Then it puts the directive on top where there is none. -/
def directiveFor (feature : Feature) (tagged : List (Text × Bool)) : List (Text × Bool) :=
  if feature = .console ∧ tagged.any (fun entry => consoleDirective.startsText entry.1) = false
  then [("$CONSOLE".toList, false)]
  else []

theorem masked_leading (feature : Feature) (lines : List Text) :
    masked (performAll options stamp (leadingActions feature) lines) =
      directiveFor feature (normalizedFor feature (masked lines)) ++
        normalizedFor feature (masked lines) := by
  cases feature with
  | console =>
      have normalized : normalizedFor .console (masked lines) =
          masked (lines.map normalizeLine) := by
        rw [masked_normalize]
        rfl
      have leading : performAll options stamp (leadingActions .console) lines =
          Action.direct.perform options stamp (lines.map normalizeLine) := rfl
      have told : (masked (lines.map normalizeLine)).any
          (fun entry => consoleDirective.startsText entry.1) =
          (lines.map normalizeLine).any consoleDirective.startsText := by
        conv => rhs; rw [← lines_of_masked (lines.map normalizeLine)]
        rw [List.any_map]
        rfl
      rw [leading, normalized, directiveFor, told, Action.perform]
      cases shown : (lines.map normalizeLine).any consoleDirective.startsText with
      | true => simp
      | false =>
          rw [if_neg (by decide), masked_direct]
          simp
  | _ => simp [leadingActions, performAll, normalizedFor, directiveFor]

/-- Two rows of lines are the same, but for an empty line at the end. -/
def SameButEnd (left right : List (Text × Bool)) : Prop :=
  left = right ∨ ∃ side, right = left ++ [([], side)] ∨ left = right ++ [([], side)]

theorem same_of_agree {left right : List Text} (agree : AgreeButEnd left right) :
    SameButEnd (masked left) (masked right) := by
  rcases agree with same | longer | shorter
  · exact .inl (by rw [same])
  · obtain ⟨side, split⟩ := masked_concat_blank left
    right
    exact ⟨side, .inl (by rw [longer, split])⟩
  · obtain ⟨side, split⟩ := masked_concat_blank right
    right
    exact ⟨side, .inr (by rw [shorter, split])⟩

end Actions

/-- But for flow control, a pass changes a program only in this way: the console's pass names its
directive again and puts it on top; the block of the pass may go below the header; and from there on
the lines are treated by the rules of the pass. -/
theorem pass_changes_by_rules (options : Options) (stamp source : Text) (feature : Feature)
    (revision : Revision) (plain : Unbroken stamp) (other : feature ≠ .flowControl)
    (ran : runPass? options stamp feature source = some revision) :
    ∃ above added below treated,
      Inserted options stamp feature
        (directiveFor feature (normalizedFor feature (masked (splitLines source))) ++
          normalizedFor feature (masked (splitLines source))) above added below ∧
      Treated (rulesOf options feature) (above ++ added ++ below) treated ∧
      SameButEnd (masked (splitLines revision.program)) treated := by
  have agree := run_pass_lines plain ran
  rw [run_pass_eq] at ran
  obtain ⟨draft, drafted, -⟩ := Option.map_eq_some_iff.mp ran
  obtain ⟨above, added, below, inserted, supported⟩ :=
    inserted_of_draft plain other drafted
  have leading : AllUnbroken
      (performAll options stamp (leadingActions feature) (splitLines source)) :=
    unbroken_perform_all plain _ _ (all_unbroken_split source)
  have whole := unbroken_perform options stamp plain _ leading (.support feature)
  have treated : Treated (rulesOf options feature) _ (masked (performAll options stamp _ _)) :=
    treated_trailing plain other whole
  rw [supported] at treated
  rw [masked_leading] at inserted
  refine ⟨above, added, below, _, inserted, treated, ?_⟩
  rw [actions_around_support options feature other, perform_all_append] at agree
  exact same_of_agree agree

/-- A comment, a prompt with its wait, and an end. -/
def promptBeforeEnd : Text :=
  "' demo\nPRINT \"Press any key\"\n\nSLEEP\nEND".toList

theorem prompt_before_end_by_rules : ∃ revision above added below treated,
    runPass? {} [] .console promptBeforeEnd = some revision ∧
    Inserted {} [] .console (directiveFor .console (normalizedFor .console
        (masked (splitLines promptBeforeEnd))) ++
      normalizedFor .console (masked (splitLines promptBeforeEnd))) above added below ∧
    added ≠ [] ∧ Treated (rulesOf {} .console) (above ++ added ++ below) treated ∧
    SameButEnd (masked (splitLines revision.program)) treated := by
  obtain ⟨above, added, below, treated, inserted, rules, same⟩ :=
    pass_changes_by_rules {} [] promptBeforeEnd .console _ unbroken_nil (by decide) rfl
  refine ⟨_, above, added, below, treated, rfl, inserted, ?_, rules, same⟩
  obtain ⟨-, side, shape⟩ := inserted.missing (by decide +kernel)
  rw [shape]
  simp

end BasicBench.Instrument
