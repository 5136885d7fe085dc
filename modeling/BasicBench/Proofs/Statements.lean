import BasicBench.Proofs.Exchange
import BasicBench.Proofs.Leading

/-!
The statements that the passes look for, by the words that lead them. Different words exclude
each other, so what one pass adds or rewrites is no statement that another pass guards.
-/

set_option autoImplicit false

namespace BasicBench.Instrument

open Text Pattern

/-- Two words with no blank in front, of which neither continues the other. -/
def areApart (word key : Text) : Bool := isHeaded word && isHeaded key && !compatible word key

theorem leads_excludes {word key line : Text} (apart : areApart word key = true)
    (leads : Leads word line) : ¬Leads key line := by
  simp only [areApart, Bool.and_eq_true, Bool.not_eq_true'] at apart
  intro other
  rw [leads_compatible apart.1.1 apart.1.2 leads other] at apart
  exact absurd apart.2 (by decide)

theorem not_starts_of_leads {word : Text} {key : String} {pattern : Pattern}
    (led : LedBy key pattern) (apart : areApart word key.toList = true) {line : Text}
    (leads : Leads word line) : pattern.startsText line = false := by
  cases starts : pattern.startsText line with
  | false => rfl
  | true => exact absurd (leads_of_starts led starts) (leads_excludes apart leads)

theorem led_console_directive : LedBy "$CONSOLE" consoleDirective :=
  led_by_append (led_by_of_takes_word (takes_word_start "$CONSOLE")) _

theorem led_console_off : LedBy "$CONSOLE" consoleOff :=
  led_by_append (led_by_append (led_by_append (led_by_append (led_by_append (led_by_append
    (led_by_of_takes_word (takes_word_start "$CONSOLE")) _) _) _) _) _) _

theorem led_prompt : LedBy "PRINT" promptStatement :=
  led_by_append (led_by_append (led_by_append (led_by_append (led_by_append (led_by_append
    (led_by_append (led_by_of_takes_word (takes_word_captured_start "PRINT")) _) _) _) _) _) _) _

theorem led_sleep : LedBy "SLEEP" sleepStatement :=
  led_by_append (led_by_of_takes_word (takes_word_start "SLEEP")) _

theorem led_bare_end : LedBy "END" bareEnd :=
  led_by_append (led_by_append (led_by_of_takes_word (takes_word_captured_start "END")) _) _

theorem led_bare_system : LedBy "SYSTEM" bareSystem :=
  led_by_append (led_by_append (led_by_append
    (led_by_of_takes_word (takes_word_start "SYSTEM")) _) _) _

theorem led_debug_exit : LedBy "CALL" debugExitCall :=
  led_by_append (led_by_append (led_by_append (led_by_append
    (led_by_of_takes_word (takes_word_start "CALL")) _) _) _) _

theorem led_open : LedBy "OPEN" openStatement :=
  led_by_append (led_by_append (led_by_append (led_by_append (led_by_append (led_by_append
    (led_by_append (led_by_append (led_by_append (led_by_append (led_by_append (led_by_append
      (led_by_of_takes_word (takes_word_captured_start "OPEN")) _) _) _) _) _) _) _) _) _) _) _) _

/-- The words of the statements that draw. -/
def drawWords : List String := ["CIRCLE", "LINE", "_PUTIMAGE"]

theorem leads_of_draw {line : Text} (draws : drawStatement.startsText line = true) :
    ∃ word ∈ drawWords, Leads word.toList line := by
  obtain ⟨piece, rest, rfl, taken⟩ := (starts_text_iff ..).mp draws
  simp only [drawStatement, takes_append, takes_text_start, takes_capture, takes_blanks] at taken
  obtain ⟨_, stop, rfl, ⟨_, mark, rfl, ⟨_, form, rfl, ⟨_, left, rfl, ⟨rfl, -⟩, blank⟩,
    takesForm⟩, -⟩, -⟩ := taken
  have chosen : ∃ word ∈ drawWords, SameText word.toList form := by
    change (anyCase "CIRCLE" ||| (anyCase "LINE" ||| anyCase "_PUTIMAGE")).Takes _ _ _ at takesForm
    simp only [takes_or, takes_any_case] at takesForm
    rcases takesForm with same | same | same
    · exact ⟨"CIRCLE", by simp [drawWords], same⟩
    · exact ⟨"LINE", by simp [drawWords], same⟩
    · exact ⟨"_PUTIMAGE", by simp [drawWords], same⟩
  obtain ⟨word, listed, same⟩ := chosen
  exact ⟨word, listed, left, form ++ (mark ++ stop ++ rest), blank,
    ⟨form, mark ++ stop ++ rest, rfl, same⟩, by simp⟩

/-- A statement that draws is none that another word leads. -/
theorem not_starts_of_draw {key : String} {pattern : Pattern} (led : LedBy key pattern)
    (apart : drawWords.all (fun word => areApart word.toList key.toList) = true) {line : Text}
    (draws : drawStatement.startsText line = true) : pattern.startsText line = false := by
  obtain ⟨word, listed, leads⟩ := leads_of_draw draws
  exact not_starts_of_leads led (List.all_eq_true.mp apart word listed) leads

theorem not_draw_of_leads {word line : Text} (leads : Leads word line)
    (apart : drawWords.all (fun key => areApart word key.toList) = true) :
    drawStatement.startsText line = false := by
  cases draws : drawStatement.startsText line with
  | false => rfl
  | true =>
      obtain ⟨key, listed, other⟩ := leads_of_draw draws
      exact absurd other (leads_excludes (List.all_eq_true.mp apart key listed) leads)

/-! The captured indentation. -/

/-- The first group of a match is the indentation of the line. -/
def Indented (pattern : Pattern) : Prop :=
  ∀ piece rest found, pattern.Reads none piece rest found →
    ∃ left more, Blank left ∧ piece = left ++ more ∧ found.lookup 1 = some left

theorem indented_start : Indented (textStart ++ capture 1 blanks) := by
  intro piece rest found reads
  obtain ⟨start, left, early, rfl, rfl, reads, takesLeft⟩ := reads_append_capture rfl reads
  have takesStart : textStart.Takes none start _ := ⟨early, reads⟩
  obtain ⟨rfl, -⟩ := (takes_text_start ..).mp takesStart
  exact ⟨left, [], (takes_blanks ..).mp takesLeft, by simp, rfl⟩

theorem indented_append {first second : Pattern} (indented : Indented first)
    (plain : second.isPlain = true) : Indented (first ++ second) := by
  intro piece rest found reads
  obtain ⟨head, tail, rfl, reads, -⟩ := reads_append_plain plain reads
  obtain ⟨left, more, blank, rfl, group⟩ := indented head _ found reads
  exact ⟨left, more ++ tail, blank, by simp, group⟩

theorem indented_prompt : Indented promptStatement :=
  indented_append (indented_append (indented_append (indented_append (indented_append
    (indented_append (indented_append (indented_append indented_start (by decide)) rfl) rfl)
      (by decide)) rfl) rfl) rfl) rfl

theorem indented_bare_end : Indented bareEnd :=
  indented_append (indented_append (indented_append indented_start (by decide)) rfl) rfl

theorem indented_draw : Indented drawStatement :=
  indented_append (indented_append (indented_append indented_start (by decide)) rfl)
    (by decide)

theorem group_of_indented {pattern : Pattern} (indented : Indented pattern) {line : Text}
    {found : Found} (matched : pattern.atStart? line = some found) :
    Blank (found.group 1) ∧ ∃ more, line = found.group 1 ++ more := by
  obtain ⟨piece, rest, rfl, reads⟩ := at_start_some _ _ _ matched
  obtain ⟨left, more, blank, rfl, group⟩ := indented piece rest _ reads
  have same : found.group 1 = left := by rw [Found.group, Found.group?, group, Option.getD_some]
  rw [same]
  exact ⟨blank, more ++ rest, by simp⟩

/-- The parts of an open statement: the file name stands between blanks. -/
theorem reads_open (piece rest : Text) (found : List (Nat × Text))
    (reads : openStatement.Reads none piece rest found) :
    ∃ left form gap name c more, piece = left ++ (form ++ (gap ++ (name ++ c :: more))) ∧
      Blank left ∧ SameText "OPEN".toList form ∧ gap ≠ [] ∧ Blank gap ∧ isSpace c = true ∧
      found = [(2, name), (1, left)] := by
  obtain ⟨_, file, rfl, reads, -⟩ := reads_append_plain (by decide) reads
  obtain ⟨_, gap₁, rfl, reads, -⟩ := reads_append_plain (by decide) reads
  obtain ⟨_, mark, rfl, reads, -⟩ := reads_append_plain (by decide) reads
  obtain ⟨_, gap₂, rfl, reads, -⟩ := reads_append_plain (by decide) reads
  obtain ⟨_, word₁, rfl, reads, -⟩ := reads_append_plain (by decide) reads
  obtain ⟨_, gap₃, rfl, reads, -⟩ := reads_append_plain (by decide) reads
  obtain ⟨_, purpose, rfl, reads, -⟩ := reads_append_plain (by decide) reads
  obtain ⟨_, gap₄, rfl, reads, -⟩ := reads_append_plain (by decide) reads
  obtain ⟨_, word₂, rfl, reads, -⟩ := reads_append_plain (by decide) reads
  obtain ⟨_, gap₅, rfl, reads, takesGap₅⟩ := reads_append_plain (by decide) reads
  obtain ⟨_, name, _, rfl, rfl, reads, -⟩ := reads_append_capture (by decide) reads
  obtain ⟨_, gap, rfl, reads, takesGap⟩ := reads_append_plain (by decide) reads
  obtain ⟨_, form, rfl, reads, takesForm⟩ := reads_append_plain (by decide) reads
  obtain ⟨start, left, _, rfl, rfl, reads, takesLeft⟩ := reads_append_capture (by decide) reads
  obtain rfl := plain_reads_nothing _ rfl _ _ _ _ reads
  have takesStart : textStart.Takes none start _ := ⟨[], reads⟩
  simp only [takes_text_start, takes_blanks, takes_blanks1, takes_any_case] at *
  obtain ⟨rfl, -⟩ := takesStart
  obtain ⟨c, others, rfl⟩ := List.exists_cons_of_ne_nil takesGap₅.1
  exact ⟨left, form, gap, name, c, others ++ word₂ ++ gap₄ ++ purpose ++ gap₃ ++ word₁ ++ gap₂ ++
    mark ++ gap₁ ++ file, by simp, takesLeft, takesForm, takesGap.1, takesGap.2,
    takesGap₅.2 c (by simp), rfl⟩

/-- The call that is added behind an open statement. -/
theorem file_log_some {line other : Text} (added : fileLog? line = some other) :
    openStatement.startsText line = true ∧ ∃ left form gap name c more,
      line = left ++ (form ++ (gap ++ (name ++ c :: more))) ∧ Blank left ∧
      SameText "OPEN".toList form ∧ gap ≠ [] ∧ Blank gap ∧ isSpace c = true ∧
      other = left ++ fileLogCall ++ ", \"Opened file: \" + ".toList ++ name ++ [')'] := by
  obtain ⟨found, matched, rfl⟩ := Option.map_eq_some_iff.mp added
  refine ⟨by rw [startsText, matched]; rfl, ?_⟩
  obtain ⟨piece, rest, rfl, reads⟩ := at_start_some _ _ _ matched
  obtain ⟨left, form, gap, name, c, more, rfl, blank, same, some, blankGap, space, groups⟩ :=
    reads_open _ _ _ reads
  refine ⟨left, form, gap, name, c, more ++ rest, by simp, blank, same, some, blankGap, space, ?_⟩
  have first : found.group 1 = left := by
    rw [Found.group, Found.group?, groups]
    rfl
  have second : found.group 2 = name := by
    rw [Found.group, Found.group?, groups]
    rfl
  rw [first, second]

/-- The call that is added behind a statement that draws. -/
theorem screenshot_some {line other : Text} (added : screenshot? line = some other) :
    drawStatement.startsText line = true ∧ ∃ left more, Blank left ∧ line = left ++ more ∧
      other = left ++ screenshotCall := by
  obtain ⟨found, matched, rfl⟩ := Option.map_eq_some_iff.mp added
  obtain ⟨blank, more, split⟩ := group_of_indented indented_draw matched
  exact ⟨by rw [startsText, matched]; rfl, _, more, blank, split, rfl⟩

/-! Calls. -/

/-- The line is a call of a procedure whose name begins as given. -/
def Calls (name line : Text) : Prop :=
  ∃ left call gap rest, Blank left ∧ SameText "CALL".toList call ∧ gap ≠ [] ∧ Blank gap ∧
    Opens name rest ∧ line = left ++ (call ++ (gap ++ rest))

theorem leads_of_calls {name line : Text} (calls : Calls name line) : Leads "CALL".toList line := by
  obtain ⟨left, call, gap, rest, blank, same, -, -, -, rfl⟩ := calls
  exact ⟨left, call ++ (gap ++ rest), blank, ⟨call, gap ++ rest, rfl, same⟩, rfl⟩

theorem calls_compatible {name other line : Text} (headed : isHeaded name = true)
    (headed' : isHeaded other = true) (first : Calls name line) (second : Calls other line) :
    compatible name other = true := by
  obtain ⟨left, call, gap, rest, blank, same, -, blankGap, opens, rfl⟩ := first
  obtain ⟨left', call', gap', rest', blank', same', -, blankGap', opens', split⟩ := second
  have long : call.length = call'.length := same.length_eq.symm.trans same'.length_eq
  obtain ⟨c, more, shape, solid⟩ := opens_headed _ (call ++ (gap ++ rest)) (by decide)
    ⟨call, gap ++ rest, rfl, same⟩
  obtain ⟨d, more', shape', solid'⟩ := opens_headed _ (call' ++ (gap' ++ rest')) (by decide)
    ⟨call', gap' ++ rest', rfl, same'⟩
  rw [shape, shape'] at split
  obtain ⟨-, equal⟩ := blank_prefix_unique _ _ _ _ _ _ blank blank' solid solid' split
  rw [← shape, ← shape'] at equal
  obtain ⟨-, equal⟩ := List.append_inj equal long
  obtain ⟨c, more, rfl, solid⟩ := opens_headed name rest headed opens
  obtain ⟨d, more', rfl, solid'⟩ := opens_headed other rest' headed' opens'
  obtain ⟨-, equal⟩ := blank_prefix_unique _ _ _ _ _ _ blankGap blankGap' solid solid' equal
  exact opens_compatible opens (equal ▸ opens')

theorem calls_debug_exit {line : Text} (exits : debugExitCall.startsText line = true) :
    Calls "DebugExit".toList line := by
  obtain ⟨piece, rest, rfl, taken⟩ := (starts_text_iff ..).mp exits
  simp only [debugExitCall, takes_append, takes_text_start, takes_blanks, takes_blanks1,
    takes_any_case] at taken
  obtain ⟨_, mark, rfl, ⟨_, space, rfl, ⟨_, name, rfl, ⟨_, gap, rfl, ⟨_, call, rfl,
    ⟨_, left, rfl, ⟨rfl, -⟩, blank⟩, same⟩, nonempty, blankGap⟩, sameName⟩, -⟩, -⟩ := taken
  exact ⟨left, call, gap, name ++ space ++ mark ++ rest, blank, same, nonempty, blankGap,
    ⟨name, space ++ mark ++ rest, by simp, sameName⟩, by simp⟩

/-- A call of anything but the exit procedure is no exit. -/
theorem call_is_no_exit {name line : Text} (calls : Calls name line)
    (apart : areApart name "DebugExit".toList = true) : isExit line = false := by
  have leads := leads_of_calls calls
  rw [isExit, not_starts_of_leads led_bare_system (by decide) leads,
    not_starts_of_leads led_bare_end (by decide) leads, Bool.false_or, Bool.false_or]
  cases exits : debugExitCall.startsText line with
  | false => rfl
  | true =>
      simp only [areApart, Bool.and_eq_true, Bool.not_eq_true'] at apart
      rw [calls_compatible apart.1.1 apart.1.2 calls (calls_debug_exit exits)] at apart
      exact absurd apart.2 (by decide)

/-! The calls that are added. -/

/-- A call that is written out behind an indentation. -/
theorem calls_written (left more : Text) (name : String) (blank : Blank left) :
    Calls name.toList (left ++ ("CALL".toList ++ ([' '] ++ (name.toList ++ more)))) :=
  ⟨left, "CALL".toList, [' '], name.toList ++ more, blank, same_text_refl _, by simp,
    List.all_eq_true.mp (by decide), opens_append _ _, rfl⟩

theorem calls_cleanup (left : Text) (blank : Blank left) :
    Calls "ResourceManager_Cleanup".toList (left ++ cleanupCall) := by
  have shape : cleanupCall =
      "CALL".toList ++ ([' '] ++ ("ResourceManager_Cleanup".toList ++ [])) := by decide
  rw [shape]
  exact calls_written left [] _ blank

theorem calls_pause (left : Text) (blank : Blank left) :
    Calls "DebugPause".toList (pauseCall left) := by
  have shape : "CALL DebugPause(\"Press any key to continue...\")".toList = "CALL".toList ++ ([' '] ++
      ("DebugPause".toList ++ "(\"Press any key to continue...\")".toList)) := by decide
  rw [pauseCall, shape]
  exact calls_written left _ _ blank

theorem calls_exit (left : Text) (blank : Blank left) :
    Calls "DebugExit".toList (exitCall left) := by
  have shape : "CALL DebugExit(\"Program completed\")".toList = "CALL".toList ++ ([' '] ++
      ("DebugExit".toList ++ "(\"Program completed\")".toList)) := by decide
  rw [exitCall, shape]
  exact calls_written left _ _ blank

theorem calls_file_log {line other : Text} (added : fileLog? line = some other) :
    Calls "LogMessage".toList other := by
  obtain ⟨-, left, form, gap, name, c, more, -, blank, -, -, -, -, rfl⟩ := file_log_some added
  have shape : fileLogCall =
      "CALL".toList ++ ([' '] ++ ("LogMessage".toList ++ "(\"FILE\"".toList)) := by decide
  rw [shape]
  simp only [List.append_assoc]
  exact calls_written left _ _ blank

theorem calls_screenshot {line other : Text} (added : screenshot? line = some other) :
    Calls "AutoScreenshot".toList other := by
  obtain ⟨-, left, more, blank, -, rfl⟩ := screenshot_some added
  have shape : screenshotCall =
      "CALL".toList ++ ([' '] ++ ("AutoScreenshot".toList ++ [])) := by decide
  rw [shape]
  exact calls_written left _ _ blank

end BasicBench.Instrument
