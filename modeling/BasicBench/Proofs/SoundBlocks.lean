import BasicBench.Proofs.Actions
import BasicBench.Proofs.ClosedLines

/-!
The blocks that the passes add are sound, whatever the delay and the time stamp: the loops and
procedures in them match, and every line of them is closed. So a block can be put in anywhere
without changing whether a program is valid.
-/

set_option autoImplicit false

namespace BasicBench.Check

open Text Pattern Instrument

/-- Fixed lines that are closed, and the brackets that they have. They are looked at one by one,
each as its characters. -/
structure Spells (lines : List String) (word : List (Bracket BlockKind)) : Prop where
  brackets : brackets (asLines lines) = word
  closed : ∀ line ∈ asLines lines, Sealed line

theorem spells_nil : Spells [] [] := ⟨rfl, fun _ member => absurd member List.not_mem_nil⟩

theorem spells_quiet {line : List Char} {lines : List String} {word : List (Bracket BlockKind)}
    (checked : (bracket? line == none && isSealed line) = true) (others : Spells lines word) :
    Spells (String.ofList line :: lines) word := by
  simp only [Bool.and_eq_true, beq_iff_eq, sealed_iff] at checked
  have shown : asLines (String.ofList line :: lines) = line :: asLines lines := by
    rw [asLines, List.map_cons, String.toList_ofList, asLines]
  refine ⟨?_, ?_⟩
  · rw [shown, brackets_cons_quiet checked.1, others.brackets]
  · rw [shown, List.forall_mem_cons]
    exact ⟨checked.2, others.closed⟩

theorem spells_bracket {line : List Char} {lines : List String} {bracket : Bracket BlockKind}
    {word : List (Bracket BlockKind)}
    (checked : (bracket? line == some bracket && isSealed line) = true)
    (others : Spells lines word) : Spells (String.ofList line :: lines) (bracket :: word) := by
  simp only [Bool.and_eq_true, beq_iff_eq, sealed_iff] at checked
  have shown : asLines (String.ofList line :: lines) = line :: asLines lines := by
    rw [asLines, List.map_cons, String.toList_ofList, asLines]
  refine ⟨?_, ?_⟩
  · rw [shown, Check.brackets, List.filterMap_cons_some checked.1, ← Check.brackets,
      others.brackets]
  · rw [shown, List.forall_mem_cons]
    exact ⟨checked.2, others.closed⟩

theorem spells_append {above below : List String} {word more : List (Bracket BlockKind)}
    (first : Spells above word) (second : Spells below more) :
    Spells (above ++ below) (word ++ more) := by
  have shown : asLines (above ++ below) = asLines above ++ asLines below := List.map_append
  refine ⟨?_, ?_⟩
  · rw [shown, brackets_append, first.brackets, second.brackets]
  · rw [shown, List.forall_mem_append]
    exact ⟨first.closed, second.closed⟩

theorem sound_of_spells {lines : List String} {word : List (Bracket BlockKind)}
    (spells : Spells lines word) (matched : Matched word) : Sound (asLines lines) :=
  ⟨spells.brackets ▸ matched, spells.closed⟩

theorem sound_quiet_lines {lines : List String} (spells : Spells lines []) : Sound (asLines lines) :=
  sound_of_spells spells matched_nil

/-- The brackets of a procedure. -/
def procedureWord : List (Bracket BlockKind) := [.opens .procedure, .closes .procedure]

theorem console_opening_spells : Spells consoleOpening [] := by
  unfold consoleOpening
  repeat refine spells_quiet (by decide +kernel) ?_
  exact spells_nil

theorem pause_procedure_spells : Spells pauseProcedure procedureWord := by
  unfold pauseProcedure
  repeat first
    | refine spells_quiet (by decide +kernel) ?_
    | refine spells_bracket (by decide +kernel) ?_
  exact spells_nil

theorem exit_procedure_spells (autoExit : Bool) :
    Spells (exitProcedureHead ++ (if autoExit then timedExit else untimedExit) ++
      exitProcedureEnd) procedureWord := by
  have head : Spells exitProcedureHead [.opens .procedure] := by
    unfold exitProcedureHead
    refine spells_bracket (by decide +kernel) ?_
    exact spells_quiet (by decide +kernel) spells_nil
  have wait : Spells (if autoExit then timedExit else untimedExit) [] := by
    unfold timedExit untimedExit
    cases autoExit <;> simp only [Bool.false_eq_true, if_true, if_false] <;>
      repeat refine spells_quiet (by decide +kernel) ?_
    · exact spells_nil
    · exact spells_nil
  have stop : Spells exitProcedureEnd [.closes .procedure] := by
    unfold exitProcedureEnd
    refine spells_quiet (by decide +kernel) ?_
    exact spells_bracket (by decide +kernel) spells_nil
  exact spells_append (spells_append head wait) stop

theorem resource_body_spells : Spells resourceBody
    (procedureWord ++ [.opens .function, .closes .function] ++ procedureWord ++
      [.opens .procedure, .opens .forLoop, .closes .forLoop, .opens .forLoop, .closes .forLoop,
        .closes .procedure]) := by
  unfold resourceBody
  repeat first
    | refine spells_quiet (by decide +kernel) ?_
    | refine spells_bracket (by decide +kernel) ?_
  exact spells_nil

theorem graphics_body_spells (registerImages : Bool) : Spells
    (graphicsBodyStart ++ (if registerImages then imageRegistration else []) ++ graphicsBodyEnd)
    (procedureWord ++ procedureWord ++ procedureWord ++ [.opens .function] ++ [] ++
      [.closes .function, .opens .procedure, .closes .procedure]) := by
  have start : Spells graphicsBodyStart
      (procedureWord ++ procedureWord ++ procedureWord ++ [.opens .function]) := by
    unfold graphicsBodyStart
    repeat first
      | refine spells_quiet (by decide +kernel) ?_
      | refine spells_bracket (by decide +kernel) ?_
    exact spells_nil
  have middle : Spells (if registerImages then imageRegistration else []) [] := by
    unfold imageRegistration
    cases registerImages
    · exact spells_nil
    · exact spells_quiet (by decide +kernel) spells_nil
  have stop : Spells graphicsBodyEnd
      [.closes .function, .opens .procedure, .closes .procedure] := by
    unfold graphicsBodyEnd
    simp only [String.reduceAppend]
    repeat first
      | refine spells_quiet (by decide +kernel) ?_
      | refine spells_bracket (by decide +kernel) ?_
    exact spells_nil
  exact spells_append (spells_append start middle) stop

theorem logging_start_spells : Spells loggingBodyStart [.opens .procedure] := by
  unfold loggingBodyStart
  repeat first
    | refine spells_quiet (by decide +kernel) ?_
    | refine spells_bracket (by decide +kernel) ?_
  exact spells_nil

theorem logging_end_spells : Spells loggingBodyEnd
    [.closes .procedure, .opens .procedure, .closes .procedure] := by
  unfold loggingBodyEnd
  repeat first
    | refine spells_quiet (by decide +kernel) ?_
    | refine spells_bracket (by decide +kernel) ?_
  exact spells_nil

theorem screenshot_start_spells : Spells screenshotBodyStart [.opens .procedure] := by
  unfold screenshotBodyStart
  repeat first
    | refine spells_quiet (by decide +kernel) ?_
    | refine spells_bracket (by decide +kernel) ?_
  exact spells_nil

theorem screenshot_end_spells (logged : Bool) : Spells
    (screenshotBodyMiddle ++ (if logged then screenshotLogging else []) ++ screenshotBodyEnd)
    ([.closes .procedure, .opens .procedure] ++ [] ++
      [.closes .procedure, .opens .procedure, .closes .procedure]) := by
  have middle : Spells screenshotBodyMiddle [.closes .procedure, .opens .procedure] := by
    unfold screenshotBodyMiddle
    simp only [String.reduceAppend]
    repeat first
      | refine spells_quiet (by decide +kernel) ?_
      | refine spells_bracket (by decide +kernel) ?_
    exact spells_nil
  have optional : Spells (if logged then screenshotLogging else []) [] := by
    unfold screenshotLogging
    cases logged
    · exact spells_nil
    · exact spells_quiet (by decide +kernel) spells_nil
  have stop : Spells screenshotBodyEnd
      [.closes .procedure, .opens .procedure, .closes .procedure] := by
    unfold screenshotBodyEnd
    repeat first
      | refine spells_quiet (by decide +kernel) ?_
      | refine spells_bracket (by decide +kernel) ?_
    exact spells_nil
  exact spells_append (spells_append middle optional) stop

/-! Lines that are filled in. -/

theorem sound_closed_line {word line : Text} (quiet : isQuietWord word = true)
    (leads : Leads word line) (closed : LineClosed line) : Sound [line] :=
  sound_line (quiet_of_leads quiet leads) fun _ => closed

theorem not_mem_numeral {text : Text} (numeral : Number.Numeral text) (c : Char)
    (other : Number.isNumeral c = false) : c ∉ text := by
  intro member
  rw [numeral c member] at other
  cases other

theorem delay_line_sound {timeout : Int} {delay : Text} (shown : delayText? timeout = some delay) :
    Sound ["CONST AUTO_TEST_DELAY = ".toList ++ delay] := by
  have numeral := delay_numeral timeout delay shown
  have absent (c : Char) (front : c ∉ "CONST AUTO_TEST_DELAY = ".toList)
      (other : Number.isNumeral c = false) : c ∉ "CONST AUTO_TEST_DELAY = ".toList ++ delay := by
    rw [List.mem_append, not_or]
    exact ⟨front, not_mem_numeral numeral c other⟩
  have leads : Leads "CONST ".toList ("CONST AUTO_TEST_DELAY = ".toList ++ delay) := by
    have split : "CONST AUTO_TEST_DELAY = ".toList =
        "CONST ".toList ++ "AUTO_TEST_DELAY = ".toList := by decide
    rw [split, List.append_assoc]
    exact leads_indented _ [] _ blank_nil
  refine sound_closed_line (by decide) (leads_shorter "CONST".toList " ".toList _ leads)
    (line_closed_of_plain ?_ ?_)
  · exact ⟨absent '"' (by decide) (by decide), absent '\'' (by decide) (by decide)⟩
  · exact ⟨absent '(' (by decide) (by decide), absent ')' (by decide) (by decide)⟩

/-- The lines that hold the time stamp set a variable to a string. -/
theorem stamped_line_sound {c : Char} {others : Text} (name : StandsAlone c others)
    (quiet : isQuietWord (c :: others) = true) (filled : Text) (closed : '"' ∉ filled) :
    Sound ["    ".toList ++ (c :: others ++ (" = ".toList ++ '"' :: (filled ++ ['"'])))] := by
  have blank : Blank "    ".toList := List.all_eq_true.mp (by decide)
  exact sound_closed_line quiet (leads_indented _ _ _ blank)
    (line_closed_of_setting blank (by decide) name filled closed)

theorem log_name_stands_alone : StandsAlone 'L' "ogFile".toList :=
  ⟨by decide, fun _ => rfl, by decide, by decide⟩

theorem screenshot_name_stands_alone : StandsAlone 'S' "creenshotBase".toList :=
  ⟨by decide, fun _ => rfl, by decide, by decide⟩

/-! Whole blocks. -/

theorem marker_is_no_code (feature : Feature) :
    isCodeText (openingMarker feature) = false ∧ isCodeText (closingMarker feature) = false := by
  cases feature <;> decide +kernel

theorem sound_block (feature : Feature) {body : List Text} (sound : Sound body) :
    Sound (block feature body) := by
  obtain ⟨opening, closing⟩ := marker_is_no_code feature
  exact sound_append (sound_append (sound_not_code opening) sound) (sound_not_code closing)

theorem sound_console_block {timeout : Int} {autoExit : Bool} {added : List Text}
    (built : consoleBlock? timeout autoExit = some added) : Sound added := by
  obtain ⟨delay, shown, rfl⟩ := Option.map_eq_some_iff.mp built
  have exits := sound_of_spells (exit_procedure_spells autoExit) (by decide)
  have texts : asLines (exitProcedureHead ++ (if autoExit then timedExit else untimedExit) ++
      exitProcedureEnd) = asLines exitProcedureHead ++
        asLines (if autoExit then timedExit else untimedExit) ++ asLines exitProcedureEnd := by
    simp only [asLines, List.map_append]
  rw [texts] at exits
  refine sound_block .console ?_
  rw [consoleBody, List.append_assoc _ _ (asLines exitProcedureEnd),
    List.append_assoc _ (asLines exitProcedureHead), ← List.append_assoc (asLines exitProcedureHead)]
  exact sound_append (sound_append (sound_append (sound_quiet_lines console_opening_spells)
    (delay_line_sound shown)) (sound_of_spells pause_procedure_spells (by decide))) exits

theorem sound_resource_block : Sound resourceBlock :=
  sound_block .resources (sound_of_spells resource_body_spells (by decide))

theorem sound_graphics_block (registerImages : Bool) : Sound (graphicsBlock registerImages) :=
  sound_block .graphics (sound_of_spells (graphics_body_spells registerImages) (by decide))

/-- Lines without brackets may stand between the parts of a block. -/
theorem sound_between {above below : List String} {word more : List (Bracket BlockKind)}
    (first : Spells above word) (second : Spells below more) (matched : Matched (word ++ more))
    {lines : List Text} (sound : Sound lines) :
    Sound (asLines above ++ lines ++ asLines below) := by
  have joined : Sound (asLines above ++ asLines below) := by
    have all := sound_of_spells (spells_append first second) matched
    rwa [asLines, List.map_append] at all
  rw [List.append_assoc]
  exact (sound_insert _ sound _).mpr joined

theorem log_name_sound {stamp : Text} (plain : '"' ∉ stamp) :
    Sound ["    LogFile = \"qb64pe-logs/debug_".toList ++ stamp ++ ".log\"".toList] := by
  have split : "    LogFile = \"qb64pe-logs/debug_".toList = "    ".toList ++
      ('L' :: "ogFile".toList ++ (" = ".toList ++ '"' :: "qb64pe-logs/debug_".toList)) := by decide
  have closing : ".log\"".toList = ".log".toList ++ ['"'] := by decide
  have filled : '"' ∉ "qb64pe-logs/debug_".toList ++ stamp ++ ".log".toList := by
    simp only [List.mem_append, not_or]
    exact ⟨⟨by decide, plain⟩, by decide⟩
  have sound := stamped_line_sound log_name_stands_alone (by decide) _ filled
  rw [split, closing]
  simpa only [List.append_assoc, List.cons_append] using sound

theorem sound_logging_block {stamp : Text} (plain : '"' ∉ stamp) (verbose : Bool) :
    Sound (loggingBlock stamp verbose) := by
  have enabled : Sound
      [(if verbose then "    LogEnabled = 1" else "    LogEnabled = 0").toList] := by
    refine sound_line ?_ ?_ <;> cases verbose <;> decide +kernel
  refine sound_block .logging
    (sound_between logging_start_spells logging_end_spells (by decide) ?_)
  exact sound_append (log_name_sound plain) enabled

theorem screenshot_name_sound {stamp : Text} (plain : '"' ∉ stamp) :
    Sound ["    ScreenshotBase = \"qb64pe-screenshots/debug_".toList ++ stamp ++ ['"']] := by
  have split : "    ScreenshotBase = \"qb64pe-screenshots/debug_".toList = "    ".toList ++
      ('S' :: "creenshotBase".toList ++
        (" = ".toList ++ '"' :: "qb64pe-screenshots/debug_".toList)) := by decide
  have filled : '"' ∉ "qb64pe-screenshots/debug_".toList ++ stamp := by
    simp only [List.mem_append, not_or]
    exact ⟨by decide, plain⟩
  have sound := stamped_line_sound screenshot_name_stands_alone (by decide) _ filled
  rw [split]
  simpa only [List.append_assoc, List.cons_append] using sound

theorem sound_screenshot_block {stamp : Text} (plain : '"' ∉ stamp) (logged : Bool) :
    Sound (screenshotBlock stamp logged) :=
  sound_block .screenshots (sound_between screenshot_start_spells (screenshot_end_spells logged)
    (by decide) (screenshot_name_sound plain))

/-- A block that is added is sound, where one can be built. -/
theorem sound_support_block (options : Options) {stamp : Text} (plain : '"' ∉ stamp)
    (lines : List Text) (feature : Feature) : Sound (supportBlock options stamp lines feature) := by
  cases feature with
  | console =>
      rw [supportBlock]
      cases built : consoleBlock? options.timeout options.autoExit with
      | none => exact sound_nil
      | some added => exact sound_console_block built
  | flowControl => exact sound_nil
  | resources => exact sound_resource_block
  | graphics => exact sound_graphics_block _
  | logging => exact sound_logging_block plain options.verbose
  | screenshots => exact sound_screenshot_block plain _

end BasicBench.Check
