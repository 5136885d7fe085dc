import BasicBench.Proofs.DrawingWords
import BasicBench.Proofs.Enhancements
import BasicBench.Proofs.WrittenLines

/-!
The mode that is told by the words of a program, over any number of runs. In a program that does
not draw no pass brings in a word that says it does, whatever the delay and the clock show. A
program that draws gets the graphics block, and inside it such a word stays.
-/

set_option autoImplicit false

namespace BasicBench.Instrument

open Text Pattern

/-- No line shows drawing. -/
def DrawsNothing (lines : List Text) : Prop :=
  ∀ line ∈ lines, graphicsWord.occursIn line = false

theorem no_drawing_iff (text : Text) : graphicsWord.occursIn text = false ↔
    ∀ word ∈ drawingWords, ¬Names word none text := by
  rw [← Bool.not_eq_true, graphics_word_iff]
  push Not
  rfl

theorem draws_iff (program : Text) : (Mode.detect program).draws = true ↔
    ¬DrawsNothing (splitLines program) := by
  have draws : (Mode.detect program).draws = graphicsWord.occursIn program := by
    rw [Mode.detect]
    cases graphicsWord.occursIn program <;> cases consoleWord.occursIn program <;> rfl
  have lines : ∀ word ∈ drawingWords, Names word none program ↔
      ∃ line ∈ splitLines program, Names word none line := by
    intro word listed
    have name := drawing_word_name listed
    have split : Names word none program ↔ _ := names_split_lines name [] program
    rw [split, List.nil_append]
    cases splitLines program with
    | nil => simp [not_names_nil name]
    | cons line others => simp
  rw [draws, graphics_word_iff, DrawsNothing]
  push Not
  constructor
  · rintro ⟨word, listed, names⟩
    rcases (lines word listed).mp names with ⟨line, member, here⟩
    refine ⟨line, member, ?_⟩
    rw [Bool.ne_false_iff, graphics_word_iff]
    exact ⟨word, listed, here⟩
  · rintro ⟨line, member, shows⟩
    rw [Bool.ne_false_iff, graphics_word_iff] at shows
    rcases shows with ⟨word, listed, here⟩
    exact ⟨word, listed, (lines word listed).mpr ⟨line, member, here⟩⟩

/-! Added lines. -/

/-- No run of the line spells a word that shows drawing. -/
def lacksDrawing (line : Text) : Bool :=
  drawingWords.all fun word => lacksWord word [] line

theorem no_drawing_of_lacks {line : Text} (lacks : lacksDrawing line = true) :
    graphicsWord.occursIn line = false := by
  rw [no_drawing_iff]
  intro word listed
  exact not_names_of_lacks (drawing_word_name listed) (List.all_eq_true.mp lacks word listed)

theorem joins_blank {c : Char} (space : isSpace c = true) :
    (some c).any joinsName = (some ' ').any joinsName := by
  have dollar : c ≠ '$' := by
    intro same
    rw [same] at space
    exact absurd space (by decide)
  rw [Option.any_some, joinsName, not_word_char_of_space c space, beq_eq_false_iff_ne.mpr dollar]
  decide

theorem no_drawing_blanks {left : Text} (blank : Blank left) (right : Text) :
    graphicsWord.occursIn (left ++ right) = graphicsWord.occursIn right := by
  rw [Bool.eq_iff_iff, graphics_word_iff, graphics_word_iff]
  apply exists_congr
  intro word
  apply and_congr_right
  intro listed
  exact names_blanks (drawing_word_name listed) blank right rfl

theorem no_drawing_blank {line : Text} (blank : Blank line) : graphicsWord.occursIn line = false := by
  have same := no_drawing_blanks blank []
  rw [List.append_nil] at same
  rw [same]
  decide

/-- Characters of numbers and times. None of them begins a word that shows drawing. -/
def isDry (c : Char) : Bool := c.toNat < 65 || c == 'T' || c == 'e'

theorem not_same_letter_dry {letter c : Char} (high : 65 ≤ (capital letter).toNat)
    (hour : sameLetter letter 'T' = false) (exponent : sameLetter letter 'e' = false)
    (dry : isDry c = true) : sameLetter letter c = false := by
  rw [isDry, Bool.or_eq_true, Bool.or_eq_true, decide_eq_true_eq, beq_iff_eq, beq_iff_eq] at dry
  rcases dry with (low | rfl) | rfl
  · have fixed : capital c = c := by
      rcases capital_codes c with ⟨small, -, -⟩ | ⟨special, -⟩ | same
      · omega
      · simp only [List.mem_cons, List.not_mem_nil, or_false] at special
        omega
      · exact same
    rw [sameLetter, fixed, beq_eq_false_iff_ne]
    rintro rfl
    omega
  · exact hour
  · exact exponent

theorem not_spells_of_missing {word text : Text} {letter : Char} (held : letter ∈ word)
    (missing : ∀ c ∈ text, sameLetter letter c = false) : spells word text = false := by
  rw [← Bool.not_eq_true, spells_iff]
  intro same
  induction same with
  | nil => exact List.not_mem_nil held
  | cons here others induction =>
      rcases List.mem_cons.mp held with rfl | later
      · rw [missing _ List.mem_cons_self] at here
        exact absurd here (by decide)
      · exact induction later fun c member => missing c (List.mem_cons_of_mem _ member)

theorem not_spells_dry {word : Text} (listed : word ∈ drawingWords) {text : Text}
    (dry : ∀ c ∈ text, isDry c = true) : spells word text = false := by
  have letters : drawingWords.all (fun word => word.any fun letter =>
      decide (65 ≤ (capital letter).toNat) && !sameLetter letter 'T' && !sameLetter letter 'e') =
      true := by decide
  rcases List.any_eq_true.mp (List.all_eq_true.mp letters word listed) with ⟨letter, held, fits⟩
  simp only [Bool.and_eq_true, decide_eq_true_eq, Bool.not_eq_true'] at fits
  apply not_spells_of_missing held
  intro c member
  exact not_same_letter_dry fits.1.1 fits.1.2 fits.2 (dry c member)

/-- No run of dry characters spells the word, nor does one that goes on with them behind letters
that spoil it. -/
theorem lacks_word_dry {word : Text} (listed : word ∈ drawingWords) {run text : Text}
    (spoiled : ∀ more, (∀ c ∈ more, isDry c = true) → spells word (run ++ more) = false)
    (dry : ∀ c ∈ text, isDry c = true) : lacksWord word run text = true := by
  induction text generalizing run with
  | nil =>
      have alone := spoiled [] (fun _ member => absurd member List.not_mem_nil)
      rw [List.append_nil] at alone
      rw [lacks_word_nil, alone]
      rfl
  | cons c text induction =>
      have later : ∀ d ∈ text, isDry d = true := fun d member =>
        dry d (List.mem_cons_of_mem c member)
      cases letter : isWordChar c with
      | true =>
          rw [lacks_word_letter _ letter]
          refine induction ?_ later
          intro more others
          rw [List.append_assoc, List.singleton_append]
          exact spoiled (c :: more) (List.forall_mem_cons.mpr ⟨dry c List.mem_cons_self, others⟩)
      | false =>
          have alone := spoiled [] (fun _ member => absurd member List.not_mem_nil)
          rw [List.append_nil] at alone
          rw [lacks_word_break _ letter, alone, Bool.not_false, Bool.true_and]
          exact induction (fun more others => not_spells_dry listed others) later

/-- The time as a clock shows it. -/
def ClockShows (stamp : Text) : Prop := ∀ c ∈ stamp, c.isDigit = true ∨ c = '-' ∨ c = 'T'

theorem dry_of_digit {c : Char} (digit : c.isDigit = true) : isDry c = true := by
  rw [Char.isDigit, Bool.and_eq_true, decide_eq_true_eq, decide_eq_true_eq] at digit
  have low : c.toNat ≤ 57 := digit.2
  rw [isDry, decide_eq_true (by omega)]
  rfl

theorem dry_of_clock {stamp : Text} (clock : ClockShows stamp) : ∀ c ∈ stamp, isDry c = true := by
  intro c member
  rcases clock c member with digit | rfl | rfl
  · exact dry_of_digit digit
  · decide
  · decide

theorem unbroken_of_clock {stamp : Text} (clock : ClockShows stamp) : Unbroken stamp := by
  intro c member
  have numeral : Number.isNumeral c = true ∨ c = 'T' := by
    rcases clock c member with digit | rfl | rfl
    · exact .inl (by rw [Number.isNumeral, digit]; rfl)
    · exact .inl (by decide)
    · exact .inr rfl
  rcases numeral with numeral | rfl
  · exact not_line_end_of_numeral c numeral
  · decide

theorem dry_of_numeral {text : Text} (numeral : Number.Numeral text) :
    ∀ c ∈ text, isDry c = true := by
  intro c member
  have here := numeral c member
  rw [Number.isNumeral, Bool.or_eq_true] at here
  rcases here with digit | sign
  · exact dry_of_digit digit
  · have signs : c = '+' ∨ c = '-' ∨ c = '.' ∨ c = 'e' := by simpa using sign
    rcases signs with rfl | rfl | rfl | rfl <;> decide

/-- Fixed text that comes into programs that do not draw. -/
def fixedTexts : List String :=
  consoleOpening ++ pauseProcedure ++ exitProcedureHead ++ timedExit ++ untimedExit ++
    exitProcedureEnd ++ resourceBody ++ loggingBodyStart ++ loggingBodyEnd ++
    frontLines true true ++ frontLines false true ++
    ["CONST AUTO_TEST_DELAY =", "    LogFile = \"qb64pe-logs", "log\"", "    LogEnabled = 1",
      "    LogEnabled = 0", "CALL LogMessage(\"FILE\", \"Opened file: \" +"]

theorem fixed_texts_lack : AllPass lacksDrawing fixedTexts := by
  unfold fixedTexts consoleOpening pauseProcedure exitProcedureHead timedExit untimedExit
    exitProcedureEnd resourceBody loggingBodyStart loggingBodyEnd frontLines wrapper
  simp only [Bool.false_eq_true, if_true, if_false, List.cons_append, List.nil_append]
  repeat refine all_pass_cons (by decide +kernel) ?_
  exact all_pass_nil _

theorem fixed_text_lacks {text : String} (listed : text ∈ fixedTexts) :
    lacksDrawing text.toList = true :=
  fixed_texts_lack _ (List.mem_map_of_mem listed)

theorem lacks_of_fixed {lines : List String} (listed : lines ⊆ fixedTexts) :
    AllPass lacksDrawing lines :=
  fun line member => fixed_texts_lack line (List.map_subset _ listed member)

/-- The line that holds the delay. -/
theorem delay_line_lacks {timeout : Int} {delay : Text} (shown : delayText? timeout = some delay) :
    lacksDrawing ("CONST AUTO_TEST_DELAY = ".toList ++ delay) = true := by
  have dry := dry_of_numeral (delay_numeral timeout delay shown)
  have split : "CONST AUTO_TEST_DELAY = ".toList ++ delay =
      "CONST AUTO_TEST_DELAY =".toList ++ ' ' :: delay := by
    have front : "CONST AUTO_TEST_DELAY = ".toList = "CONST AUTO_TEST_DELAY =".toList ++ [' '] := by
      decide
    rw [front, List.append_assoc, List.singleton_append]
  have fixed : lacksDrawing "CONST AUTO_TEST_DELAY =".toList = true :=
    fixed_text_lacks (by simp [fixedTexts])
  rw [lacksDrawing, List.all_eq_true] at fixed ⊢
  intro word listed
  rw [split, lacks_word_append_break _ (by decide), fixed word listed, Bool.true_and]
  exact lacks_word_dry listed (fun more others => not_spells_dry listed others) dry

/-- The line that holds the time. Its run before the time is spoiled by a letter that no word has. -/
theorem stamped_line_lacks {stamp : Text} (clock : ClockShows stamp) :
    lacksDrawing ("    LogFile = \"qb64pe-logs/debug_".toList ++ stamp ++ ".log\"".toList) = true := by
  have split : "    LogFile = \"qb64pe-logs/debug_".toList ++ stamp ++ ".log\"".toList =
      "    LogFile = \"qb64pe-logs".toList ++ '/' :: ("debug_".toList ++ stamp ++
        '.' :: "log\"".toList) := by
    have front : "    LogFile = \"qb64pe-logs/debug_".toList =
        "    LogFile = \"qb64pe-logs".toList ++ '/' :: "debug_".toList := by decide
    have back : ".log\"".toList = '.' :: "log\"".toList := by decide
    rw [front, back]
    simp
  have fixed : lacksDrawing "    LogFile = \"qb64pe-logs".toList = true ∧
      lacksDrawing "log\"".toList = true :=
    ⟨fixed_text_lacks (by simp [fixedTexts]), fixed_text_lacks (by simp [fixedTexts])⟩
  have foreign : drawingWords.all (fun word =>
      word.all fun letter => !sameLetter letter 'b') = true := by decide
  rw [lacksDrawing, lacksDrawing, List.all_eq_true, List.all_eq_true] at fixed
  rw [lacksDrawing, List.all_eq_true]
  intro word listed
  rw [split, lacks_word_append_break _ (by decide), lacks_word_append_break _ (by decide),
    fixed.1 word listed, fixed.2 word listed, Bool.and_true, Bool.true_and,
    lacks_word_letters _ _ _ _ (List.all_eq_true.mp (by decide)), List.nil_append]
  apply lacks_word_dry listed _ (dry_of_clock clock)
  intro more _
  have member : 'b' ∈ "debug_".toList ++ more := List.mem_append_left _ (by decide)
  exact not_spells_of_mem member (List.all_eq_true.mp foreign word listed)

theorem console_body_lacks (autoExit : Bool) : AllPass lacksDrawing (consoleOpening ++
    pauseProcedure ++ exitProcedureHead ++ (if autoExit then timedExit else untimedExit) ++
      exitProcedureEnd) := by
  apply lacks_of_fixed
  intro line member
  simp only [List.mem_append] at member
  rcases member with (((opening | pause) | head) | wait) | last
  · simp [fixedTexts, opening]
  · simp [fixedTexts, pause]
  · simp [fixedTexts, head]
  · cases autoExit with
    | true => simp [fixedTexts, show line ∈ timedExit from wait]
    | false => simp [fixedTexts, show line ∈ untimedExit from wait]
  · simp [fixedTexts, last]

theorem resource_body_lacks : AllPass lacksDrawing resourceBody :=
  lacks_of_fixed fun line member => by simp [fixedTexts, member]

theorem logging_body_lacks : AllPass lacksDrawing (loggingBodyStart ++ loggingBodyEnd) := by
  apply lacks_of_fixed
  intro line member
  rcases List.mem_append.mp member with start | stop
  · simp [fixedTexts, start]
  · simp [fixedTexts, stop]

theorem wrapper_lacks (hasConsole autoExit : Bool) :
    AllPass lacksDrawing (frontLines hasConsole autoExit) := by
  have console : frontLines true autoExit = frontLines true true := by cases autoExit <;> rfl
  have plain : frontLines false autoExit ⊆ frontLines false true := by
    cases autoExit
    · simp [frontLines, wrapper]
    · exact List.Subset.refl _
  apply lacks_of_fixed
  intro line member
  cases hasConsole with
  | true =>
      rw [console] at member
      simp [fixedTexts, member]
  | false => simp [fixedTexts, plain member]

theorem markers_lack (feature : Feature) : lacksDrawing (openingMarker feature) = true ∧
    lacksDrawing (closingMarker feature) = true := by
  cases feature <;> decide +kernel

/-! What the actions write. -/

/-- The file name in an open statement stands between blanks, in the log as well. -/
theorem no_drawing_file_log {line other : Text} (added : fileLog? line = some other)
    (none : graphicsWord.occursIn line = false) : graphicsWord.occursIn other = false := by
  rcases file_log_some added with
    ⟨-, left, form, gap, file, c, more, rfl, blank, -, nonempty, blankGap, space, rfl⟩
  rw [no_drawing_iff] at none ⊢
  intro word listed
  have name := drawing_word_name listed
  have fileFree : ¬Names word (some ' ') file := by
    rcases List.eq_nil_or_concat gap |>.resolve_left nonempty with ⟨others, d, rfl⟩
    have breaks := not_word_char_of_space d (blankGap d (by simp))
    have shape : left ++ (form ++ (others.concat d ++ (file ++ c :: more))) =
        (left ++ (form ++ others)) ++ d :: (file ++ c :: more) := by simp
    have whole := none word listed
    rw [shape, names_break name breaks, not_or,
      names_break name (not_word_char_of_space c space), not_or] at whole
    intro names
    exact whole.2.1 (names_before_congr (joins_blank (blankGap d (by simp))).symm names)
  have shape : left ++ fileLogCall ++ ", \"Opened file: \" + ".toList ++ file ++ [')'] =
      left ++ ("CALL LogMessage(\"FILE\", \"Opened file: \" +".toList ++ ' ' :: (file ++ ')' :: [])) := by
    have front : fileLogCall ++ ", \"Opened file: \" + ".toList =
        "CALL LogMessage(\"FILE\", \"Opened file: \" +".toList ++ [' '] := by decide
    rw [List.append_assoc left, front]
    simp
  have fixed : lacksDrawing "CALL LogMessage(\"FILE\", \"Opened file: \" +".toList = true :=
    fixed_text_lacks (by simp [fixedTexts])
  rw [shape, names_blanks name blank _ rfl, names_break name (by decide),
    names_break name (by decide)]
  intro names
  rcases names with front | file | closing
  · exact not_names_of_lacks name (List.all_eq_true.mp fixed word listed) front
  · exact fileFree file
  · exact not_names_nil name closing

theorem no_drawing_tracked {line : Text} (none : graphicsWord.occursIn line = false) :
    graphicsWord.occursIn (Edit.freefile.apply line) = false := by
  have other : drawingWords.all (fun word =>
      !spells word "ResourceManager_GetFileHandle".toList) = true := by decide
  rw [no_drawing_iff] at none ⊢
  intro word listed
  have spelled := List.all_eq_true.mp other word listed
  rw [Bool.not_eq_true'] at spelled
  exact not_names_tracked (drawing_word_name listed) spelled (none word listed)

theorem no_drawing_indent_line {line : Text} (none : graphicsWord.occursIn line = false) :
    graphicsWord.occursIn (indentLine line) = false := by
  rcases indent_line_cases line with ⟨-, same⟩ | same
  · rw [same]
    exact no_drawing_blank blank_nil
  · rw [same, no_drawing_blanks blank_indent]
    exact none

/-- The actions for programs that draw. -/
def Action.isForDrawing : Action → Bool
  | .support .graphics | .support .screenshots | .exchange .image | .exchange .point
  | .takeShots => true
  | _ => false

variable {options : Options} {stamp : Text}

theorem block_lacks (feature : Feature) {body : List Text}
    (inside : ∀ line ∈ body, lacksDrawing line = true) :
    ∀ line ∈ block feature body, lacksDrawing line = true := by
  intro line member
  rw [block, List.mem_append, List.mem_append, List.mem_singleton, List.mem_singleton] at member
  rcases member with (rfl | here) | rfl
  · exact (markers_lack feature).1
  · exact inside line here
  · exact (markers_lack feature).2

theorem console_block_lacks {timeout : Int} {autoExit : Bool} {added : List Text}
    (built : consoleBlock? timeout autoExit = some added) :
    ∀ line ∈ added, lacksDrawing line = true := by
  rcases Option.map_eq_some_iff.mp built with ⟨delay, shown, rfl⟩
  apply block_lacks
  intro line member
  have fixed := console_body_lacks autoExit
  simp only [AllPass, asLines, List.map_append, List.mem_append] at fixed
  simp only [consoleBody, asLines, List.mem_append, List.mem_singleton] at member
  rcases member with ((((member | rfl) | member) | member) | member) | member
  · exact fixed line (by simp [member])
  · exact delay_line_lacks shown
  · exact fixed line (by simp [member])
  · exact fixed line (by simp [member])
  · exact fixed line (by simp [member])
  · exact fixed line (by simp [member])

theorem logging_block_lacks (clock : ClockShows stamp) (verbose : Bool) :
    ∀ line ∈ loggingBlock stamp verbose, lacksDrawing line = true := by
  apply block_lacks
  intro line member
  have fixed := logging_body_lacks
  have enabled : lacksDrawing
      ((if verbose then "    LogEnabled = 1" else "    LogEnabled = 0").toList) = true := by
    cases verbose
    · exact fixed_text_lacks (by simp [fixedTexts])
    · exact fixed_text_lacks (by simp [fixedTexts])
  simp only [AllPass, asLines, List.map_append, List.mem_append] at fixed
  simp only [asLines, List.mem_append, List.mem_cons, List.not_mem_nil, or_false] at member
  rcases member with (member | rfl | rfl) | member
  · exact fixed line (.inl member)
  · exact stamped_line_lacks clock
  · exact enabled
  · exact fixed line (.inr member)

/-- The blocks of programs that do not draw. -/
theorem support_lacks (clock : ClockShows stamp) (lines : List Text) {feature : Feature}
    (plain : (Action.support feature).isForDrawing = false) :
    ∀ line ∈ supportBlock options stamp lines feature, lacksDrawing line = true := by
  cases feature with
  | console =>
      rw [supportBlock]
      cases built : consoleBlock? options.timeout options.autoExit with
      | none => exact fun line member => absurd member List.not_mem_nil
      | some added => exact console_block_lacks built
  | flowControl => exact fun line member => absurd member List.not_mem_nil
  | resources => exact block_lacks .resources resource_body_lacks
  | graphics => cases plain
  | logging => exact logging_block_lacks clock options.verbose
  | screenshots => cases plain

/-- No action for programs that do not draw brings in a word that shows drawing. -/
theorem draws_nothing_kept (clock : ClockShows stamp) {action : Action}
    (plain : action.isForDrawing = false) : KeptBy options stamp DrawsNothing action := by
  intro lines unbroken none line member
  have call : ∀ left : Text, Blank left → ∀ text, lacksDrawing text = true →
      graphicsWord.occursIn (left ++ text) = false := by
    intro left blank text lacks
    rw [no_drawing_blanks blank]
    exact no_drawing_of_lacks lacks
  cases written_of_mem unbroken member with
  | kept old => exact none line old
  | blank empty => exact no_drawing_blank empty
  | directive same =>
      rw [same]
      exact no_drawing_of_lacks (by decide +kernel)
  | support feature adds added =>
      rw [adds] at plain
      exact no_drawing_of_lacks (support_lacks clock lines plain line added)
  | pause left blank same =>
      rw [same]
      exact call left blank _ (by decide +kernel)
  | exit left blank same =>
      rw [same]
      exact call left blank _ (by decide +kernel)
  | front hasConsole listed =>
      exact no_drawing_of_lacks (wrapper_lacks hasConsole options.autoExit line listed)
  | back same =>
      rw [same]
      exact no_drawing_of_lacks (by decide +kernel)
  | indented other old same =>
      rw [same]
      exact no_drawing_indent_line (none other old)
  | edited edit edits other old same =>
      rw [same]
      cases edit with
      | freefile => exact no_drawing_tracked (none other old)
      | image => rw [edits] at plain; cases plain
      | point => rw [edits] at plain; cases plain
  | cleanup left blank same =>
      rw [same]
      exact call left blank _ (by decide +kernel)
  | logged other old added => exact no_drawing_file_log added (none other old)
  | shot other old adds added => rw [adds] at plain; cases plain

theorem draws_nothing_ignores_end : IgnoresEnd DrawsNothing := by
  intro lines
  have empty := no_drawing_blank blank_nil
  simp [DrawsNothing, or_imp, forall_and, empty]

/-- A program that does not draw is instrumented to one that does not draw. -/
theorem no_drawing_in_output {source : Text} {out : Instrumented} (clock : ClockShows stamp)
    (none : DrawsNothing (splitLines source))
    (ran : instrument? options .console stamp source = some out) :
    DrawsNothing (splitLines out.program) := by
  rcases instrument_run ran with ⟨revision, passed, same, -⟩
  rw [← same]
  apply run_passes_keeps (unbroken_of_clock clock) draws_nothing_ignores_end _ passed none
  intro feature chosen action listed
  apply draws_nothing_kept clock
  have wanted := (List.mem_filter.mp chosen).2
  cases feature with
  | console =>
      simp only [actionsOf, List.mem_append, List.mem_cons, List.not_mem_nil, or_false] at listed
      rcases listed with (rfl | rfl | rfl | rfl) | exits
      · rfl
      · rfl
      · rfl
      · rfl
      · split at exits
        · rw [List.mem_singleton.mp exits]
          rfl
        · exact absurd exits List.not_mem_nil
  | flowControl =>
      rw [List.mem_singleton.mp listed]
      rfl
  | resources =>
      simp only [actionsOf, List.mem_cons, List.not_mem_nil, or_false] at listed
      rcases listed with rfl | rfl | rfl <;> rfl
  | graphics => cases wanted
  | logging =>
      simp only [actionsOf, List.mem_cons, List.not_mem_nil, or_false] at listed
      rcases listed with rfl | rfl <;> rfl
  | screenshots =>
      rw [isSelected, Mode.draws, Bool.and_false] at wanted
      cases wanted

end BasicBench.Instrument
