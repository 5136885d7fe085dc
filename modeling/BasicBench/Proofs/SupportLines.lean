import BasicBench.Proofs.Nesting
import BasicBench.Proofs.Statements

/-!
The lines of the blocks that the passes add. Whatever the delay and the time stamp, the first and
the last line of a block are its only markers, no line of it is a console directive, and none is
broken by a line end, provided that the time stamp is not.
-/

set_option autoImplicit false

namespace BasicBench.Number

/-- The characters of numbers as they are shown. -/
def isNumeral (c : Char) : Bool := c.isDigit || "+-.e".toList.contains c

/-- Only characters of numbers. -/
def Numeral (text : List Char) : Prop := ∀ c ∈ text, isNumeral c = true

theorem numeral_append (left right : List Char) :
    Numeral (left ++ right) ↔ Numeral left ∧ Numeral right := by
  simp [Numeral, or_imp, forall_and]

theorem numeral_cons (c : Char) (text : List Char) :
    Numeral (c :: text) ↔ isNumeral c = true ∧ Numeral text := by
  simp [Numeral]

theorem numeral_of_subset {part text : List Char} (subset : part ⊆ text)
    (numeral : Numeral text) : Numeral part :=
  fun c member => numeral c (subset member)

theorem numeral_zeros (count : Nat) : Numeral (List.replicate count '0') := by
  intro c member
  rw [List.eq_of_mem_replicate member]
  decide

theorem numeral_digits (value : Nat) : Numeral (digitsOf value) := by
  intro c member
  rw [isNumeral, Nat.isDigit_of_mem_toDigits (by decide) (by decide) member, Bool.true_or]

namespace Decimal

theorem numeral_of_scaled (count : Nat) (exponent : Int) (scaled : Nat) :
    Numeral (ofScaled count exponent scaled).digits := by
  rw [ofScaled]
  split
  · intro c member
    rw [List.mem_singleton.mp member]
    decide
  · refine numeral_of_subset ?_ (numeral_digits scaled)
    intro c member
    rw [dropZeros, List.mem_reverse] at member
    exact List.mem_reverse.mp ((List.dropWhile_sublist _).subset member)

theorem numeral_positional (decimal : Decimal) (numeral : Numeral decimal.digits) :
    Numeral decimal.positional := by
  rw [positional]
  split
  next exponent _ =>
    have whole := numeral_of_subset (List.take_subset (exponent + 1) decimal.digits) numeral
    have padded : Numeral (decimal.digits.take (exponent + 1) ++
        List.replicate (exponent + 1 - (decimal.digits.take (exponent + 1)).length) '0') :=
      (numeral_append ..).mpr ⟨whole, numeral_zeros _⟩
    have rest := numeral_of_subset (List.drop_subset (exponent + 1) decimal.digits) numeral
    simp only []
    generalize decimal.digits.drop (exponent + 1) = fraction at rest ⊢
    cases fraction with
    | nil => exact padded
    | cons c fraction => exact (numeral_append ..).mpr ⟨padded, (numeral_cons ..).mpr ⟨by decide, rest⟩⟩
  next zeros _ =>
    rw [numeral_append, numeral_append]
    refine ⟨⟨?_, numeral_zeros zeros⟩, numeral⟩
    exact List.all_eq_true.mp (by decide)

theorem numeral_scientific (decimal : Decimal) (numeral : Numeral decimal.digits) :
    Numeral decimal.scientific := by
  have size := numeral_digits decimal.exponent.natAbs
  simp only [scientific]
  rw [numeral_append, numeral_append, numeral_cons, numeral_cons]
  refine ⟨⟨numeral_of_subset (List.take_subset _ _) numeral, ?_⟩, by decide, ?_, ?_⟩
  · split
    · simp [Numeral]
    next more =>
      rw [numeral_cons]
      refine ⟨by decide, ?_⟩
      exact numeral_of_subset (List.drop_subset _ _) numeral
  · split <;> decide
  · split
    · exact (numeral_cons ..).mpr ⟨by decide, size⟩
    · exact size

end Decimal

theorem numeral_six_digits (value : Binary64) : Numeral (sixDigits value) := by
  rw [sixDigits]
  split
  · exact List.all_eq_true.mp (by decide)
  · have digits : Numeral (Decimal.round 6 value.toRatio.1 value.toRatio.2).digits :=
      Decimal.numeral_of_scaled _ _ _
    simp only []
    split
    · exact Decimal.numeral_scientific _ digits
    · exact Decimal.numeral_positional _ digits

end BasicBench.Number

namespace BasicBench.Instrument

open Text Pattern

/-- Added lines that hold no marker, no console directive and no line end. -/
def isSupportLine (line : Text) : Bool :=
  markerKind? line == none && !consoleDirective.startsText line && line.all fun c => !isLineEnd c

theorem support_line_iff (line : Text) :
    isSupportLine line = true ↔ markerKind? line = none ∧
      consoleDirective.startsText line = false ∧ Unbroken line := by
  simp only [isSupportLine, Bool.and_eq_true, beq_iff_eq, Bool.not_eq_true', List.all_eq_true,
    Unbroken, and_assoc]

/-- A block of a feature with nothing but support lines inside. -/
def IsSupport (feature : Feature) (added : List Text) : Prop :=
  ∃ body, added = block feature body ∧ ∀ line ∈ body, isSupportLine line = true

theorem support_line_of_leads (word : String) {line : Text} (leads : Leads word.toList line)
    (apart : areApart word.toList "$CONSOLE".toList = true)
    (noMark : word.toList.head? ≠ some '\'') (unbroken : Unbroken line) :
    isSupportLine line = true := by
  have headed : isHeaded word.toList = true := by
    simp only [areApart, Bool.and_eq_true] at apart
    exact apart.1.1
  exact (support_line_iff line).mpr ⟨marker_kind_of_leads leads ⟨headed, noMark⟩,
    not_starts_of_leads led_console_directive apart leads, unbroken⟩

/-- Fixed lines that all pass a check. They are looked at one by one, each as its characters. -/
def AllPass (check : Text → Bool) (lines : List String) : Prop :=
  ∀ line ∈ asLines lines, check line = true

theorem all_pass_nil (check : Text → Bool) : AllPass check [] :=
  fun _ member => absurd member List.not_mem_nil

theorem all_pass_cons {check : Text → Bool} {line : List Char} {lines : List String}
    (here : check line = true) (others : AllPass check lines) :
    AllPass check (String.ofList line :: lines) := by
  intro other member
  rw [asLines, List.map_cons, String.toList_ofList] at member
  rcases List.mem_cons.mp member with rfl | later
  · exact here
  · exact others other later

theorem all_pass_append {check : Text → Bool} {above below : List String}
    (first : AllPass check above) (second : AllPass check below) : AllPass check (above ++ below) := by
  intro line member
  rw [asLines, List.map_append, List.mem_append] at member
  exact member.elim (first line) (second line)

theorem console_opening_support : AllPass isSupportLine consoleOpening := by
  unfold consoleOpening
  repeat refine all_pass_cons (by decide) ?_
  exact all_pass_nil _

theorem pause_procedure_support : AllPass isSupportLine pauseProcedure := by
  unfold pauseProcedure
  repeat refine all_pass_cons (by decide) ?_
  exact all_pass_nil _

theorem exit_head_support : AllPass isSupportLine exitProcedureHead := by
  unfold exitProcedureHead
  repeat refine all_pass_cons (by decide) ?_
  exact all_pass_nil _

theorem exit_wait_support (autoExit : Bool) :
    AllPass isSupportLine (if autoExit then timedExit else untimedExit) := by
  unfold timedExit untimedExit
  cases autoExit <;> simp only [Bool.false_eq_true, if_true, if_false] <;>
    repeat refine all_pass_cons (by decide) ?_
  · exact all_pass_nil _
  · exact all_pass_nil _

theorem exit_end_support : AllPass isSupportLine exitProcedureEnd := by
  unfold exitProcedureEnd
  repeat refine all_pass_cons (by decide) ?_
  exact all_pass_nil _

theorem resource_body_support : AllPass isSupportLine resourceBody := by
  unfold resourceBody
  repeat refine all_pass_cons (by decide) ?_
  exact all_pass_nil _

theorem graphics_body_support (registerImages : Bool) : AllPass isSupportLine
    (graphicsBodyStart ++ (if registerImages then imageRegistration else []) ++
      graphicsBodyEnd) := by
  have start : AllPass isSupportLine graphicsBodyStart := by
    unfold graphicsBodyStart
    repeat refine all_pass_cons (by decide) ?_
    exact all_pass_nil _
  have middle : AllPass isSupportLine (if registerImages then imageRegistration else []) := by
    unfold imageRegistration
    cases registerImages
    · exact all_pass_nil _
    · exact all_pass_cons (by decide) (all_pass_nil _)
  have stop : AllPass isSupportLine graphicsBodyEnd := by
    unfold graphicsBodyEnd
    simp only [String.reduceAppend]
    repeat refine all_pass_cons (by decide) ?_
    exact all_pass_nil _
  exact all_pass_append (all_pass_append start middle) stop

theorem logging_start_support : AllPass isSupportLine loggingBodyStart := by
  unfold loggingBodyStart
  repeat refine all_pass_cons (by decide) ?_
  exact all_pass_nil _

theorem logging_end_support : AllPass isSupportLine loggingBodyEnd := by
  unfold loggingBodyEnd
  repeat refine all_pass_cons (by decide) ?_
  exact all_pass_nil _

theorem screenshot_start_support : AllPass isSupportLine screenshotBodyStart := by
  unfold screenshotBodyStart
  repeat refine all_pass_cons (by decide) ?_
  exact all_pass_nil _

theorem screenshot_end_support (logged : Bool) : AllPass isSupportLine
    (screenshotBodyMiddle ++ (if logged then screenshotLogging else []) ++ screenshotBodyEnd) := by
  have middle : AllPass isSupportLine screenshotBodyMiddle := by
    unfold screenshotBodyMiddle
    simp only [String.reduceAppend]
    repeat refine all_pass_cons (by decide) ?_
    exact all_pass_nil _
  have optional : AllPass isSupportLine (if logged then screenshotLogging else []) := by
    unfold screenshotLogging
    cases logged
    · exact all_pass_nil _
    · exact all_pass_cons (by decide) (all_pass_nil _)
  have stop : AllPass isSupportLine screenshotBodyEnd := by
    unfold screenshotBodyEnd
    repeat refine all_pass_cons (by decide) ?_
    exact all_pass_nil _
  exact all_pass_append (all_pass_append middle optional) stop

theorem delay_numeral (timeout : Int) (delay : Text) (shown : delayText? timeout = some delay) :
    Number.Numeral delay := by
  obtain ⟨value, -, rfl⟩ := Option.map_eq_some_iff.mp shown
  have digits := Number.numeral_six_digits value
  split
  · exact (Number.numeral_cons ..).mpr ⟨by decide, digits⟩
  · exact digits

theorem not_line_end_of_numeral (c : Char) (numeral : Number.isNumeral c = true) :
    isLineEnd c = false := by
  cases ends : isLineEnd c with
  | false => rfl
  | true =>
      rw [Number.isNumeral, Bool.or_eq_true] at numeral
      rcases numeral with digit | sign
      · simp only [Char.isDigit, Bool.and_eq_true, decide_eq_true_eq] at digit
        have low : 48 ≤ c.toNat := digit.1
        have high : c.toNat ≤ 57 := digit.2
        simp only [isLineEnd, Bool.or_eq_true, Bool.and_eq_true, decide_eq_true_eq,
          beq_iff_eq] at ends
        omega
      · have signs : c = '+' ∨ c = '-' ∨ c = '.' ∨ c = 'e' := by simpa using sign
        rcases signs with rfl | rfl | rfl | rfl <;> exact absurd ends (by decide)

theorem unbroken_of_numeral (text : Text) (numeral : Number.Numeral text) : Unbroken text :=
  fun c member => not_line_end_of_numeral c (numeral c member)

/-- A fixed text is looked at as its characters. -/
theorem unbroken_fixed {chars : List Char} (plain : chars.all (fun c => !isLineEnd c) = true) :
    Unbroken (String.ofList chars).toList := by
  rw [String.toList_ofList]
  intro c member
  simpa using List.all_eq_true.mp plain c member

theorem support_console (timeout : Int) (autoExit : Bool) (added : List Text)
    (built : consoleBlock? timeout autoExit = some added) : IsSupport .console added := by
  obtain ⟨delay, shown, rfl⟩ := Option.map_eq_some_iff.mp built
  refine ⟨consoleBody delay autoExit, rfl, ?_⟩
  have delayLine : isSupportLine ("CONST AUTO_TEST_DELAY = ".toList ++ delay) = true := by
    refine support_line_of_leads "CONST AUTO_TEST_DELAY = "
      (leads_indented _ [] delay blank_nil) (by decide) (by decide) ?_
    exact (unbroken_append ..).mpr ⟨unbroken_fixed (by decide),
      unbroken_of_numeral delay (delay_numeral timeout delay shown)⟩
  intro line member
  simp only [consoleBody, List.mem_append, List.mem_singleton] at member
  rcases member with ((((member | rfl) | member) | member) | member) | member
  · exact console_opening_support line member
  · exact delayLine
  · exact pause_procedure_support line member
  · exact exit_head_support line member
  · exact exit_wait_support autoExit line member
  · exact exit_end_support line member

theorem support_resources : IsSupport .resources resourceBlock :=
  ⟨asLines resourceBody, rfl, resource_body_support⟩

theorem support_graphics (registerImages : Bool) :
    IsSupport .graphics (graphicsBlock registerImages) := by
  exact ⟨_, rfl, graphics_body_support registerImages⟩

theorem leads_stamped (word rest line : String) (stamp tail : Text)
    (split : line.toList = "    ".toList ++ (word.toList ++ rest.toList)) :
    Leads word.toList (line.toList ++ stamp ++ tail) := by
  rw [split, List.append_assoc, List.append_assoc, List.append_assoc]
  exact leads_indented _ _ _ (List.all_eq_true.mp (by decide))

/-- A block of support lines and lines that hold the time stamp behind a word that leads them. -/
def IsStamped (feature : Feature) (stamp : Text) (word : String) (added : List Text) : Prop :=
  ∃ body, added = block feature body ∧ ∀ line ∈ body, isSupportLine line = true ∨
    Leads word.toList line ∧ (Unbroken stamp → Unbroken line)

/-- A word that leads lines which are neither markers nor console directives. -/
def isPlainLead (word : String) : Bool :=
  areApart word.toList "$CONSOLE".toList && word.toList.head? != some '\''

theorem support_of_stamped {feature : Feature} {stamp : Text} {word : String} {added : List Text}
    (stamped : IsStamped feature stamp word added) (plain : isPlainLead word = true)
    (unbroken : Unbroken stamp) : IsSupport feature added := by
  obtain ⟨body, rfl, lines⟩ := stamped
  simp only [isPlainLead, Bool.and_eq_true, bne_iff_ne] at plain
  refine ⟨body, rfl, ?_⟩
  intro line member
  cases lines line member with
  | inl support => exact support
  | inr filled =>
      exact support_line_of_leads word filled.1 plain.1 plain.2 (filled.2 unbroken)

theorem stamped_logging (stamp : Text) (verbose : Bool) :
    IsStamped .logging stamp "LogFile" (loggingBlock stamp verbose) := by
  refine ⟨_, rfl, ?_⟩
  have enabled : isSupportLine
      ((if verbose then "    LogEnabled = 1" else "    LogEnabled = 0").toList) = true := by
    cases verbose <;> decide
  intro line member
  simp only [List.mem_append, List.mem_cons, List.not_mem_nil, or_false] at member
  rcases member with (member | rfl | rfl) | member
  · exact .inl (logging_start_support line member)
  · refine .inr ⟨leads_stamped "LogFile" " = \"qb64pe-logs/debug_" _ stamp _ (by decide), ?_⟩
    intro unbroken
    rw [unbroken_append, unbroken_append]
    exact ⟨⟨unbroken_fixed (by decide), unbroken⟩, unbroken_fixed (by decide)⟩
  · exact .inl enabled
  · exact .inl (logging_end_support line member)

theorem stamped_screenshots (stamp : Text) (logged : Bool) :
    IsStamped .screenshots stamp "ScreenshotBase" (screenshotBlock stamp logged) := by
  refine ⟨_, rfl, ?_⟩
  intro line member
  simp only [List.mem_append, List.mem_singleton] at member
  rcases member with (member | rfl) | member
  · exact .inl (screenshot_start_support line member)
  · refine .inr ⟨leads_stamped "ScreenshotBase" " = \"qb64pe-screenshots/debug_" _ stamp _
      (by decide), ?_⟩
    intro unbroken
    rw [unbroken_append, unbroken_append]
    exact ⟨⟨unbroken_fixed (by decide), unbroken⟩, by decide⟩
  · exact .inl (screenshot_end_support logged line member)

theorem support_logging (stamp : Text) (verbose : Bool) (unbroken : Unbroken stamp) :
    IsSupport .logging (loggingBlock stamp verbose) :=
  support_of_stamped (stamped_logging stamp verbose) (by decide) unbroken

theorem support_screenshots (stamp : Text) (logged : Bool) (unbroken : Unbroken stamp) :
    IsSupport .screenshots (screenshotBlock stamp logged) :=
  support_of_stamped (stamped_screenshots stamp logged) (by decide) unbroken

end BasicBench.Instrument
