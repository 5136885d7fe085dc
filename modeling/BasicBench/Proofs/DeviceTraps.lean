import BasicBench.Proofs.RuleWords
import BasicBench.Proofs.TailChange

/-!
Traps for events. `ON` with a device sets a trap: the light pen, a channel of the music or the user
event. The rule on devices wants the edge of a word behind all that it knows. Behind a letter that
is where the word ends. Behind the parenthesis of a channel it is where another word begins, so a
trap for music is passed over just where it is written as it should be.
-/

set_option autoImplicit false

namespace BasicBench.Check

open Text Pattern
open Instrument (takes_any_of)

/-! Traps. -/

inductive TrapDevice where
  | pen | music | userEvent
  deriving DecidableEq, Repr

/-- `PLAY` with a number between parentheses. -/
def SpellsChannel (piece : Text) : Prop :=
  ∃ word digits, piece = word ++ ('(' :: (digits ++ [')'])) ∧ SameText "PLAY".toList word ∧
    digits ≠ [] ∧ ∀ c ∈ digits, isDecimal c = true

/-- The name of a device, in any mixture of cases. -/
def TrapDevice.NamesDevice : TrapDevice → Text → Prop
  | pen => SameText "PEN".toList
  | music => SpellsChannel
  | userEvent => SameText "UEVENT".toList

/-- `ON`, blanks and a device. -/
def SetsTrap (device : TrapDevice) : Text → Prop := Spaced (SameText "ON".toList) device.NamesDevice

def switchWords : List Text := ["ON", "OFF", "STOP"].map (·.toList)

/-- A device, blanks and what becomes of its trap. -/
def SwitchesTrap (device : TrapDevice) : Text → Prop :=
  Spaced device.NamesDevice fun piece => ∃ word ∈ switchWords, SameText word piece

/-- What the rule on devices knows and what ends in a letter. -/
inductive WordUse (piece : Text) : Prop
  | sets (device : TrapDevice) (other : device ≠ .music) (trap : SetsTrap device piece)
  | switches (device : TrapDevice) (other : device ≠ .userEvent) (trap : SwitchesTrap device piece)
  | event (named : TrapDevice.userEvent.NamesDevice piece)

/-- A piece that the rule on devices sees in front of `rest`. -/
def Seen (piece rest : Text) : Prop :=
  WordUse piece ∧ rest.head?.any isWordChar = false ∨
    SetsTrap .music piece ∧ rest.head?.any isWordChar = true

/-- The line is at its end or at a blank. -/
def AtGap (rest : Text) : Prop := rest.head?.all isSpace = true

instance (rest : Text) : Decidable (AtGap rest) :=
  inferInstanceAs (Decidable (rest.head?.all isSpace = true))

/-! What the rule takes. -/

theorem recognises_channel : playChannel.Recognises SpellsChannel := by
  intro before piece rest
  simp only [playChannel, parenthesised, takes_append, takes_any_case, takes_one, takes_many1,
    beq_iff_eq, exists_eq_left]
  constructor
  · intro taken
    obtain ⟨word, _, rfl, same, _, _, rfl, ⟨_, digits, rfl, rfl, all⟩, rfl⟩ := taken
    exact ⟨word, digits, rfl, same, all⟩
  · intro spelled
    obtain ⟨word, digits, rfl, same, all⟩ := spelled
    exact ⟨word, _, rfl, same, '(' :: digits, _, rfl, ⟨['('], digits, rfl, rfl, all⟩, rfl⟩

theorem recognises_switch (index : Nat) :
    (capture index onOffStop).Recognises fun piece => ∃ word ∈ switchWords, SameText word piece := by
  intro before piece rest
  simp only [onOffStop, takes_capture, takes_or, takes_any_case, switchWords, List.map_cons,
    List.map_nil, List.mem_cons, List.not_mem_nil, or_false, exists_eq_or_imp, exists_eq_left,
    or_assoc]

theorem device_access_split : ∃ uses : Pattern, deviceAccess = wordEdge ++ uses ++ wordEdge ∧
    uses.Recognises fun piece => WordUse piece ∨ SetsTrap .music piece := by
  refine ⟨_, rfl, ?_⟩
  intro before piece rest
  have on := recognises_any_case "ON"
  have pen := recognises_any_case "PEN"
  have event := recognises_any_case "UEVENT"
  simp only [takes_capture, takes_any_of, List.mem_cons, List.not_mem_nil, or_false,
    exists_eq_or_imp, exists_eq_left, recognises_spaced on pen before piece rest,
    recognises_spaced on recognises_channel before piece rest,
    recognises_spaced on event before piece rest,
    recognises_spaced pen (recognises_switch 2) before piece rest,
    recognises_spaced recognises_channel (recognises_switch 3) before piece rest,
    takes_any_case]
  constructor
  · intro taken
    obtain trap | trap | trap | trap | trap | named := taken
    · exact .inl (.sets .pen (by decide) trap)
    · exact .inl (.switches .pen (by decide) trap)
    · exact .inr trap
    · exact .inl (.switches .music (by decide) trap)
    · exact .inl (.sets .userEvent (by decide) trap)
    · exact .inl (.event named)
  · intro known
    cases known with
    | inr trap => exact .inr (.inr (.inl trap))
    | inl use =>
        cases use with
        | event named => exact .inr (.inr (.inr (.inr (.inr named))))
        | sets device other trap =>
            cases device with
            | pen => exact .inl trap
            | music => exact absurd rfl other
            | userEvent => exact .inr (.inr (.inr (.inr (.inl trap))))
        | switches device other trap =>
            cases device with
            | pen => exact .inr (.inl trap)
            | music => exact .inr (.inr (.inr (.inl trap)))
            | userEvent => exact absurd rfl other

section Ends

variable {piece : Text}

theorem word_start_of_names {device : TrapDevice} (named : device.NamesDevice piece) :
    piece.head?.any isWordChar = true := by
  cases device with
  | pen => exact word_start_of_same_text (by decide) named
  | userEvent => exact word_start_of_same_text (by decide) named
  | music =>
      obtain ⟨word, digits, rfl, same, -⟩ := named
      have letter := word_start_of_same_text (by decide) same
      cases word with
      | nil => cases letter
      | cons c word => exact letter

theorem word_start_of_trap {device : TrapDevice} (trap : SetsTrap device piece) :
    piece.head?.any isWordChar = true :=
  word_start_of_spaced trap fun _ same => word_start_of_same_text (by decide) same

theorem word_start_of_use (use : WordUse piece) : piece.head?.any isWordChar = true := by
  cases use with
  | sets device _ trap => exact word_start_of_trap trap
  | switches device _ trap => exact word_start_of_spaced trap fun _ named => word_start_of_names named
  | event named => exact word_start_of_names named

theorem letter_behind_word {word : Text} (same : SameText word piece)
    (letter : (lastOf none word).any isWordChar = true) (before : Option Char) :
    (lastOf before piece).any isWordChar = true := by
  cases same with
  | nil => cases letter
  | @cons first c word piece form others =>
      -- the word is not empty, so what stands in front of it does not matter
      have here := same_text_last (.cons form others) none
      rw [letter, last_of_cons] at here
      rw [last_of_cons]
      exact here.symm

theorem letter_behind_use (use : WordUse piece) (before : Option Char) :
    (lastOf before piece).any isWordChar = true := by
  have devices (device : TrapDevice) (other : device ≠ .music) (tail : Text)
      (named : device.NamesDevice tail) (front : Option Char) :
      (lastOf front tail).any isWordChar = true := by
    cases device with
    | pen => exact letter_behind_word named (by decide) front
    | music => exact absurd rfl other
    | userEvent => exact letter_behind_word named (by decide) front
  cases use with
  | sets device other trap =>
      obtain ⟨front, tail, named, place⟩ := last_of_spaced trap before
      rw [place]
      exact devices device other tail named front
  | switches device other trap =>
      obtain ⟨front, tail, ⟨word, listed, same⟩, place⟩ := last_of_spaced trap before
      have letters : ∀ word ∈ switchWords, (lastOf none word).any isWordChar = true := by decide
      rw [place]
      exact letter_behind_word same (letters word listed) front
  | event named => exact devices .userEvent (by decide) piece named before

theorem parenthesis_behind_music (trap : SetsTrap .music piece) (before : Option Char) :
    lastOf before piece = some ')' := by
  obtain ⟨front, tail, ⟨word, digits, rfl, -, -⟩, place⟩ := last_of_spaced trap before
  rw [place, last_of_append, last_of_cons, last_of_append]
  rfl

end Ends

theorem takes_device_access {before : Option Char} {piece rest : Text} :
    deviceAccess.Takes before piece rest ↔
      before.any isWordChar = false ∧ Seen piece rest := by
  obtain ⟨uses, split, known⟩ := device_access_split
  have starts : ∀ before piece rest, uses.Takes before piece rest →
      piece.head?.any isWordChar = true := by
    intro before piece rest taken
    cases (known ..).mp taken with
    | inl use => exact word_start_of_use use
    | inr trap => exact word_start_of_trap trap
  rw [split, takes_then_edge, takes_edge_word uses starts, known, and_assoc, Seen]
  apply and_congr_right
  intro _
  -- the edge asks for the other kind of neighbour: none behind a letter, one behind a parenthesis
  rw [or_and_right]
  apply or_congr
  · apply and_congr_right
    intro use
    rw [letter_behind_use use]
    cases rest.head?.any isWordChar <;> decide
  · apply and_congr_right
    intro trap
    rw [parenthesis_behind_music trap]
    cases rest.head?.any isWordChar <;> decide

/-! The reports. -/

theorem ruled_by_device_access : RuledBy "device_access" deviceAccess := by
  simp [RuledBy, dialectRules]

theorem not_word_at_gap {rest : Text} (gap : AtGap rest) : rest.head?.any isWordChar = false := by
  cases rest with
  | nil => rfl
  | cons c rest => exact not_word_char_of_space c gap

theorem not_use_of_music {piece : Text} (trap : SetsTrap .music piece) : ¬WordUse piece := by
  intro use
  have letter := letter_behind_use use none
  rw [parenthesis_behind_music trap] at letter
  exact absurd letter (by decide)

/-- In front of a gap a trap is seen exactly if it is no trap for music. -/
theorem seen_at_gap_iff {device : TrapDevice} {piece rest : Text} (trap : SetsTrap device piece)
    (gap : AtGap rest) : Seen piece rest ↔ device ≠ .music := by
  have apart := not_word_at_gap gap
  constructor
  · intro seen music
    subst music
    cases seen with
    | inl known => exact not_use_of_music trap known.1
    | inr joined => exact absurd (apart.symm.trans joined.2) (by decide)
  · intro other
    exact .inl ⟨.sets device other trap, apart⟩

/-- A line of code is reported for a device exactly when the rule sees a piece of it that no word
character stands in front of. A trap that ends at a gap is such a piece if it is for the pen or for
the user event. A trap for music is none, so that its line is only reported for something else. -/
theorem trap_reports_iff (source : Text) (line : SourceLine)
    (member : line ∈ SourceLine.ofText source) (code : line.isCode = true) :
    (ReportsError "device_access" (SourceLine.ofText source) line ↔
      ∃ above piece rest, StandsAt line above piece rest ∧ Seen piece rest) ∧
    ∀ device above piece rest, StandsAt line above piece rest → SetsTrap device piece →
      AtGap rest →
        (Seen piece rest ↔ device ≠ .music) ∧
        (device ≠ .music → ReportsError "device_access" (SourceLine.ofText source) line) := by
  have reports := reports_standing_iff member code ruled_by_device_access (by decide)
    fun _ _ _ => takes_device_access
  constructor
  · exact reports
  · intro device above piece rest stands trap gap
    have seen := seen_at_gap_iff trap gap
    constructor
    · exact seen
    · intro other
      exact reports.mpr ⟨above, piece, rest, stands, seen.mpr other⟩

theorem blank_gap : [' '] ≠ [] ∧ ∀ c ∈ [' '], isSpace c = true :=
  ⟨List.cons_ne_nil ' ' [], List.forall_mem_singleton.mpr (by decide)⟩

theorem music_trap : SetsTrap .music "ON PLAY(3)".toList := by
  have channel : SpellsChannel "PLAY(3)".toList :=
    ⟨"PLAY".toList, ['3'], by decide, by decide, List.cons_ne_nil '3' [],
      List.forall_mem_singleton.mpr (by decide)⟩
  exact ⟨"ON".toList, [' '], "PLAY(3)".toList, by decide, by decide, blank_gap, channel⟩

def lightThenTune : Text := "IF t THEN on Pen GOSUB Light: ON PLAY(3) GOSUB Tune".toList

/-- The line is reported for the trap for the pen, and not for the trap for music behind it. -/
theorem light_trap_reported : ∃ line ∈ SourceLine.ofText lightThenTune, line.isCode = true ∧
    ReportsError "device_access" (SourceLine.ofText lightThenTune) line ∧
      ∃ above piece rest, StandsAt line above piece rest ∧ SetsTrap .music piece ∧ AtGap rest ∧
        ¬Seen piece rest := by
  have member : (⟨1, lightThenTune⟩ : SourceLine) ∈ SourceLine.ofText lightThenTune :=
    List.mem_singleton.mpr rfl
  have code : (⟨1, lightThenTune⟩ : SourceLine).isCode = true := by decide +kernel
  have light : StandsAt ⟨1, lightThenTune⟩ "IF t THEN ".toList "on Pen".toList
      " GOSUB Light: ON PLAY(3) GOSUB Tune".toList := ⟨by decide +kernel, by decide +kernel⟩
  have lightTrap : SetsTrap .pen "on Pen".toList :=
    ⟨"on".toList, [' '], "Pen".toList, by decide, by decide, blank_gap,
      show SameText "PEN".toList "Pen".toList by decide⟩
  have tune : StandsAt ⟨1, lightThenTune⟩ "IF t THEN on Pen GOSUB Light: ".toList
      "ON PLAY(3)".toList " GOSUB Tune".toList := ⟨by decide +kernel, by decide +kernel⟩
  obtain ⟨-, traps⟩ := trap_reports_iff lightThenTune _ member code
  have reported := (traps .pen _ _ _ light lightTrap (by decide)).2 (by decide)
  have passed := (traps .music _ _ _ tune music_trap (by decide)).1
  refine ⟨_, member, code, reported, _, _, _, tune, music_trap, by decide, ?_⟩
  intro seen
  exact passed.mp seen rfl

def tuneAlone : Text := "ON PLAY(3) GOSUB Tune".toList

/-- A trap for music with a space behind it is not reported. -/
theorem tune_trap_missed : ∃ line ∈ SourceLine.ofText tuneAlone, line.isCode = true ∧
    (∃ above piece rest, StandsAt line above piece rest ∧ SetsTrap .music piece ∧
      rest.head? = some ' ') ∧
    ¬ReportsError "device_access" (SourceLine.ofText tuneAlone) line := by
  have member : (⟨1, tuneAlone⟩ : SourceLine) ∈ SourceLine.ofText tuneAlone :=
    List.mem_singleton.mpr rfl
  have tune : StandsAt ⟨1, tuneAlone⟩ [] "ON PLAY(3)".toList " GOSUB Tune".toList :=
    ⟨by decide, rfl⟩
  have missed : ¬ReportsError "device_access" (SourceLine.ofText tuneAlone) ⟨1, tuneAlone⟩ := by
    unfold ReportsError
    decide +kernel
  exact ⟨_, member, by decide +kernel, ⟨_, _, _, tune, music_trap, rfl⟩, missed⟩

end BasicBench.Check
