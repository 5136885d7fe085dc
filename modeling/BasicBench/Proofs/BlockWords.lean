import BasicBench.Proofs.Leading
import BasicBench.Proofs.Soundness

/-!
The statements that open and close blocks, in words. Ten statements do, each with a word of its own
in front and a rule on what may follow the word. No statement is two of them, so the order in which
they are tried makes no difference.
-/

set_option autoImplicit false

namespace BasicBench

open Text Pattern

namespace Text.Pattern

/-! What a pattern asks of the text behind a place. -/

/-- The pattern takes some piece off the front of a text. -/
def TakesFront (pattern : Pattern) (before : Option Char) (text : Text) : Prop :=
  ∃ piece rest, text = piece ++ rest ∧ pattern.Takes before piece rest

/-- The text begins with the word in some mixture of cases, and what follows is of a kind. -/
def WordThen (word : String) (follows : Text → Prop) (text : Text) : Prop :=
  ∃ form rest, text = form ++ rest ∧ SameText word.toList form ∧ follows rest

/-- The text begins with blanks, and what follows some of them is of a kind. -/
def BlanksThen (follows : Text → Prop) (text : Text) : Prop :=
  ∃ gap rest, text = gap ++ rest ∧ gap ≠ [] ∧ Blank gap ∧ follows rest

/-- The text does not go on with the word in front of it. -/
def EndsWord (text : Text) : Prop := text.head?.any isWordChar = false

/-- A word that ends in a letter, a digit or an underscore. -/
def isClosedWord (word : String) : Bool := word.toList.getLast?.any isWordChar

theorem last_of_closed {word : String} (closed : isClosedWord word = true)
    (before : Option Char) : (lastOf before word.toList).any isWordChar = true := by
  obtain ⟨c, last, isWord⟩ := (Option.any_eq_true ..).mp closed
  rw [lastOf, last]
  exact isWord

section TakesFront

variable {before : Option Char} {text : Text}

theorem takes_front_append (first second : Pattern) :
    (first ++ second).TakesFront before text ↔ ∃ piece rest, text = piece ++ rest ∧
      first.Takes before piece rest ∧ second.TakesFront (lastOf before piece) rest := by
  constructor
  · rintro ⟨_, rest, rfl, taken⟩
    obtain ⟨left, right, rfl, early, late⟩ := (takes_append ..).mp taken
    exact ⟨left, right ++ rest, List.append_assoc .., early, right, rest, rfl, late⟩
  · rintro ⟨left, _, rfl, early, right, rest, rfl, late⟩
    exact ⟨left ++ right, rest, (List.append_assoc ..).symm,
      (takes_append ..).mpr ⟨left, right, rfl, early, late⟩⟩

theorem takes_front_assoc (first second third : Pattern) :
    (first ++ second ++ third).TakesFront before text ↔
      (first ++ (second ++ third)).TakesFront before text := by
  simp only [TakesFront, takes_assoc]

/-- What may be repeated at the end need not be there. -/
theorem takes_front_many (inner : Pattern) (accepts : Char → Bool) :
    (inner ++ many accepts).TakesFront before text ↔ inner.TakesFront before text := by
  rw [takes_front_append]
  constructor
  · rintro ⟨piece, rest, split, taken, -⟩
    exact ⟨piece, rest, split, taken⟩
  · rintro ⟨piece, rest, split, taken⟩
    exact ⟨piece, rest, split, taken, [], rest, rfl, (takes_many ..).mpr (by simp)⟩

theorem takes_front_capture (index : Nat) (inner : Pattern) :
    (capture index inner).TakesFront before text ↔ inner.TakesFront before text := by
  simp only [TakesFront, takes_capture]

theorem takes_front_one (accepts : Char → Bool) :
    (one accepts).TakesFront before text ↔ text.head?.any accepts = true := by
  simp only [TakesFront, takes_one]
  constructor
  · rintro ⟨_, rest, rfl, c, accepted, rfl⟩
    exact accepted
  · intro accepted
    cases text with
    | nil => cases accepted
    | cons c rest => exact ⟨[c], rest, rfl, c, accepted, rfl⟩

theorem takes_front_word_edge (inWord : before.any isWordChar = true) :
    wordEdge.TakesFront before text ↔ EndsWord text := by
  simp only [TakesFront, takes_word_edge, inWord]
  constructor
  · rintro ⟨_, rest, rfl, rfl, edge⟩
    exact Bool.eq_false_iff.mpr edge.symm
  · intro ends
    exact ⟨[], text, rfl, rfl, by rw [show text.head?.any isWordChar = false from ends]; decide⟩

theorem takes_front_blanks {next : Pattern} {follows : Text → Prop}
    (reads : ∀ before rest, next.TakesFront before rest ↔ follows rest) :
    (blanks1 ++ next).TakesFront before text ↔ BlanksThen follows text := by
  simp only [takes_front_append, takes_blanks1, reads, BlanksThen, Blank, and_assoc]

/-- A keyword, and a pattern behind it that may look back at the end of the keyword. -/
theorem takes_front_word {word : String} {next : Pattern} {follows : Text → Prop}
    (closed : isClosedWord word = true)
    (reads : ∀ before rest, before.any isWordChar = true →
      (next.TakesFront before rest ↔ follows rest)) :
    (anyCase word ++ next).TakesFront before text ↔ WordThen word follows text := by
  simp only [takes_front_append, takes_any_case, WordThen]
  refine exists_congr fun form => exists_congr fun rest => and_congr_right fun _ =>
    and_congr_right fun same => reads _ rest ?_
  rw [← same_text_last same]
  exact last_of_closed closed before

/-- A keyword that nothing goes on with. -/
theorem takes_front_keyword {word : String} (closed : isClosedWord word = true) :
    (anyCase word ++ wordEdge).TakesFront before text ↔ WordThen word EndsWord text :=
  takes_front_word closed fun _ _ inWord => takes_front_word_edge inWord

end TakesFront

theorem opens_of_word_then {word : String} {follows : Text → Prop} {text : Text}
    (told : WordThen word follows text) : Opens word.toList text := by
  obtain ⟨form, rest, split, same, -⟩ := told
  exact ⟨form, rest, split, same⟩

section Behind

variable {first second : Text → Prop} {text : Text}

/-- Behind one word there is one text. -/
theorem behind_word {word : String} (left : WordThen word first text)
    (right : WordThen word second text) : ∃ rest, first rest ∧ second rest := by
  obtain ⟨form, rest, rfl, same, kind⟩ := left
  obtain ⟨other, more, split, otherSame, otherKind⟩ := right
  obtain ⟨-, rfl⟩ := List.append_inj split (same.length_eq.symm.trans otherSame.length_eq)
  exact ⟨_, kind, otherKind⟩

/-- Blanks end in one place when no blank can follow them. -/
theorem behind_blanks
    (firstSolid : ∀ rest, first rest → ∃ c more, rest = c :: more ∧ isSpace c = false)
    (secondSolid : ∀ rest, second rest → ∃ c more, rest = c :: more ∧ isSpace c = false)
    (left : BlanksThen first text) (right : BlanksThen second text) :
    ∃ rest, first rest ∧ second rest := by
  obtain ⟨gap, rest, rfl, -, blank, kind⟩ := left
  obtain ⟨other, more, split, -, otherBlank, otherKind⟩ := right
  obtain ⟨c, tail, rfl, solid⟩ := firstSolid rest kind
  obtain ⟨d, otherTail, rfl, otherSolid⟩ := secondSolid more otherKind
  obtain ⟨-, same⟩ := blank_prefix_unique _ _ _ _ c d blank otherBlank solid otherSolid split
  exact ⟨_, kind, same ▸ otherKind⟩

end Behind

end Text.Pattern

namespace Check

/-! The statements of blocks. -/

/-- The name of a procedure begins with a letter or an underscore. -/
def BeginsName (text : Text) : Prop := text.head?.any BlockEvent.isNameStart = true

/-- What the statement of each bracket says. -/
def Tells : Bracket BlockKind → Text → Prop
  | .opens .forLoop => WordThen "FOR" fun rest => rest.head?.any isSpace = true
  | .opens .whileLoop => WordThen "WHILE" EndsWord
  | .opens .doLoop => WordThen "DO" EndsWord
  | .opens .procedure => WordThen "SUB" (BlanksThen BeginsName)
  | .opens .function => WordThen "FUNCTION" (BlanksThen BeginsName)
  | .closes .forLoop => WordThen "NEXT" EndsWord
  | .closes .whileLoop => WordThen "WEND" EndsWord
  | .closes .doLoop => WordThen "LOOP" EndsWord
  | .closes .procedure => WordThen "END" (BlanksThen (WordThen "SUB" EndsWord))
  | .closes .function => WordThen "END" (BlanksThen (WordThen "FUNCTION" EndsWord))

/-- Every bracket with the statement that stands for it. -/
def bracketForms : List (Bracket BlockKind × Pattern) :=
  BlockEvent.openers.map (fun form => (.opens form.1, form.2)) ++
    BlockEvent.closers.map fun form => (.closes form.1, form.2)

theorem takes_front_procedure {before : Option Char} {text : Text} {word : String}
    (closed : isClosedWord word = true) {name : Pattern}
    (named : ∀ before rest, name.TakesFront before rest ↔ BeginsName rest) :
    (anyCase word ++ blanks1 ++ capture 1 name).TakesFront before text ↔
      WordThen word (BlanksThen BeginsName) text := by
  rw [takes_front_assoc]
  refine takes_front_word closed fun _ _ _ => takes_front_blanks fun before rest => ?_
  rw [takes_front_capture, named]

theorem takes_front_end {before : Option Char} {text : Text} {word : String}
    (closed : isClosedWord word = true) :
    (anyCase "END" ++ blanks1 ++ anyCase word ++ wordEdge).TakesFront before text ↔
      WordThen "END" (BlanksThen (WordThen word EndsWord)) text := by
  rw [takes_front_assoc, takes_front_assoc]
  exact takes_front_word (by decide) fun _ _ _ =>
    takes_front_blanks fun _ _ => takes_front_keyword closed

/-- Each form matches the statements of its bracket. -/
theorem form_tells (statement : Text) : ∀ form ∈ bracketForms,
    (form.2.startsText statement = true ↔ Tells form.1 statement) := by
  have name (before : Option Char) (rest : Text) :
      BlockEvent.procedureName.TakesFront before rest ↔ BeginsName rest := by
    rw [BlockEvent.procedureName, takes_front_many, takes_front_one, BeginsName]
  simp only [starts_text_iff, ← TakesFront.eq_def, bracketForms, BlockEvent.openers,
    BlockEvent.closers, List.map_cons, List.map_nil, List.cons_append, List.nil_append,
    List.forall_mem_cons]
  refine ⟨?_, ?_, ?_, ?_, ?_, ?_, ?_, ?_, ?_, ?_, fun _ member => absurd member List.not_mem_nil⟩
  · exact takes_front_word (by decide) fun _ _ _ => takes_front_one isSpace
  · exact takes_front_keyword (by decide)
  · exact takes_front_keyword (by decide)
  · exact takes_front_procedure (by decide) name
  · exact takes_front_procedure (by decide) fun before rest =>
      (takes_front_many ..).trans (name before rest)
  · exact takes_front_keyword (by decide)
  · exact takes_front_keyword (by decide)
  · exact takes_front_keyword (by decide)
  · exact takes_front_end (by decide)
  · exact takes_front_end (by decide)

theorem form_listed (bracket : Bracket BlockKind) :
    ∃ form ∈ bracketForms, form.1 = bracket := by
  cases bracket with
  | opens kind => cases kind <;> exact List.mem_map.mp (by decide)
  | closes kind => cases kind <;> exact List.mem_map.mp (by decide)

/-! No statement stands for two brackets. -/

/-- The first word of the statement that stands for a bracket. -/
def leadingWord : Bracket BlockKind → String
  | .opens kind => kind.opener
  | .closes kind => if kind.isLoop then kind.closer else "END"

theorem opens_of_tells {bracket : Bracket BlockKind} {statement : Text}
    (told : Tells bracket statement) : Opens (leadingWord bracket).toList statement := by
  cases bracket with
  | opens kind => cases kind <;> exact opens_of_word_then told
  | closes kind => cases kind <;> exact opens_of_word_then told

/-- Only the two ends of procedures share their first word. -/
theorem leading_words_apart (bracket other : Bracket BlockKind)
    (agree : compatible (leadingWord bracket).toList (leadingWord other).toList = true) :
    bracket = other ∨ leadingWord bracket = "END" ∧ leadingWord other = "END" := by
  revert agree
  rcases bracket with kind | kind <;> rcases other with otherKind | otherKind <;>
    cases kind <;> cases otherKind <;> decide

theorem end_of_procedure {bracket : Bracket BlockKind} (ends : leadingWord bracket = "END") :
    bracket = .closes .procedure ∨ bracket = .closes .function := by
  revert ends
  cases bracket with
  | opens kind => cases kind <;> decide
  | closes kind => cases kind <;> decide

/-- What an end ends is told by its second word. -/
theorem ends_apart {statement : Text} (procedure : Tells (.closes .procedure) statement)
    (function : Tells (.closes .function) statement) : False := by
  have solid {word : String} (headed : isHeaded word.toList = true) (rest : Text)
      (told : WordThen word EndsWord rest) : ∃ c more, rest = c :: more ∧ isSpace c = false :=
    opens_headed _ rest headed (opens_of_word_then told)
  obtain ⟨rest, left, right⟩ := behind_word procedure function
  obtain ⟨rest, left, right⟩ := behind_blanks (solid (by decide)) (solid (by decide)) left right
  have agree := opens_compatible (opens_of_word_then left) (opens_of_word_then right)
  exact absurd agree (by decide)

theorem tells_unique {bracket other : Bracket BlockKind} {statement : Text}
    (told : Tells bracket statement) (otherTold : Tells other statement) : bracket = other := by
  have agree := opens_compatible (opens_of_tells told) (opens_of_tells otherTold)
  rcases leading_words_apart bracket other agree with same | ⟨ends, otherEnds⟩
  · exact same
  · rcases end_of_procedure ends with rfl | rfl <;> rcases end_of_procedure otherEnds with rfl | rfl
    · rfl
    · exact (ends_apart told otherTold).elim
    · exact (ends_apart otherTold told).elim
    · rfl

/-! The bracket of a statement. -/

theorem opened_bracket (statement : Text) (forms : List (BlockKind × Pattern)) :
    (forms.findSome? fun form => (form.2.atStart? statement).map fun found =>
        BlockEvent.opens form.1 (found.group? 1)).map (·.bracket) =
      (forms.find? fun form => form.2.startsText statement).map fun form => .opens form.1 := by
  induction forms with
  | nil => rfl
  | cons form forms induction =>
      rw [List.findSome?_cons, List.find?_cons]
      cases matched : form.2.atStart? statement with
      | none => simpa [startsText, matched] using induction
      | some found => simp [startsText, matched, BlockEvent.bracket]

theorem of_statement_eq (statement : Text) :
    BlockEvent.ofStatement? statement =
      (BlockEvent.openers.findSome? fun form => (form.2.atStart? statement).map fun found =>
        BlockEvent.opens form.1 (found.group? 1)).or
      ((BlockEvent.closers.find? fun form => form.2.startsText statement).map
        fun form => .closes form.1) := by
  rw [BlockEvent.ofStatement?]
  cases BlockEvent.openers.findSome? fun form => (form.2.atStart? statement).map fun found =>
    BlockEvent.opens form.1 (found.group? 1) <;> rfl

/-- The name of what is opened is not looked at. -/
theorem bracket_of_statement (statement : Text) :
    (BlockEvent.ofStatement? statement).map (·.bracket) =
      (bracketForms.find? fun form => form.2.startsText statement).map (·.1) := by
  rw [of_statement_eq, Option.map_or, opened_bracket, bracketForms, List.find?_append,
    List.find?_map, List.find?_map, Option.map_or, Option.map_map, Option.map_map, Option.map_map]
  rfl

/-- A statement stands for a bracket exactly when it says so. -/
theorem bracket_of_statement_iff {statement : Text} {bracket : Bracket BlockKind} :
    (BlockEvent.ofStatement? statement).map (·.bracket) = some bracket ↔
      Tells bracket statement := by
  rw [bracket_of_statement]
  constructor
  · intro found
    obtain ⟨form, first, rfl⟩ := Option.map_eq_some_iff.mp found
    have listed := List.mem_of_find?_eq_some first
    have starts := List.find?_some first
    exact (form_tells statement form listed).mp starts
  · intro told
    obtain ⟨form, listed, rfl⟩ := form_listed bracket
    have starts := (form_tells statement form listed).mpr told
    obtain ⟨other, first⟩ : ∃ other,
        bracketForms.find? (fun form => form.2.startsText statement) = some other := by
      rw [← Option.isSome_iff_exists, List.find?_isSome]
      exact ⟨form, listed, starts⟩
    have otherStarts := List.find?_some first
    have otherTold := (form_tells statement other (List.mem_of_find?_eq_some first)).mp otherStarts
    rw [first, Option.map_some, tells_unique otherTold told]

/-- Of the lines of a program, those of code open and close blocks, as their statements say. -/
theorem block_event_iff {line : SourceLine} {bracket : Bracket BlockKind} :
    (blockEvent? line).map (·.bracket) = some bracket ↔
      line.isCode = true ∧ Tells bracket line.statement := by
  rw [blockEvent?]
  split
  next code => simp only [bracket_of_statement_iff, code, true_and]
  next idle => simp [idle]

theorem bracket_iff {text : Text} {bracket : Bracket BlockKind} :
    bracket? text = some bracket ↔
      isCodeText text = true ∧ Tells bracket (SourceLine.dropLabel (trim text)) :=
  block_event_iff

theorem bracket_eq (text : Text) :
    bracket? text = if isCodeText text then
      (bracketForms.find? fun form => form.2.startsText (SourceLine.dropLabel (trim text))).map (·.1)
      else none := by
  rw [bracket?, blockEvent?, isCodeText]
  split
  · exact bracket_of_statement _
  · rfl

end Check
end BasicBench
