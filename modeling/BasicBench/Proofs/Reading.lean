import BasicBench.Text.Pattern
import Mathlib.Data.List.Forall2

/-!
What a pattern reads, apart from the order in which it tries things. `Reads` relates the piece
that a pattern takes to the character before the piece, the text after it and what is captured
on the way. The stops of a pattern are exactly the ends of the pieces it reads, so a question
about whether a pattern matches never needs the search itself.
-/

set_option autoImplicit false

namespace BasicBench.Text

/-- The character before the place that is reached by reading a piece. -/
def lastOf (before : Option Char) (piece : Text) : Option Char := piece.getLast?.or before

@[simp] theorem last_of_nil (before : Option Char) : lastOf before [] = before := rfl

@[simp] theorem last_of_cons (before : Option Char) (c : Char) (piece : Text) :
    lastOf before (c :: piece) = lastOf (some c) piece := by
  cases piece with
  | nil => rfl
  | cons next rest => simp [lastOf, List.getLast?_cons]

@[simp] theorem last_of_append (before : Option Char) (left right : Text) :
    lastOf before (left ++ right) = lastOf (lastOf before left) right := by
  induction left generalizing before with
  | nil => rfl
  | cons c left induction => simp [induction]

theorem last_of_mem (before : Option Char) (piece : Text) (nonempty : piece ≠ []) :
    ∃ c ∈ piece, lastOf before piece = some c := by
  refine ⟨piece.getLast nonempty, List.getLast_mem nonempty, ?_⟩
  simp [lastOf, List.getLast?_eq_some_getLast nonempty]

namespace Pattern

/-- The pattern takes `piece` when `before` is the character before it and `rest` follows; the
captures made inside it are `found`, the latest first. -/
def Reads : Pattern → Option Char → Text → Text → List (Nat × Text) → Prop
  | here, _, piece, _, found => piece = [] ∧ found = []
  | one accepts, _, piece, _, found => (∃ c, accepts c = true ∧ piece = [c]) ∧ found = []
  | many accepts, _, piece, _, found => (∀ c ∈ piece, accepts c = true) ∧ found = []
  | few accepts, _, piece, _, found => (∀ c ∈ piece, accepts c = true) ∧ found = []
  | chain first second, before, piece, rest, found =>
      ∃ left right early late, piece = left ++ right ∧ found = late ++ early ∧
        Reads first before left (right ++ rest) early ∧
        Reads second (lastOf before left) right rest late
  | either first second, before, piece, rest, found =>
      Reads first before piece rest found ∨ Reads second before piece rest found
  | capture index inner, before, piece, rest, found =>
      ∃ inside, found = (index, piece) :: inside ∧ Reads inner before piece rest inside
  | wordEdge, before, piece, rest, found =>
      piece = [] ∧ found = [] ∧ before.any isWordChar ≠ rest.head?.any isWordChar
  | textStart, before, piece, _, found => piece = [] ∧ found = [] ∧ before = none
  | lineStart, before, piece, _, found =>
      piece = [] ∧ found = [] ∧ before.all (· == '\n') = true
  | textEnd, _, piece, rest, found => piece = [] ∧ found = [] ∧ (rest = [] ∨ rest = ['\n'])
  | notAfter rejects, before, piece, _, found =>
      piece = [] ∧ found = [] ∧ before.any rejects = false
  | ahead inner, before, piece, rest, found =>
      piece = [] ∧ found = [] ∧
        ∃ seen beyond captured, rest = seen ++ beyond ∧ Reads inner before seen beyond captured
  | notAhead inner, before, piece, rest, found =>
      piece = [] ∧ found = [] ∧
        ¬ ∃ seen beyond captured, rest = seen ++ beyond ∧ Reads inner before seen beyond captured

attribute [local simp] Reads

theorem mem_many_ends (accepts : Char → Bool) (groups : List (Nat × Text))
    (before : Option Char) (text : Text) (stop : Spot) :
    stop ∈ manyEnds accepts groups before text ↔
      ∃ piece rest, text = piece ++ rest ∧ (∀ c ∈ piece, accepts c = true) ∧
        stop = ⟨lastOf before piece, rest, groups⟩ := by
  induction text generalizing before with
  | nil =>
      constructor
      · intro member
        refine ⟨[], [], rfl, by simp, ?_⟩
        simpa [manyEnds] using member
      · rintro ⟨piece, rest, split, -, rfl⟩
        obtain ⟨rfl, rfl⟩ := List.append_eq_nil_iff.mp split.symm
        simp [manyEnds]
  | cons c text induction =>
      have stays : stop = ⟨before, c :: text, groups⟩ →
          ∃ piece rest, c :: text = piece ++ rest ∧ (∀ c ∈ piece, accepts c = true) ∧
            stop = ⟨lastOf before piece, rest, groups⟩ :=
        fun same => ⟨[], c :: text, rfl, by simp, same⟩
      by_cases accepted : accepts c = true
      · simp only [manyEnds, accepted, if_true, List.mem_append, induction, List.mem_singleton]
        constructor
        · rintro (⟨piece, rest, rfl, all, rfl⟩ | same)
          · exact ⟨c :: piece, rest, rfl, by simpa [accepted] using all, by simp⟩
          · exact stays same
        · rintro ⟨piece, rest, split, all, rfl⟩
          cases piece with
          | nil => exact .inr (by simp_all)
          | cons d piece =>
              obtain ⟨rfl, rfl⟩ := List.cons.inj split
              exact .inl ⟨piece, rest, rfl, fun c member => all c (by simp [member]), by simp⟩
      · simp only [manyEnds, accepted, Bool.false_eq_true, if_false, List.mem_singleton]
        constructor
        · exact stays
        · rintro ⟨piece, rest, split, all, rfl⟩
          cases piece with
          | nil => simp_all
          | cons d piece =>
              obtain ⟨rfl, rfl⟩ := List.cons.inj split
              exact absurd (all c (by simp)) accepted

/-- Preferring fewer characters changes the order of the stops and not the stops. -/
theorem mem_few_ends (accepts : Char → Bool) (groups : List (Nat × Text))
    (before : Option Char) (text : Text) (stop : Spot) :
    stop ∈ fewEnds accepts groups before text ↔ stop ∈ manyEnds accepts groups before text := by
  induction text generalizing before with
  | nil => simp [fewEnds, manyEnds]
  | cons c text induction =>
      by_cases accepted : accepts c = true <;>
        simp [fewEnds, manyEnds, accepted, induction, or_comm]

/-- A pattern that takes nothing stops where it starts or not at all. -/
theorem zero_width_stops (condition : Text → Prop) (before : Option Char) (text : Text)
    (groups : List (Nat × Text)) (stop : Spot) :
    (∃ piece rest found, text = piece ++ rest ∧
        (piece = [] ∧ found = [] ∧ condition rest) ∧
        stop = ⟨lastOf before piece, rest, found ++ groups⟩) ↔
      condition text ∧ stop = ⟨before, text, groups⟩ := by
  constructor
  · rintro ⟨_, rest, _, rfl, ⟨rfl, rfl, holds⟩, rfl⟩
    exact ⟨holds, rfl⟩
  · rintro ⟨holds, rfl⟩
    exact ⟨[], text, [], rfl, ⟨rfl, rfl, holds⟩, rfl⟩

theorem mem_if_singleton (condition : Prop) [Decidable condition] (spot stop : Spot) :
    stop ∈ (if condition then [spot] else []) ↔ condition ∧ stop = spot := by
  by_cases holds : condition <;> simp [holds]

theorem mem_if_else_singleton (condition : Prop) [Decidable condition] (spot stop : Spot) :
    stop ∈ (if condition then [] else [spot]) ↔ ¬condition ∧ stop = spot := by
  by_cases holds : condition <;> simp [holds]

theorem at_text_end_iff (spot : Spot) :
    spot.atTextEnd = true ↔ spot.rest = [] ∨ spot.rest = ['\n'] := by
  unfold Spot.atTextEnd
  split <;> simp_all

theorem no_stop_iff (pattern : Pattern) (before : Option Char) (text : Text)
    (groups : List (Nat × Text))
    (stops : ∀ stop, stop ∈ pattern.ends ⟨before, text, groups⟩ ↔
      ∃ piece rest found, text = piece ++ rest ∧ pattern.Reads before piece rest found ∧
        stop = ⟨lastOf before piece, rest, found ++ groups⟩) :
    (pattern.ends ⟨before, text, groups⟩).isEmpty = true ↔
      ¬∃ piece rest found, text = piece ++ rest ∧ pattern.Reads before piece rest found := by
  rw [List.isEmpty_iff, List.eq_nil_iff_forall_not_mem]
  constructor
  · rintro none ⟨piece, rest, found, split, reads⟩
    exact none _ ((stops _).mpr ⟨piece, rest, found, split, reads, rfl⟩)
  · intro none stop reached
    obtain ⟨piece, rest, found, split, reads, -⟩ := (stops stop).mp reached
    exact none ⟨piece, rest, found, split, reads⟩

/-- The stops of a pattern are the ends of the pieces that it reads. -/
theorem mem_ends (pattern : Pattern) (before : Option Char) (text : Text)
    (groups : List (Nat × Text)) (stop : Spot) :
    stop ∈ pattern.ends ⟨before, text, groups⟩ ↔
      ∃ piece rest found, text = piece ++ rest ∧ pattern.Reads before piece rest found ∧
        stop = ⟨lastOf before piece, rest, found ++ groups⟩ := by
  induction pattern generalizing before text groups stop with
  | here =>
      have width := zero_width_stops (fun _ => True) before text groups stop
      simp only [and_true, true_and] at width
      simp only [ends, Reads, List.mem_singleton, width]
  | one accepts =>
      simp only [Reads]
      constructor
      · intro reached
        cases text with
        | nil => simp [ends] at reached
        | cons c text =>
            simp only [ends, mem_if_singleton] at reached
            exact ⟨[c], text, [], rfl, ⟨⟨c, reached.1, rfl⟩, rfl⟩, reached.2⟩
      · rintro ⟨_, rest, _, rfl, ⟨⟨c, accepted, rfl⟩, rfl⟩, rfl⟩
        simp [ends, accepted]
  | many accepts =>
      simp only [ends, mem_many_ends, Reads]
      constructor
      · rintro ⟨piece, rest, split, all, same⟩
        exact ⟨piece, rest, [], split, ⟨all, rfl⟩, same⟩
      · rintro ⟨piece, rest, _, split, ⟨all, rfl⟩, same⟩
        exact ⟨piece, rest, split, all, same⟩
  | few accepts =>
      simp only [ends, mem_few_ends, mem_many_ends, Reads]
      constructor
      · rintro ⟨piece, rest, split, all, same⟩
        exact ⟨piece, rest, [], split, ⟨all, rfl⟩, same⟩
      · rintro ⟨piece, rest, _, split, ⟨all, rfl⟩, same⟩
        exact ⟨piece, rest, split, all, same⟩
  | chain first second firstStep secondStep =>
      simp only [ends, List.mem_flatMap, Reads]
      constructor
      · rintro ⟨middle, reached, onward⟩
        obtain ⟨left, between, early, rfl, reads, rfl⟩ := (firstStep ..).mp reached
        obtain ⟨right, rest, late, rfl, readsOn, rfl⟩ := (secondStep ..).mp onward
        exact ⟨left ++ right, rest, late ++ early, by simp,
          ⟨left, right, early, late, rfl, rfl, reads, readsOn⟩, by simp⟩
      · rintro ⟨_, rest, _, rfl, ⟨left, right, early, late, rfl, rfl, reads, readsOn⟩, rfl⟩
        refine ⟨⟨lastOf before left, right ++ rest, early ++ groups⟩,
          (firstStep ..).mpr ⟨left, right ++ rest, early, by simp, reads, rfl⟩,
          (secondStep ..).mpr ⟨right, rest, late, rfl, readsOn, by simp⟩⟩
  | either first second firstStep secondStep =>
      simp only [ends, List.mem_append, firstStep, secondStep, Reads]
      constructor
      · rintro (⟨piece, rest, found, split, reads, same⟩ | ⟨piece, rest, found, split, reads, same⟩)
        · exact ⟨piece, rest, found, split, .inl reads, same⟩
        · exact ⟨piece, rest, found, split, .inr reads, same⟩
      · rintro ⟨piece, rest, found, split, reads | reads, same⟩
        · exact .inl ⟨piece, rest, found, split, reads, same⟩
        · exact .inr ⟨piece, rest, found, split, reads, same⟩
  | capture index inner step =>
      simp only [ends, List.mem_map, step, Reads]
      constructor
      · rintro ⟨_, ⟨piece, rest, found, rfl, reads, rfl⟩, rfl⟩
        exact ⟨piece, rest, (index, piece) :: found, rfl, ⟨found, rfl, reads⟩,
          by simp [Spot.capture, Spot.between]⟩
      · rintro ⟨piece, rest, _, rfl, ⟨found, rfl, reads⟩, rfl⟩
        exact ⟨_, ⟨piece, rest, found, rfl, reads, rfl⟩, by simp [Spot.capture, Spot.between]⟩
  | wordEdge =>
      simp only [ends, Reads, zero_width_stops, mem_if_singleton, Spot.atWordEdge, bne_iff_ne]
  | textStart =>
      simp only [ends, Reads, zero_width_stops (fun _ => before = none), mem_if_singleton,
        Option.isNone_iff_eq_none]
  | lineStart =>
      simp only [ends, Reads, zero_width_stops (fun _ => before.all (· == '\n') = true)]
      exact mem_if_singleton _ _ _
  | textEnd =>
      simp only [ends, Reads, zero_width_stops (fun rest => rest = [] ∨ rest = ['\n']),
        mem_if_singleton, at_text_end_iff]
  | notAfter rejects =>
      simp only [ends, Reads, zero_width_stops (fun _ => before.any rejects = false),
        mem_if_else_singleton, Bool.not_eq_true]
  | ahead inner step =>
      have none := no_stop_iff inner before text groups (step before text groups)
      simp only [ends, Reads, zero_width_stops (fun rest => ∃ seen beyond captured,
        rest = seen ++ beyond ∧ inner.Reads before seen beyond captured), mem_if_else_singleton,
        none, Classical.not_not]
  | notAhead inner step =>
      have none := no_stop_iff inner before text groups (step before text groups)
      simp only [ends, Reads, zero_width_stops (fun rest => ¬∃ seen beyond captured,
        rest = seen ++ beyond ∧ inner.Reads before seen beyond captured), mem_if_singleton, none]

/-! What is taken, whatever is captured. -/

/-- The pattern takes `piece` at a place with `before` on its left and `rest` after the piece. -/
def Takes (pattern : Pattern) (before : Option Char) (piece rest : Text) : Prop :=
  ∃ found, pattern.Reads before piece rest found

/-- A text in any mixture of the cases of a word. -/
abbrev SameText (word piece : Text) : Prop :=
  List.Forall₂ (fun letter c => sameLetter letter c = true) word piece

section Takes

variable (before : Option Char) (piece rest : Text)

@[simp] theorem takes_here : here.Takes before piece rest ↔ piece = [] := by
  simp [Takes, Reads]

@[simp] theorem takes_one (accepts : Char → Bool) :
    (one accepts).Takes before piece rest ↔ ∃ c, accepts c = true ∧ piece = [c] := by
  simp [Takes, Reads]

@[simp] theorem takes_many (accepts : Char → Bool) :
    (many accepts).Takes before piece rest ↔ ∀ c ∈ piece, accepts c = true := by
  simp [Takes, Reads]

@[simp] theorem takes_few (accepts : Char → Bool) :
    (few accepts).Takes before piece rest ↔ ∀ c ∈ piece, accepts c = true := by
  simp [Takes, Reads]

@[simp] theorem takes_append (first second : Pattern) :
    (first ++ second).Takes before piece rest ↔
      ∃ left right, piece = left ++ right ∧ first.Takes before left (right ++ rest) ∧
        second.Takes (lastOf before left) right rest := by
  constructor
  · rintro ⟨_, left, right, early, late, split, -, reads, readsOn⟩
    exact ⟨left, right, split, ⟨early, reads⟩, ⟨late, readsOn⟩⟩
  · rintro ⟨left, right, split, ⟨early, reads⟩, ⟨late, readsOn⟩⟩
    exact ⟨late ++ early, left, right, early, late, split, rfl, reads, readsOn⟩

theorem takes_assoc (first second third : Pattern) :
    (first ++ second ++ third).Takes before piece rest ↔
      (first ++ (second ++ third)).Takes before piece rest := by
  constructor
  · intro taken
    obtain ⟨_, right, rfl, early, late⟩ := (takes_append ..).mp taken
    obtain ⟨left, middle, rfl, opening, middleTaken⟩ := (takes_append ..).mp early
    rw [last_of_append] at late
    rw [← List.append_assoc] at opening
    apply (takes_append ..).mpr
    exact ⟨left, middle ++ right, List.append_assoc .., opening,
      (takes_append ..).mpr ⟨middle, right, rfl, middleTaken, late⟩⟩
  · intro taken
    obtain ⟨left, _, rfl, opening, behind⟩ := (takes_append ..).mp taken
    obtain ⟨middle, right, rfl, middleTaken, late⟩ := (takes_append ..).mp behind
    rw [← last_of_append] at late
    rw [List.append_assoc] at opening
    apply (takes_append ..).mpr
    exact ⟨left ++ middle, right, (List.append_assoc ..).symm,
      (takes_append ..).mpr ⟨left, middle, rfl, opening, middleTaken⟩, late⟩

@[simp] theorem takes_or (first second : Pattern) :
    (first ||| second).Takes before piece rest ↔
      first.Takes before piece rest ∨ second.Takes before piece rest :=
  exists_or

@[simp] theorem takes_capture (index : Nat) (inner : Pattern) :
    (capture index inner).Takes before piece rest ↔ inner.Takes before piece rest := by
  constructor
  · rintro ⟨_, inside, -, reads⟩
    exact ⟨inside, reads⟩
  · rintro ⟨inside, reads⟩
    exact ⟨_, inside, rfl, reads⟩

@[simp] theorem takes_word_edge :
    wordEdge.Takes before piece rest ↔
      piece = [] ∧ before.any isWordChar ≠ rest.head?.any isWordChar := by
  simp [Takes, Reads]

@[simp] theorem takes_text_start :
    textStart.Takes before piece rest ↔ piece = [] ∧ before = none := by
  simp [Takes, Reads]

@[simp] theorem takes_text_end :
    textEnd.Takes before piece rest ↔ piece = [] ∧ (rest = [] ∨ rest = ['\n']) := by
  simp [Takes, Reads]

@[simp] theorem takes_not_after (rejects : Char → Bool) :
    (notAfter rejects).Takes before piece rest ↔ piece = [] ∧ before.any rejects = false := by
  simp [Takes, Reads]

@[simp] theorem takes_ahead (inner : Pattern) :
    (ahead inner).Takes before piece rest ↔
      piece = [] ∧ ∃ seen beyond, rest = seen ++ beyond ∧ inner.Takes before seen beyond := by
  simp [Takes, Reads]

@[simp] theorem takes_not_ahead (inner : Pattern) :
    (notAhead inner).Takes before piece rest ↔
      piece = [] ∧ ¬∃ seen beyond, rest = seen ++ beyond ∧ inner.Takes before seen beyond := by
  simp [Takes, Reads]

@[simp] theorem takes_optional (inner : Pattern) :
    (optional inner).Takes before piece rest ↔ inner.Takes before piece rest ∨ piece = [] := by
  simp [optional]

@[simp] theorem takes_many1 (accepts : Char → Bool) :
    (many1 accepts).Takes before piece rest ↔ piece ≠ [] ∧ ∀ c ∈ piece, accepts c = true := by
  cases piece with
  | nil => simp [many1]
  | cons c piece =>
      simp only [many1, takes_append, takes_one, takes_many]
      constructor
      · rintro ⟨_, right, split, ⟨d, accepted, rfl⟩, all⟩
        obtain ⟨rfl, rfl⟩ := List.cons.inj split
        simpa [accepted] using all
      · rintro ⟨-, all⟩
        exact ⟨[c], piece, rfl, ⟨c, all c (by simp), rfl⟩, fun d member => all d (by simp [member])⟩

@[simp] theorem takes_few1 (accepts : Char → Bool) :
    (few1 accepts).Takes before piece rest ↔ piece ≠ [] ∧ ∀ c ∈ piece, accepts c = true := by
  rw [← takes_many1 before piece rest accepts]
  simp only [few1, many1, takes_append, takes_few, takes_many]

@[simp] theorem takes_blanks : blanks.Takes before piece rest ↔ ∀ c ∈ piece, isSpace c = true :=
  takes_many ..

@[simp] theorem takes_blanks1 :
    blanks1.Takes before piece rest ↔ piece ≠ [] ∧ ∀ c ∈ piece, isSpace c = true :=
  takes_many1 ..

theorem takes_letters (matching : Char → Char → Bool) (word : Text) :
    (word.foldr (fun c rest => one (matching c) ++ rest) here).Takes before piece rest ↔
      List.Forall₂ (fun letter c => matching letter c = true) word piece := by
  induction word generalizing before piece with
  | nil => cases piece <;> simp
  | cons letter word induction =>
      simp only [List.foldr_cons, takes_append, takes_one, induction]
      constructor
      · rintro ⟨_, right, rfl, ⟨c, same, rfl⟩, others⟩
        exact .cons same others
      · rintro (_ | ⟨same, others⟩)
        exact ⟨[_], _, rfl, ⟨_, same, rfl⟩, others⟩

@[simp] theorem takes_any_case (word : String) :
    (anyCase word).Takes before piece rest ↔ SameText word.toList piece :=
  takes_letters before piece rest sameLetter word.toList

@[simp] theorem takes_exactly (word : String) :
    (exactly word).Takes before piece rest ↔ piece = word.toList := by
  rw [exactly, takes_letters before piece rest (fun c d => d == c) word.toList]
  simp only [beq_iff_eq]
  generalize word.toList = letters
  constructor
  · intro same
    induction same with
    | nil => rfl
    | cons letter _ induction => rw [letter, induction]
  · rintro rfl
    induction piece with
    | nil => exact .nil
    | cons c piece induction => exact .cons rfl induction

end Takes

/-- Whether a pattern captures nothing. -/
def isPlain : Pattern → Bool
  | chain first second | either first second => isPlain first && isPlain second
  | capture .. => false
  | _ => true

theorem plain_reads_nothing (pattern : Pattern) (plain : pattern.isPlain = true)
    (before : Option Char) (piece rest : Text) (found : List (Nat × Text))
    (reads : pattern.Reads before piece rest found) : found = [] := by
  induction pattern generalizing before piece rest found with
  | chain first second firstStep secondStep =>
      simp only [isPlain, Bool.and_eq_true] at plain
      obtain ⟨left, right, early, late, -, rfl, reads, readsOn⟩ := reads
      rw [firstStep plain.1 _ _ _ _ reads, secondStep plain.2 _ _ _ _ readsOn, List.nil_append]
  | either first second firstStep secondStep =>
      simp only [isPlain, Bool.and_eq_true] at plain
      rcases reads with reads | reads
      · exact firstStep plain.1 _ _ _ _ reads
      · exact secondStep plain.2 _ _ _ _ reads
  | capture => exact absurd plain (by simp [isPlain])
  | here | one | many | few => exact reads.2
  | wordEdge | textStart | lineStart | textEnd | notAfter | ahead | notAhead => exact reads.2.1

/-- A chain whose second part captures nothing captures what its first part does. -/
theorem reads_append_plain {first second : Pattern} (plain : second.isPlain = true)
    {before : Option Char} {piece rest : Text} {found : List (Nat × Text)}
    (reads : (first ++ second).Reads before piece rest found) :
    ∃ left right, piece = left ++ right ∧ first.Reads before left (right ++ rest) found ∧
      second.Takes (lastOf before left) right rest := by
  obtain ⟨left, right, early, late, split, rfl, reads, readsOn⟩ := reads
  obtain rfl := plain_reads_nothing second plain _ _ _ _ readsOn
  exact ⟨left, right, split, reads, ⟨[], readsOn⟩⟩

theorem reads_append_capture {index : Nat} {first inner : Pattern} (plain : inner.isPlain = true)
    {before : Option Char} {piece rest : Text} {found : List (Nat × Text)}
    (reads : (first ++ capture index inner).Reads before piece rest found) :
    ∃ left right early, piece = left ++ right ∧ found = (index, right) :: early ∧
      first.Reads before left (right ++ rest) early ∧
      inner.Takes (lastOf before left) right rest := by
  obtain ⟨left, right, early, late, split, rfl, reads, inside, rfl, readsOn⟩ := reads
  obtain rfl := plain_reads_nothing inner plain _ _ _ _ readsOn
  exact ⟨left, right, early, split, rfl, reads, ⟨[], readsOn⟩⟩

/-! The functions that search. -/

theorem stop_some (pattern : Pattern) (before : Option Char) (text : Text) (stop : Spot)
    (stopped : pattern.stop? ⟨before, text, []⟩ = some stop) :
    ∃ piece, text = piece ++ stop.rest ∧ pattern.Reads before piece stop.rest stop.groups := by
  rw [stop_eq_head] at stopped
  obtain ⟨piece, rest, found, split, reads, rfl⟩ :=
    (mem_ends ..).mp (List.mem_of_head? stopped)
  exact ⟨piece, split, by simpa using reads⟩

theorem stop_none_iff (pattern : Pattern) (before : Option Char) (text : Text) :
    pattern.stop? ⟨before, text, []⟩ = none ↔
      ∀ piece rest, text = piece ++ rest → ¬pattern.Takes before piece rest := by
  rw [stop_eq_head, List.head?_eq_none_iff, ← List.isEmpty_iff,
    no_stop_iff _ _ _ _ (fun stop => mem_ends ..)]
  constructor
  · rintro none piece rest split ⟨found, reads⟩
    exact none ⟨piece, rest, found, split, reads⟩
  · rintro none ⟨piece, rest, found, split, reads⟩
    exact none piece rest split ⟨found, reads⟩

theorem starts_text_iff (pattern : Pattern) (text : Text) :
    pattern.startsText text = true ↔
      ∃ piece rest, text = piece ++ rest ∧ pattern.Takes none piece rest := by
  rw [startsText, atStart?, Option.isSome_map, ← Option.ne_none_iff_isSome, ne_eq, stop_none_iff]
  simp

theorem at_start_some (pattern : Pattern) (text : Text) (found : Found)
    (matched : pattern.atStart? text = some found) :
    ∃ piece rest, text = piece ++ rest ∧ pattern.Reads none piece rest found.groups := by
  obtain ⟨stop, stopped, rfl⟩ := Option.map_eq_some_iff.mp matched
  obtain ⟨piece, split, reads⟩ := stop_some _ _ _ _ stopped
  exact ⟨piece, stop.rest, split, reads⟩

theorem find_from_iff (pattern : Pattern) (offset : Nat) (before : Option Char) (text : Text) :
    (pattern.findFrom offset before text).isSome = true ↔
      ∃ above piece rest, text = above ++ (piece ++ rest) ∧
        pattern.Takes (lastOf before above) piece rest := by
  have here : ∀ before text, (∃ stop, pattern.stop? ⟨before, text, []⟩ = some stop) ↔
      ∃ piece rest, text = piece ++ rest ∧ pattern.Takes before piece rest := by
    intro before text
    rw [← Option.isSome_iff_exists, ← Option.ne_none_iff_isSome, ne_eq, stop_none_iff]
    simp
  induction text generalizing offset before with
  | nil =>
      rw [findFrom, Option.isSome_map, Option.isSome_iff_exists, here]
      constructor
      · rintro ⟨piece, rest, split, taken⟩
        exact ⟨[], piece, rest, split, by simpa using taken⟩
      · rintro ⟨above, piece, rest, split, taken⟩
        obtain ⟨rfl, empty⟩ := List.append_eq_nil_iff.mp split.symm
        exact ⟨piece, rest, empty.symm, by simpa using taken⟩
  | cons c text induction =>
      have first := here before (c :: text)
      rw [findFrom]
      cases stopped : pattern.stop? ⟨before, c :: text, []⟩ with
      | some stop =>
          obtain ⟨piece, rest, split, taken⟩ := first.mp ⟨stop, stopped⟩
          simp only [Option.isSome_some, true_iff]
          exact ⟨[], piece, rest, split, by simpa using taken⟩
      | none =>
          simp only [induction]
          constructor
          · rintro ⟨above, piece, rest, rfl, taken⟩
            exact ⟨c :: above, piece, rest, rfl, by simpa using taken⟩
          · rintro ⟨above, piece, rest, split, taken⟩
            cases above with
            | nil =>
                obtain ⟨stop, reached⟩ := first.mpr ⟨piece, rest, split, by simpa using taken⟩
                rw [stopped] at reached
                exact absurd reached (by simp)
            | cons d above =>
                rw [List.cons_append, List.cons.injEq] at split
                obtain ⟨rfl, rfl⟩ := split
                exact ⟨above, piece, rest, rfl, by simpa using taken⟩

theorem occurs_in_iff (pattern : Pattern) (text : Text) :
    pattern.occursIn text = true ↔ ∃ above piece rest, text = above ++ (piece ++ rest) ∧
      pattern.Takes (lastOf none above) piece rest :=
  find_from_iff pattern 0 none text

/-! Rewriting every match. -/

/-- What `replaceAll` does from a place on: a character at which nothing matches stays, and a
piece that the pattern reads makes way for what is written for it. -/
inductive Rewrites (pattern : Pattern) (write : Found → Text) :
    Option Char → Text → Text → Prop
  | done (before : Option Char) : Rewrites pattern write before [] []
  | keep (before : Option Char) (c : Char) (rest out : Text)
      (none : ∀ piece after, c :: rest = piece ++ after → ¬pattern.Takes before piece after)
      (next : Rewrites pattern write (some c) rest out) :
      Rewrites pattern write before (c :: rest) (c :: out)
  | swap (before : Option Char) (piece rest out : Text) (found : Found) (nonempty : piece ≠ [])
      (reads : pattern.Reads before piece rest found.groups)
      (next : Rewrites pattern write (lastOf before piece) rest out) :
      Rewrites pattern write before (piece ++ rest) (write found ++ out)

theorem rewrites_nil {pattern : Pattern} {write : Found → Text} {before : Option Char} {out : Text}
    (rewrites : pattern.Rewrites write before [] out) : out = [] := by
  generalize empty : ([] : Text) = text at rewrites
  cases rewrites with
  | done => rfl
  | keep => exact absurd empty (by simp)
  | swap _ piece rest out found nonempty =>
      exact absurd (List.append_eq_nil_iff.mp empty.symm).1 nonempty

theorem replace_from_skip (pattern : Pattern) (write : Found → Text) (before : Option Char)
    (piece rest : Text) :
    pattern.replaceFrom write piece.length before (piece ++ rest) =
      pattern.replaceFrom write 0 (lastOf before piece) rest := by
  induction piece generalizing before with
  | nil => rfl
  | cons c piece induction => simpa [replaceFrom] using induction (some c)

theorem rewrites_replace_from (pattern : Pattern) (write : Found → Text)
    (nonempty : ∀ before rest, ¬pattern.Takes before [] rest) (before : Option Char)
    (text : Text) :
    pattern.Rewrites write before text (pattern.replaceFrom write 0 before text) := by
  induction size : text.length using Nat.strongRecOn generalizing before text with
  | _ length induction =>
      cases text with
      | nil => exact .done before
      | cons c text =>
          simp only [replaceFrom]
          split
          next stop stopped =>
            obtain ⟨piece, split, reads⟩ := stop_some _ _ _ _ stopped
            cases piece with
            | nil => exact absurd ⟨_, reads⟩ (nonempty before stop.rest)
            | cons d piece =>
                rw [List.cons_append, List.cons.injEq] at split
                obtain ⟨rfl, rfl⟩ := split
                have skipped : (Found.ofSpots 0 ⟨before, c :: (piece ++ stop.rest), []⟩ stop).text.length
                    - 1 = piece.length := by
                  simp [Found.ofSpots, Spot.between]
                  omega
                rw [skipped, replace_from_skip]
                refine .swap before (c :: piece) stop.rest _ _ (by simp) reads ?_
                rw [last_of_cons]
                exact induction _ (by simp at size; omega)
                  _ _ rfl
          next stopped =>
            refine .keep before c text _ ((stop_none_iff ..).mp stopped) ?_
            exact induction _ (by simp only [List.length_cons] at size; omega) _ _ rfl

theorem rewrites_replace_all (pattern : Pattern) (write : Found → Text)
    (nonempty : ∀ before rest, ¬pattern.Takes before [] rest) (text : Text) :
    pattern.Rewrites write none text (pattern.replaceAll write text) :=
  rewrites_replace_from pattern write nonempty none text

end Pattern
end BasicBench.Text
