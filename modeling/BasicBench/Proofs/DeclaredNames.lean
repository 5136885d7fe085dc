import BasicBench.Proofs.AssignedPlaces
import BasicBench.Proofs.Preferences

/-!
Names that the checks see in a declaration. Such a name stands where a word begins, and a type or a
value has to follow it, behind bounds that end at the first closing parenthesis. Where this follows,
the name that is seen is the whole name, since names are taken as far as they go.
-/

set_option autoImplicit false

namespace BasicBench.Check

open Text Pattern

/-! Behind a name. -/

/-- The word `AS` or an equals sign stands first. -/
def Announces (text : Text) : Prop :=
  ∃ gap word rest, text = gap ++ (word ++ rest) ∧ Blank gap ∧
    (word = ['='] ∨ SameText "AS".toList word ∧ rest.head?.any isWordChar = false)

/-- Bounds that hold no closing parenthesis, or none. -/
def ShortBounds (bounds : Text) : Prop :=
  bounds = [] ∨ ∃ inside, bounds = '(' :: (inside ++ [')']) ∧ ')' ∉ inside

/-- The text behind a name goes on, after bounds that end at the first closing parenthesis, with a
type or a value. -/
def TypeFollows (text : Text) : Prop :=
  ∃ gap bounds after, text = gap ++ (bounds ++ after) ∧ Blank gap ∧ ShortBounds bounds ∧
    Announces after

/-- What a declared name has to be followed by. -/
def typeAhead : Pattern :=
  blanks ++ (optional (one (· == '(') ++ many (· != ')') ++ one (· == ')')) ++
    (blanks ++ (anyCase "AS" ++ wordEdge ||| one (· == '='))))

theorem short_bounds_takes (before : Option Char) (piece rest : Text) :
    (optional (one (· == '(') ++ many (· != ')') ++ one (· == ')'))).Takes before piece rest ↔
      ShortBounds piece := by
  simp only [takes_optional, takes_append, takes_one, takes_many, beq_iff_eq, bne_iff_ne]
  constructor
  · rintro (⟨_, _, rfl, ⟨_, inside, rfl, ⟨_, rfl, rfl⟩, short⟩, _, rfl, rfl⟩ | rfl)
    · exact .inr ⟨inside, rfl, fun member => short ')' member rfl⟩
    · exact .inl rfl
  · rintro (rfl | ⟨inside, rfl, short⟩)
    · exact .inr rfl
    · have others : ∀ c ∈ inside, c ≠ ')' := by
        rintro c member rfl
        exact short member
      exact .inl ⟨'(' :: inside, [')'], rfl, ⟨['('], inside, rfl, ⟨'(', rfl, rfl⟩, others⟩,
        ')', rfl, rfl⟩

theorem announcing_word_takes (before : Option Char) (piece rest : Text) :
    (anyCase "AS" ++ wordEdge ||| one (· == '=')).Takes before piece rest ↔
      piece = ['='] ∨ SameText "AS".toList piece ∧ rest.head?.any isWordChar = false := by
  simp only [takes_or, takes_append, takes_any_case, takes_word_edge, takes_one, beq_iff_eq]
  constructor
  · rintro (⟨word, _, rfl, same, rfl, edge⟩ | ⟨_, rfl, rfl⟩)
    · rw [Instrument.edge_behind_letters (by decide) (by decide) same] at edge
      exact .inr ⟨by rwa [List.append_nil], edge⟩
    · exact .inl rfl
  · rintro (rfl | ⟨same, edge⟩)
    · exact .inr ⟨'=', rfl, rfl⟩
    · refine .inl ⟨piece, [], (List.append_nil _).symm, same, rfl, ?_⟩
      rwa [Instrument.edge_behind_letters (by decide) (by decide) same]

theorem type_ahead_takes (before : Option Char) (piece rest : Text) :
    typeAhead.Takes before piece rest ↔
      ∃ gap bounds space word, piece = gap ++ (bounds ++ (space ++ word)) ∧ Blank gap ∧
        ShortBounds bounds ∧ Blank space ∧
        (word = ['='] ∨ SameText "AS".toList word ∧ rest.head?.any isWordChar = false) := by
  rw [typeAhead]
  simp only [takes_append, takes_blanks, short_bounds_takes, announcing_word_takes]
  constructor
  · rintro ⟨gap, _, rfl, blank, bounds, _, rfl, short, space, word, rfl, blankSpace, announced⟩
    exact ⟨gap, bounds, space, word, rfl, blank, short, blankSpace, announced⟩
  · rintro ⟨gap, bounds, space, word, rfl, blank, short, blankSpace, announced⟩
    exact ⟨gap, _, rfl, blank, bounds, _, rfl, short, space, word, rfl, blankSpace, announced⟩

theorem type_follows_iff (before : Option Char) (text : Text) :
    TypeFollows text ↔ ∃ piece rest, text = piece ++ rest ∧ typeAhead.Takes before piece rest := by
  simp only [type_ahead_takes]
  constructor
  · rintro ⟨gap, bounds, _, rfl, blank, short, space, word, rest, rfl, blankSpace, announced⟩
    exact ⟨gap ++ (bounds ++ (space ++ word)), rest, by simp, gap, bounds, space, word, rfl, blank,
      short, blankSpace, announced⟩
  · rintro ⟨_, rest, rfl, gap, bounds, space, word, rfl, blank, short, blankSpace, announced⟩
    exact ⟨gap, bounds, space ++ (word ++ rest), by simp, blank, short, space, word, rest, rfl,
      blankSpace, announced⟩

/-! Names that are seen. -/

/-- A word edge and a name. -/
def nameHead : Pattern := wordEdge ++ capture 1 variableName

theorem declared_name_ends (spot : Spot) :
    declaredName.ends spot = (nameHead ++ typeAhead).ends spot := by
  rw [declaredName, ends_append_assoc, ends_append_assoc, ends_append_assoc]
  rfl

/-- The characters of names. -/
def isVariableChar (c : Char) : Bool := isNamePart c || among "$%!#&" c

theorem name_chars {name : Text} (plain : IsVariable name) : ∀ c ∈ name, isVariableChar c = true := by
  obtain ⟨first, others, mark, rfl, letter, parts, marked⟩ := plain
  rw [List.forall_mem_cons, List.forall_mem_append]
  refine ⟨by simp [isVariableChar, isNamePart, letter], fun c member => ?_, fun c member => ?_⟩
  · rw [isVariableChar, parts c member, Bool.true_or]
  · rcases marked with rfl | ⟨d, rfl, accepted⟩
    · cases member
    · obtain rfl := List.mem_singleton.mp member
      rw [isVariableChar, accepted, Bool.or_true]

theorem not_name_part_of_mark {c : Char} (mark : among "$%!#&" c = true) :
    isNamePart c = false :=
  of_type_mark c mark (List.all_iff_forall_prop.mp (by decide))

/-- A name is taken as a whole where it ends. -/
theorem variable_name_prefers {name behind : Text} (plain : IsVariable name)
    (ends : behind.head?.any isVariableChar = false) (before : Option Char) :
    variableName.Prefers before name behind [] := by
  obtain ⟨first, others, mark, rfl, letter, parts, marked⟩ := plain
  have refused : (mark ++ behind).head?.any isNamePart = false := by
    rcases marked with rfl | ⟨c, rfl, accepted⟩
    · cases behind with
      | nil => rfl
      | cons c behind => exact (Bool.or_eq_false_iff.mp ends).1
    · exact not_name_part_of_mark accepted
  have body : (one isLetterForm ++ many isNamePart).Prefers before ([first] ++ others)
      (mark ++ behind) [] := prefers_append (prefers_one letter) (prefers_many parts refused)
  have closing (before : Option Char) :
      (optional (one (among "$%!#&"))).Prefers before mark behind [] := by
    rcases marked with rfl | ⟨c, rfl, accepted⟩
    · refine prefers_nothing fun piece more split taken => ?_
      obtain ⟨c, accepted, rfl⟩ := (takes_one ..).mp taken
      rw [split] at ends
      rw [(Bool.or_eq_false_iff.mp ends).2] at accepted
      cases accepted
    · exact prefers_optional (prefers_one accepted)
  exact prefers_append body (closing _)

theorem name_head_prefers {name behind : Text} (plain : IsVariable name)
    (ends : behind.head?.any isVariableChar = false) {before : Option Char}
    (edge : before.any isWordChar = false) : nameHead.Prefers before name behind [(1, name)] := by
  refine prefers_append (prefers_word_edge ?_)
    (prefers_capture 1 (variable_name_prefers plain ends before))
  obtain ⟨first, others, rfl, letter⟩ := name_head plain
  have word : (first :: others ++ behind).head?.any isWordChar = true :=
    word_char_of_letter_form letter
  rw [edge, word]
  decide

/-- What is read as a declared name: the name, and what has to follow it. -/
theorem declared_name_reads {before : Option Char} {piece rest : Text} {found : List (Nat × Text)}
    (reads : declaredName.Reads before piece rest found) :
    ∃ name tail, piece = name ++ tail ∧ found = [(1, name)] ∧ IsVariable name ∧
      typeAhead.Takes (lastOf before name) tail rest := by
  have member := (mem_ends declaredName before (piece ++ rest) [] _).mpr
    ⟨piece, rest, found, rfl, reads, rfl⟩
  rw [declared_name_ends, mem_ends] at member
  obtain ⟨piece', rest', found', split, reads', same⟩ := member
  obtain ⟨-, rfl, groups⟩ := Spot.mk.inj same
  obtain rfl : piece = piece' := List.append_cancel_right split
  rw [List.append_nil, List.append_nil] at groups
  obtain ⟨head, tail, rfl, reads', ahead⟩ := reads_append_plain (by decide) reads'
  obtain ⟨edge, name, early, rfl, named, edgeReads, taken⟩ :=
    reads_append_capture (by decide) reads'
  obtain ⟨rfl, rfl, -⟩ := edgeReads
  exact ⟨name, tail, rfl, groups.trans named, (variable_name_takes ..).mp taken, ahead⟩

theorem upper_char_length {c : Char} (small : c.toNat < 128) : (upperChar c).length = 1 := by
  rw [upperChar, if_pos small]
  split <;> rfl

/-- The upper case of a name has as many characters. -/
theorem upper_name_char_length {c : Char} (part : isVariableChar c = true) :
    (upperChar c).length = 1 := by
  simp only [isVariableChar, isNamePart, Bool.or_eq_true, beq_iff_eq] at part
  rcases part with ((letter | digit) | rfl) | mark
  · rcases capital_codes c with ⟨low, high, -⟩ | ⟨form, -⟩ | own
    · exact upper_char_length (by omega)
    · rw [← Char.ofNat_toNat c]
      generalize c.toNat = code at form
      simp only [List.mem_cons, List.not_mem_nil, or_false] at form
      rcases form with rfl | rfl | rfl | rfl <;> decide
    · rw [isLetterForm, own, isLetter] at letter
      simp only [Bool.or_eq_true, Bool.and_eq_true, decide_eq_true_eq] at letter
      exact upper_char_length (by omega)
  · simp only [isDigit, Bool.and_eq_true, decide_eq_true_eq] at digit
    exact upper_char_length (by omega)
  · decide
  · exact of_type_mark c mark (List.all_iff_forall_prop.mp (by decide))

theorem upper_name_length {name : Text} (chars : ∀ c ∈ name, isVariableChar c = true) :
    (upper name).length = name.length := by
  induction name with
  | nil => rfl
  | cons c name induction =>
      rw [List.forall_mem_cons] at chars
      rw [upper, List.flatMap_cons, List.length_append, upper_name_char_length chars.1,
        List.length_cons, ← induction chars.2, upper, Nat.add_comm]

/-- A name that begins where another one ends begins no further down. -/
theorem name_within {name other behind more : Text} (plain : IsVariable other)
    (ends : behind.head?.any isVariableChar = false) (split : name ++ behind = other ++ more) :
    other <+: name := by
  rcases List.append_eq_append_iff.mp split with ⟨between, rfl, rest⟩ | ⟨between, rfl, -⟩
  · cases between with
    | nil => rw [List.append_nil]
    | cons c between =>
        have inside := name_chars plain c (by simp)
        rw [rest] at ends
        rw [show isVariableChar c = false from ends] at inside
        cases inside
  · exact List.prefix_append ..

/-- Where a name stands it is seen exactly when a type or a value follows. -/
theorem seen_in_place_iff {name behind : Text} (plain : IsVariable name)
    (ends : behind.head?.any isVariableChar = false) {before : Option Char}
    (edge : before.any isWordChar = false) :
    (∃ stop, declaredName.stop? ⟨before, name ++ behind, []⟩ = some stop ∧
      upper ((stop.groups.lookup 1).getD []) = upper name) ↔ TypeFollows behind := by
  constructor
  · rintro ⟨stop, stopped, same⟩
    obtain ⟨piece, split, reads⟩ := stop_some _ _ _ _ stopped
    obtain ⟨other, tail, rfl, groups, otherPlain, ahead⟩ := declared_name_reads reads
    rw [groups] at same
    rw [List.append_assoc] at split
    obtain ⟨more, rfl⟩ := name_within otherPlain ends split
    have lengths := congrArg List.length same
    have chars := name_chars plain
    rw [show ((List.lookup 1 [(1, other)]).getD [] : Text) = other from rfl,
      upper_name_length (name_chars otherPlain), upper_name_length chars,
      List.length_append] at lengths
    obtain rfl : more = [] := List.length_eq_zero_iff.mp (by omega)
    rw [List.append_nil] at split
    exact (type_follows_iff _ _).mpr ⟨tail, stop.rest, List.append_cancel_left split, ahead⟩
  · intro follows
    obtain ⟨piece, rest, rfl, ahead⟩ := (type_follows_iff (lastOf before name) behind).mp follows
    obtain ⟨stop, stopped, groups⟩ :=
      stop_of_chain (name_head_prefers plain ends edge) (by decide) ahead
    refine ⟨stop, ?_, by rw [groups]; rfl⟩
    rw [stop_eq_head, declared_name_ends, ← stop_eq_head]
    exact stopped

/-! Identifiers. -/

/-- Letters, digits and underscores, and at most one type mark. -/
def IsIdentifier (name : Text) : Prop :=
  ∃ body mark, name = body ++ mark ∧ body ≠ [] ∧ (∀ c ∈ body, isNamePart c = true) ∧ TypeMark mark

theorem identifier_chars {name : Text} (identifier : IsIdentifier name) :
    ∀ c ∈ name, isVariableChar c = true := by
  obtain ⟨body, mark, rfl, -, parts, marked⟩ := identifier
  refine List.forall_mem_append.mpr ⟨fun c member => ?_, fun c member => ?_⟩
  · rw [isVariableChar, parts c member, Bool.true_or]
  · rcases marked with rfl | ⟨d, rfl, accepted⟩
    · cases member
    · obtain rfl := List.mem_singleton.mp member
      rw [isVariableChar, accepted, Bool.or_true]

theorem identifier_head {name : Text} (identifier : IsIdentifier name) :
    ∃ first others, name = first :: others ∧ isNamePart first = true := by
  obtain ⟨body, mark, rfl, some, parts, -⟩ := identifier
  obtain ⟨first, others, rfl⟩ := List.exists_cons_of_ne_nil some
  exact ⟨first, others ++ mark, rfl, parts first List.mem_cons_self⟩

/-! Names that are never assigned. -/

theorem letter_form_of_letter {c : Char} (letter : isLetter c = true) : isLetterForm c = true := by
  have code := letter
  simp only [isLetter, Bool.or_eq_true, Bool.and_eq_true, decide_eq_true_eq] at code
  rw [isLetterForm]
  rcases capital_codes c with ⟨low, high, capital⟩ | ⟨form, -⟩ | own
  · rw [isLetter, capital]
    simp only [Bool.or_eq_true, Bool.and_eq_true, decide_eq_true_eq]
    omega
  · simp only [List.mem_cons, List.not_mem_nil, or_false] at form
    omega
  · rw [own, letter]

/-- The upper case of a letter is a letter. -/
theorem upper_letter {c : Char} (letter : isLetterForm c = true) :
    ∃ d, upperChar c = [d] ∧ isLetterForm d = true := by
  rcases capital_codes c with ⟨low, high, -⟩ | ⟨form, -⟩ | own
  · exact ⟨capital c, upper_char_of_lower c low high, letter_form_of_letter letter⟩
  · rw [← Char.ofNat_toNat c]
    generalize c.toNat = code at form
    simp only [List.mem_cons, List.not_mem_nil, or_false] at form
    rcases form with rfl | rfl | rfl | rfl
    · exact ⟨_, rfl, by decide⟩
    · exact ⟨_, rfl, by decide⟩
    · exact ⟨_, rfl, by decide⟩
    · exact ⟨_, rfl, by decide⟩
  · rw [isLetterForm, own] at letter
    have small : c.toNat < 128 := by
      simp only [isLetter, Bool.or_eq_true, Bool.and_eq_true, decide_eq_true_eq] at letter
      omega
    exact ⟨c, upper_char_of_capital c small own, letter_form_of_letter letter⟩

theorem upper_other {c : Char} (part : isNamePart c = true) (other : isLetterForm c = false) :
    upperChar c = [c] := by
  simp only [isNamePart, other, Bool.false_or, Bool.or_eq_true, beq_iff_eq] at part
  rcases part with digit | rfl
  · simp only [isDigit, Bool.and_eq_true, decide_eq_true_eq] at digit
    simp only [upperChar, Bool.and_eq_true, decide_eq_true_eq]
    rw [if_pos (by omega), if_neg (by omega)]
  · decide

/-- What is assigned begins with a letter. -/
theorem variable_of_assigned {name : Text} {line : SourceLine} (identifier : IsIdentifier name)
    (assigns : Assigns (upper name) line) : IsVariable name := by
  obtain ⟨-, target, assigned, same⟩ := assigns
  obtain ⟨margin, opening, placed⟩ := target_of_assigned assigned
  obtain ⟨first, others, rfl, letter⟩ := name_head placed.plain
  obtain ⟨d, capitals, dLetter⟩ := upper_letter letter
  obtain ⟨body, mark, rfl, some, parts, marked⟩ := identifier
  obtain ⟨c, more, rfl⟩ := List.exists_cons_of_ne_nil some
  rw [List.forall_mem_cons] at parts
  refine ⟨c, more, mark, rfl, ?_, parts.2, marked⟩
  by_contra other
  rw [Bool.not_eq_true] at other
  rw [upper, List.flatMap_cons, capitals, List.cons_append, upper, List.cons_append,
    List.flatMap_cons, upper_other parts.1 other] at same
  obtain ⟨rfl, -⟩ := List.cons.inj same
  rw [other] at dLetter
  cases dLetter

end BasicBench.Check
