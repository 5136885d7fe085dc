import BasicBench.Proofs.DeclaredNames

/-!
The lists of `DIM` statements. A list has declarations between commas, and each has a name and the
bounds and the type that it may have. Parentheses in front of a comma of the list are closed again
there, so no match for a declared name goes over the comma: the checks try the place of every name.
-/

set_option autoImplicit false

namespace BasicBench.Check

open Text Pattern

/-! Lists of declarations. -/

/-- Outside string literals the parentheses of the text match. -/
inductive Paired : Text → Prop
  | nil : Paired []
  | plain {c : Char} {rest : Text} (other : c ∉ ['(', ')', '"']) (later : Paired rest) :
      Paired (c :: rest)
  | string {inside rest : Text} (closed : '"' ∉ inside) (later : Paired rest) :
      Paired ('"' :: (inside ++ '"' :: rest))
  | parentheses {inside rest : Text} (inner : Paired inside) (later : Paired rest) :
      Paired ('(' :: (inside ++ ')' :: rest))

/-- Bounds in parentheses with blanks in front of them, or nothing. -/
def Bounds (bounds : Text) : Prop :=
  bounds = [] ∨ ∃ gap inside, bounds = gap ++ '(' :: (inside ++ [')']) ∧ Blank gap ∧ Paired inside

/-- A type, with blanks in front of it. It ends where the next declaration, the next statement or a
remark begins. -/
structure TypeName (kind : Text) : Prop where
  apart : kind.head?.any isSpace = true
  named : ¬Blank kind
  paired : Paired kind
  ends : ∀ c ∈ kind, c ∉ [',', ':', '\'', '"']

/-- One of the declarations in a list: a name, and the bounds and the type that it may have. -/
structure DimItem where
  lead : Text
  name : Text
  bounds : Text
  typing : Text
  blank : Blank lead
  identifier : IsIdentifier name
  bounded : Bounds bounds
  typed : Blank typing ∨ ∃ space word kind, typing = space ++ (word ++ kind) ∧ Blank space ∧
    (bounds = [] → space ≠ []) ∧ SameText "AS".toList word ∧ TypeName kind

namespace DimItem

/-- What stands behind the name. -/
def behind (item : DimItem) : Text := item.bounds ++ item.typing

def text (item : DimItem) : Text := item.lead ++ (item.name ++ item.behind)

end DimItem

/-- Declarations with a comma behind each. -/
def commaItems (items : List DimItem) : Text := items.flatMap fun item => item.text ++ [',']

/-- Declarations with a comma in front of each. -/
def laterItems (items : List DimItem) : Text := items.flatMap fun item => ',' :: item.text

/-- `SHARED` with the blanks behind it, or nothing. -/
inductive Modifier : Text → Prop
  | none : Modifier []
  | shared {word gap : Text} (spelled : SameText "SHARED".toList word) (nonempty : gap ≠ [])
      (blank : Blank gap) : Modifier (word ++ gap)

/-- The text goes on with this word and a blank. -/
def GoesOnWith (word : String) (text : Text) : Prop :=
  ∃ form gap rest, text = form ++ (gap ++ rest) ∧ SameText word.toList form ∧ gap ≠ [] ∧ Blank gap

/-- The statement is `DIM` or `DIM SHARED` with a list in which `item` stands between others.
Modifiers are no names, so the list does not begin with one. -/
inductive Dims (before : List DimItem) (item : DimItem) (after : List DimItem) : Text → Prop
  | list {word space modifier tail : Text} (spelled : SameText "DIM".toList word)
      (nonempty : space ≠ []) (blank : Blank space) (modified : Modifier modifier)
      (flush : ∀ first ∈ (before ++ [item]).head?, first.lead = [])
      (free : ∀ modifier ∈ ["SHARED", "_PRESERVE"], ¬GoesOnWith modifier
        (commaItems before ++ (item.text ++ (laterItems after ++ tail))))
      (closed : tail = [] ∨ ∃ c others, tail = c :: others ∧ (c = ':' ∨ c = '\'')) :
      Dims before item after (word ++ (space ++ (modifier ++
        (commaItems before ++ (item.text ++ (laterItems after ++ tail))))))

/-! Parentheses that are closed again. -/

/-- Behind every opening parenthesis there is a closing one. -/
def ClosesLater (text : Text) : Prop := ∀ left right, text = left ++ '(' :: right → ')' ∈ right

theorem closes_later_of_free {text : Text} (free : '(' ∉ text) : ClosesLater text := by
  rintro left right rfl
  exact absurd (List.mem_append_right left List.mem_cons_self) free

theorem closes_later_append {text other : Text} (first : ClosesLater text)
    (second : ClosesLater other) : ClosesLater (text ++ other) := by
  intro left right split
  rcases List.append_eq_append_iff.mp split with ⟨between, rfl, rest⟩ | ⟨between, rfl, rest⟩
  · exact second between right rest
  · cases between with
    | nil => exact second [] right (by simpa using rest.symm)
    | cons c between =>
        obtain ⟨rfl, rfl⟩ := List.cons.inj rest
        exact List.mem_append_left _ (first left between rfl)

theorem closes_later_parentheses (inside : Text) : ClosesLater ('(' :: (inside ++ [')'])) := by
  intro left right split
  rw [← List.cons_append] at split
  rcases List.eq_nil_or_concat right with rfl | ⟨others, d, rfl⟩
  · exact absurd (List.append_inj' split rfl).2 (by decide)
  · rw [List.concat_eq_append, ← List.cons_append, ← List.append_assoc] at split
    obtain rfl := (List.cons.inj (List.append_inj' split rfl).2).1
    simp

theorem closes_later_of_paired {text : Text} (paired : Paired text) (unquoted : '"' ∉ text) :
    ClosesLater text := by
  induction paired with
  | nil => exact closes_later_of_free List.not_mem_nil
  | @plain c rest other _ induction =>
      rw [List.mem_cons, not_or] at unquoted
      have alone : '(' ∉ [c] := by
        intro member
        obtain rfl := List.mem_singleton.mp member
        exact other (by simp)
      exact closes_later_append (closes_later_of_free alone) (induction unquoted.2)
  | string => exact absurd List.mem_cons_self unquoted
  | @parentheses inside rest _ _ _ induction =>
      have shape : '(' :: (inside ++ ')' :: rest) = '(' :: (inside ++ [')']) ++ rest := by simp
      rw [shape] at unquoted ⊢
      rw [List.mem_append, not_or] at unquoted
      exact closes_later_append (closes_later_parentheses inside) (induction unquoted.2)

theorem not_parenthesis_of_blank {text : Text} (blank : Blank text) : '(' ∉ text :=
  fun member => absurd (blank _ member) (by decide)

theorem DimItem.closes_later (item : DimItem) : ClosesLater item.text := by
  have name : '(' ∉ item.name := fun member =>
    absurd (identifier_chars item.identifier _ member) (by decide)
  have bounds : ClosesLater item.bounds := by
    rcases item.bounded with none | ⟨gap, inside, shape, blank, -⟩
    · rw [none]
      exact closes_later_of_free List.not_mem_nil
    · rw [shape]
      exact closes_later_append (closes_later_of_free (not_parenthesis_of_blank blank))
        (closes_later_parentheses inside)
  have typing : ClosesLater item.typing := by
    rcases item.typed with blank | ⟨space, word, kind, shape, blank, -, same, type⟩
    · exact closes_later_of_free (not_parenthesis_of_blank blank)
    · have letters : '(' ∉ word := fun member =>
        absurd (Instrument.spelled_letters (by decide) same _ member) (by decide)
      rw [shape]
      refine closes_later_append (closes_later_of_free (not_parenthesis_of_blank blank))
        (closes_later_append (closes_later_of_free letters) (closes_later_of_paired type.paired ?_))
      exact fun member => type.ends _ member (by simp)
  exact closes_later_append (closes_later_of_free (not_parenthesis_of_blank item.blank))
    (closes_later_append (closes_later_of_free name) (closes_later_append bounds typing))

/-! No match goes over a comma outside parentheses. -/

theorem split_behind {c : Char} {front text above below : Text} (absent : c ∉ front)
    (split : front ++ text = above ++ c :: below) :
    ∃ between, above = front ++ between ∧ text = between ++ c :: below := by
  rcases List.append_eq_append_iff.mp split with ⟨between, rfl, rest⟩ | ⟨between, rfl, rest⟩
  · exact ⟨between, rfl, rest⟩
  · cases between with
    | nil => exact ⟨[], by simp, rest.symm⟩
    | cons d between =>
        obtain ⟨rfl, -⟩ := List.cons.inj rest
        exact absurd (List.mem_append_right above List.mem_cons_self) absent

theorem no_comma_of_blank {text : Text} (blank : Blank text) : ',' ∉ text :=
  fun member => absurd (blank _ member) (by decide)

/-- A comma in what is read as a declared name stands behind a parenthesis that is still open. -/
theorem comma_in_bounds {before : Option Char} {name tail above below rest : Text}
    (plain : IsVariable name) (ahead : typeAhead.Takes before tail rest)
    (split : name ++ tail = above ++ ',' :: below) :
    ∃ left inside, above = left ++ '(' :: inside ∧ ')' ∉ inside := by
  obtain ⟨gap, bounds, space, word, rfl, blank, short, blankSpace, announced⟩ :=
    (type_ahead_takes ..).mp ahead
  have last : ',' ∉ space ++ word := by
    rw [List.mem_append, not_or]
    refine ⟨no_comma_of_blank blankSpace, ?_⟩
    rcases announced with rfl | ⟨same, -⟩
    · decide
    · exact fun member =>
        absurd (Instrument.spelled_letters (by decide) same _ member) (by decide)
  have inName : ',' ∉ name := fun member => absurd (name_chars plain _ member) (by decide)
  obtain ⟨behindName, rfl, afterName⟩ := split_behind inName split
  obtain ⟨behindGap, rfl, afterGap⟩ := split_behind (no_comma_of_blank blank) afterName
  rcases short with rfl | ⟨inside, rfl, closing⟩
  · rw [List.nil_append] at afterGap
    exact absurd (afterGap ▸ List.mem_append_right _ List.mem_cons_self) last
  · have opened : ['('] ++ (inside ++ ')' :: (space ++ word)) = behindGap ++ ',' :: below := by
      rw [← afterGap]
      simp
    obtain ⟨inner, rfl, afterOpening⟩ := split_behind (by decide) opened
    refine ⟨name ++ gap, inner, by simp, fun member => ?_⟩
    rcases List.append_eq_append_iff.mp afterOpening with ⟨between, rfl, behind⟩ | ⟨between, rfl, -⟩
    · have comma : ',' ∈ ')' :: (space ++ word) := by
        rw [behind]
        exact List.mem_append_right _ List.mem_cons_self
      rcases List.mem_cons.mp comma with same | later
      · exact absurd same (by decide)
      · exact last later
    · exact closing (List.mem_append_left _ member)

/-- What is read as a declared name begins with a letter. -/
theorem declared_name_letter {before : Option Char} {piece rest : Text}
    (taken : declaredName.Takes before piece rest) :
    ∃ first others, piece = first :: others ∧ isLetterForm first = true := by
  obtain ⟨found, reads⟩ := taken
  obtain ⟨name, tail, rfl, -, plain, -⟩ := declared_name_reads reads
  obtain ⟨first, others, rfl, letter⟩ := name_head plain
  exact ⟨first, others ++ tail, rfl, letter⟩

theorem stays_in_list {before : Option Char} {earlier lead rest : Text}
    (closes : ClosesLater earlier) (blank : Blank lead) :
    declaredName.StaysIn before (earlier ++ ',' :: lead) rest := by
  intro left piece behind split inside taken
  obtain ⟨first, others, named, letter⟩ := declared_name_letter taken
  have solid := solid_of_word_char (word_char_of_letter_form letter)
  rw [List.append_assoc, List.cons_append] at split
  rw [List.length_append, List.length_cons] at inside ⊢
  rcases List.append_eq_append_iff.mp split with ⟨between, rfl, rest⟩ | ⟨between, rfl, rest⟩
  · -- The match begins in front of the comma, and it cannot go over it.
    rw [List.length_append]
    rcases List.append_eq_append_iff.mp rest with ⟨more, rfl, -⟩ | ⟨more, rfl, behindComma⟩
    · rw [List.length_append]
      omega
    · cases more with
      | nil =>
          rw [List.append_nil]
          omega
      | cons c more =>
          obtain ⟨rfl, -⟩ := List.cons.inj behindComma
          obtain ⟨found, reads⟩ := taken
          obtain ⟨name, tail, shape, -, plain, ahead⟩ := declared_name_reads reads
          obtain ⟨front, inner, rfl, closing⟩ := comma_in_bounds plain ahead shape.symm
          have later := closes (left ++ front) inner (by rw [List.append_assoc])
          exact absurd later closing
  · -- Neither the comma nor a blank behind it is a letter.
    rw [named] at rest
    cases between with
    | nil =>
        obtain ⟨rfl, -⟩ := List.cons.inj rest
        exact absurd letter (by decide)
    | cons c between =>
        obtain ⟨-, rest⟩ := List.cons.inj rest
        rw [List.length_append, List.length_cons] at inside
        rcases List.append_eq_append_iff.mp rest with ⟨more, rfl, -⟩ | ⟨more, rfl, head⟩
        · rw [List.length_append] at inside
          omega
        · cases more with
          | nil =>
              rw [List.append_nil] at inside
              omega
          | cons d more =>
              obtain ⟨rfl, -⟩ := List.cons.inj head
              have space := blank first (by simp)
              rw [solid.1] at space
              cases space

theorem closes_later_comma_items (items : List DimItem) : ClosesLater (commaItems items) := by
  induction items with
  | nil => exact closes_later_of_free List.not_mem_nil
  | cons item items induction =>
      rw [commaItems, List.flatMap_cons]
      exact closes_later_append
        (closes_later_append item.closes_later (closes_later_of_free (by decide))) induction

/-- No match that begins in front of an item goes into it. -/
theorem stays_before {before : List DimItem} {item : DimItem} (rest : Text)
    (flush : ∀ first ∈ (before ++ [item]).head?, first.lead = []) :
    declaredName.StaysIn none (commaItems before ++ item.lead) rest := by
  rcases List.eq_nil_or_concat before with rfl | ⟨others, last, rfl⟩
  · rw [flush item rfl]
    exact fun _ _ _ _ inside _ => absurd inside (Nat.not_lt_zero _)
  · have shape : commaItems (others.concat last) ++ item.lead =
        (commaItems others ++ last.text) ++ ',' :: item.lead := by
      simp [commaItems]
    rw [shape]
    exact stays_in_list (closes_later_append (closes_later_comma_items others) last.closes_later)
      item.blank

/-! The list of a statement. -/

theorem solid_of_name_char {c : Char} (part : isVariableChar c = true) : isSpace c = false := by
  rcases Bool.or_eq_true_iff.mp part with letter | mark
  · exact not_space_of_word_char c (word_char_of_name_part letter)
  · exact of_type_mark c mark (List.all_iff_forall_prop.mp (by decide))

/-- A list begins with a name. -/
theorem list_head {before : List DimItem} {item : DimItem} (rest : Text)
    (flush : ∀ first ∈ (before ++ [item]).head?, first.lead = []) :
    (commaItems before ++ (item.text ++ rest)).head?.any isSpace = false := by
  have named (first : DimItem) (more : Text) (lead : first.lead = []) :
      (first.text ++ more).head?.any isSpace = false := by
    obtain ⟨c, others, name, part⟩ := identifier_head first.identifier
    rw [DimItem.text, lead, name]
    exact not_space_of_word_char c (word_char_of_name_part part)
  cases before with
  | nil => exact named item rest (flush item rfl)
  | cons first others =>
      rw [commaItems, List.flatMap_cons, List.append_assoc, List.append_assoc]
      exact named first _ (flush first rfl)

/-- The modifiers in front of a list are taken, and no more. -/
theorem opening_prefers {word space modifier body : Text} (spelled : SameText "DIM".toList word)
    (nonempty : space ≠ []) (blank : Blank space) (modified : Modifier modifier)
    (solid : body.head?.any isSpace = false)
    (free : ∀ modifier ∈ ["SHARED", "_PRESERVE"], ¬GoesOnWith modifier body) :
    declarationOpening.Prefers none (((word ++ space) ++ modifier) ++ []) body [] := by
  have skipped (name : String) (listed : name ∈ ["SHARED", "_PRESERVE"]) (before : Option Char) :
      (optional (anyCase name ++ blanks1)).Prefers before [] body [] := by
    refine prefers_nothing fun piece behind split taken => ?_
    obtain ⟨form, gap, rfl, same, some, gapBlank⟩ := by
      simpa only [takes_append, takes_any_case, takes_blanks1] using taken
    rw [List.append_assoc] at split
    exact free name listed ⟨form, gap, behind, split, same, some, gapBlank⟩
  have letters := Instrument.spelled_letters (by decide) spelled
  have wordNonempty : word ≠ [] := by
    rintro rfl
    cases List.forall₂_nil_right_iff.mp spelled
  have head (rest : Text) : (space ++ rest).head?.any isWordChar = false := by
    obtain ⟨c, others, rfl⟩ := List.exists_cons_of_ne_nil nonempty
    exact not_word_char_of_space c (blank c List.mem_cons_self)
  have shared (before : Option Char) :
      (optional (anyCase "SHARED" ++ blanks1)).Prefers before modifier body [] ∧
        (modifier ++ body).head?.any isSpace = false := by
    cases modified with
    | none => exact ⟨skipped "SHARED" (by simp) before, solid⟩
    | shared same some gapBlank =>
        refine ⟨prefers_optional (prefers_append (prefers_any_case same)
          (prefers_many1 some gapBlank solid)), ?_⟩
        cases same with
        | cons letter _ => exact (space_of_same_letter letter).symm
  have opened :
      (textStart ++ many1 isWordChar).Prefers none word (space ++ (modifier ++ body)) [] :=
    prefers_append prefers_text_start (prefers_many1 wordNonempty letters (head _))
  have spaced := prefers_append opened (prefers_many1 nonempty blank (shared none).2)
  have middle := prefers_append spaced (shared _).1
  exact prefers_append middle (skipped "_PRESERVE" (by simp) _)

theorem head_of_dim {word rest : Text} (spelled : SameText "DIM".toList word)
    (edge : rest.head?.any isWordChar = false) :
    declarationHead.startsText (word ++ rest) = true := by
  refine (starts_text_iff ..).mpr ⟨word, rest, rfl, ?_⟩
  rw [declarationHead, takes_append]
  refine ⟨word, [], (List.append_nil _).symm, ?_, ?_⟩
  · rw [takes_append]
    refine ⟨[], word, rfl, (takes_text_start ..).mpr ⟨rfl, rfl⟩, ?_⟩
    exact (takes_or ..).mpr (.inl ((takes_any_case ..).mpr spelled))
  · rw [takes_word_edge, Instrument.edge_behind_letters (by decide) (by decide) spelled]
    exact ⟨rfl, edge⟩

end BasicBench.Check
