import BasicBench.Proofs.DimLists

/-!
The names that a list declares and those that the checks see. The checks look for a type or a value
behind a name, and read bounds up to the first closing parenthesis. A name without a type is missed,
and so is a name whose bounds hold a closing parenthesis: it is reported unless it is declared at
another place.
-/

set_option autoImplicit false

namespace BasicBench.Check

open Text Pattern

/-! Declarations whose type is seen. -/

/-- A type stands behind bounds that hold no closing parenthesis but their own, or what looks like a
type stands behind the first closing parenthesis of the bounds. -/
def DimItem.ShowsDeclared (item : DimItem) : Prop :=
  (¬Blank item.typing ∧ item.bounds.count ')' ≤ 1) ∨
    ∃ gap inner after, item.bounds = gap ++ '(' :: (inner ++ ')' :: after) ∧ Blank gap ∧
      ')' ∉ inner ∧ Announces after

/-- Where a declaration ends: the next one, the next statement or a remark. -/
def EndsItem (rest : Text) : Prop := rest = [] ∨ ∃ c others, rest = c :: others ∧ c ∈ [',', ':', '\'']

theorem announces_head {text : Text} (announces : Announces text) :
    ∃ gap c rest, text = gap ++ c :: rest ∧ Blank gap ∧ (c = '=' ∨ sameLetter 'A' c = true) := by
  obtain ⟨gap, word, rest, rfl, blank, rfl | ⟨same, -⟩⟩ := announces
  · exact ⟨gap, '=', rest, rfl, blank, .inl rfl⟩
  · cases same with
    | cons letter others => exact ⟨gap, _, _, rfl, blank, .inr letter⟩

theorem solid_of_announcing {c : Char} (first : c = '=' ∨ sameLetter 'A' c = true) :
    isSpace c = false ∧ c ∉ ['(', ',', ':', '\''] := by
  rcases first with rfl | letter
  · decide
  · refine ⟨(space_of_same_letter letter).symm, fun member => ?_⟩
    have none : ∀ d ∈ ['(', ',', ':', '\''], sameLetter 'A' d = false :=
      List.all_iff_forall_prop.mp (by decide)
    rw [none c member] at letter
    cases letter

/-- Behind blanks something else than a type or a value stands. -/
theorem not_announces {left rest : Text} (blank : Blank left)
    (other : rest = [] ∨ ∃ c others, rest = c :: others ∧ c ∈ ['(', ',', ':', '\'']) :
    ¬Announces (left ++ rest) := by
  intro announces
  obtain ⟨gap, c, more, split, gapBlank, first⟩ := announces_head announces
  have solid := solid_of_announcing first
  rcases other with rfl | ⟨d, others, rfl, listed⟩
  · rw [List.append_nil] at split
    have space := blank c (by rw [split]; simp)
    rw [solid.1] at space
    cases space
  · have dSolid : isSpace d = false := by
      have known : ∀ e ∈ ['(', ',', ':', '\''], isSpace e = false :=
        List.all_iff_forall_prop.mp (by decide)
      exact known d listed
    obtain ⟨rfl, -⟩ := first_solid_unique blank gapBlank dSolid solid.1 split
    exact solid.2 listed

theorem breaks_other {rest : Text} (breaks : EndsItem rest) :
    rest = [] ∨ ∃ c others, rest = c :: others ∧ c ∈ ['(', ',', ':', '\''] :=
  breaks.imp_right fun ⟨c, others, shape, listed⟩ =>
    ⟨c, others, shape, List.mem_cons_of_mem _ listed⟩

/-- A declaration announces its type when it has one. -/
theorem announces_typing_iff (item : DimItem) {rest : Text} (breaks : EndsItem rest) :
    Announces (item.typing ++ rest) ↔ ¬Blank item.typing := by
  constructor
  · exact fun announces blank => not_announces blank (breaks_other breaks) announces
  · intro typed
    obtain ⟨space, word, kind, shape, blank, -, same, type⟩ := item.typed.resolve_left typed
    refine ⟨space, word, kind ++ rest, by rw [shape]; simp, blank, .inr ⟨same, ?_⟩⟩
    have apart := type.apart
    cases kind with
    | nil => cases apart
    | cons c kind => exact not_word_char_of_space c apart

theorem first_unique {c : Char} {front inside below below' : Text} (absent : c ∉ front)
    (absent' : c ∉ inside) (split : front ++ c :: below = inside ++ c :: below') :
    front = inside ∧ below = below' := by
  obtain ⟨between, rfl, rest⟩ := split_behind absent split
  cases between with
  | nil => exact ⟨(List.append_nil _).symm, (List.cons.inj rest).2⟩
  | cons d between =>
      obtain ⟨rfl, -⟩ := List.cons.inj rest
      exact absurd (List.mem_append_right front List.mem_cons_self) absent'

/-- Nothing behind a closing parenthesis matters to what is announced in front of it. -/
theorem announces_closing_iff (inside rest : Text) :
    Announces (inside ++ ')' :: rest) ↔ Announces (inside ++ [')']) := by
  have closing {gap word : Text} {above rest : Text} (blank : Blank gap)
      (announced : word = ['='] ∨ SameText "AS".toList word ∧ above.head?.any isWordChar = false)
      (split : inside ++ ')' :: rest = gap ++ (word ++ above)) (other : Text) :
      Announces (inside ++ ')' :: other) := by
    have absent : ')' ∉ gap ++ word := by
      rw [List.mem_append, not_or]
      refine ⟨fun member => absurd (blank _ member) (by decide), ?_⟩
      rcases announced with rfl | ⟨same, -⟩
      · decide
      · exact fun member =>
          absurd (Instrument.spelled_letters (by decide) same _ member) (by decide)
    rw [← List.append_assoc] at split
    obtain ⟨between, rfl, behind⟩ := split_behind absent split.symm
    refine ⟨gap, word, between ++ ')' :: other, by simp, blank, announced.imp_right ?_⟩
    rintro ⟨same, edge⟩
    refine ⟨same, ?_⟩
    rw [behind] at edge
    cases between with
    | nil => exact (by decide : isWordChar ')' = false)
    | cons c between => exact edge
  constructor
  · rintro ⟨gap, word, above, split, blank, announced⟩
    exact closing blank announced split []
  · rintro ⟨gap, word, above, split, blank, announced⟩
    exact closing blank announced split rest

theorem announces_behind {gap text : Text} (blank : Blank gap) (announces : Announces text) :
    Announces (gap ++ text) := by
  obtain ⟨space, word, rest, rfl, spaceBlank, announced⟩ := announces
  exact ⟨gap ++ space, word, rest, by simp, (blank_append ..).mpr ⟨blank, spaceBlank⟩, announced⟩

/-- No bounds stand where the type of a declaration stands. -/
theorem typing_opens_nothing (item : DimItem) {rest gap more : Text} (breaks : EndsItem rest)
    (blank : Blank gap) : item.typing ++ rest ≠ gap ++ '(' :: more := by
  intro split
  have listed : '(' ∈ ['(', ',', ':', '\''] := List.mem_cons_self
  by_cases typed : Blank item.typing
  · rcases breaks with rfl | ⟨c, others, rfl, known⟩
    · rw [List.append_nil] at split
      exact absurd (typed '(' (by rw [split]; simp)) (by decide)
    · have solid : isSpace c = false := by
        have all : ∀ e ∈ [',', ':', '\''], isSpace e = false :=
          List.all_iff_forall_prop.mp (by decide)
        exact all c known
      obtain ⟨rfl, -⟩ := first_solid_unique typed blank solid (by decide) split
      exact absurd known (by decide)
  · obtain ⟨space, c, others, announced, spaceBlank, first⟩ :=
      announces_head ((announces_typing_iff item breaks).mpr typed)
    have solid := solid_of_announcing first
    rw [announced] at split
    obtain ⟨rfl, -⟩ := first_solid_unique spaceBlank blank solid.1 (by decide) split
    exact solid.2 listed

section Follows

variable {item : DimItem} {rest : Text}

theorem type_follows_plain_iff (none : item.bounds = []) (breaks : EndsItem rest) :
    TypeFollows (item.behind ++ rest) ↔ item.ShowsDeclared := by
  have typing := announces_typing_iff item breaks
  rw [DimItem.behind, none, List.nil_append]
  constructor
  · rintro ⟨gap, bounds, after, split, blank, rfl | ⟨inner, rfl, -⟩, announces⟩
    · refine .inl ⟨typing.mp ?_, by simp [none]⟩
      rw [split]
      exact announces_behind blank announces
    · exact absurd split (typing_opens_nothing item breaks blank)
  · rintro (⟨typed, -⟩ | ⟨gap, inner, after, shape, -⟩)
    · exact ⟨[], [], _, rfl, blank_nil, .inl rfl, typing.mpr typed⟩
    · simp [none] at shape

/-- Behind bounds what counts is what stands behind the first closing parenthesis. -/
theorem follows_bounds_iff {lead inside after : Text} (blank : Blank lead) (short : ')' ∉ inside) :
    TypeFollows (lead ++ '(' :: (inside ++ ')' :: after)) ↔ Announces after := by
  constructor
  · rintro ⟨gap, bounds, later, split, gapBlank, rfl | ⟨inner, rfl, closing⟩, announces⟩
    · have here : Announces (lead ++ '(' :: (inside ++ ')' :: after)) := by
        rw [split]
        exact announces_behind gapBlank announces
      exact (not_announces blank (.inr ⟨'(', _, rfl, List.mem_cons_self⟩) here).elim
    · have opened : inside ++ ')' :: after = inner ++ ')' :: later := by
        simpa using (first_solid_unique blank gapBlank (by decide) (by decide) split).2
      obtain ⟨-, rfl⟩ := first_unique short closing opened
      exact announces
  · intro announces
    exact ⟨lead, '(' :: (inside ++ [')']), after, by simp, blank, .inr ⟨inside, rfl, short⟩,
      announces⟩

theorem count_bounds {lead inside : Text} (blank : Blank lead)
    (bounds : item.bounds = lead ++ '(' :: (inside ++ [')'])) :
    item.bounds.count ')' ≤ 1 ↔ ')' ∉ inside := by
  have absent : ')' ∉ lead := fun member => absurd (blank _ member) (by decide)
  have count : item.bounds.count ')' = inside.count ')' + 1 := by
    rw [bounds, List.count_append, List.count_eq_zero_of_not_mem absent,
      List.count_cons_of_ne (by decide), List.count_append, Nat.zero_add]
    rfl
  rw [count, ← List.count_eq_zero]
  omega

theorem type_follows_bounds_iff {lead inside : Text} (blank : Blank lead)
    (bounds : item.bounds = lead ++ '(' :: (inside ++ [')'])) (breaks : EndsItem rest) :
    TypeFollows (item.behind ++ rest) ↔ item.ShowsDeclared := by
  have whole : item.behind ++ rest =
      lead ++ '(' :: (inside ++ ')' :: (item.typing ++ rest)) := by
    rw [DimItem.behind, bounds]
    simp
  rw [whole, DimItem.ShowsDeclared, count_bounds blank bounds]
  by_cases short : ')' ∉ inside
  · rw [follows_bounds_iff blank short, announces_typing_iff item breaks]
    refine ⟨fun typed => .inl ⟨typed, short⟩, ?_⟩
    rintro (⟨typed, -⟩ | ⟨gap, inner, after, shape, gapBlank, closing, announces⟩)
    · exact typed
    · -- Behind the only closing parenthesis the bounds have ended.
      rw [bounds] at shape
      obtain ⟨-, same⟩ := first_solid_unique blank gapBlank (by decide) (by decide) shape
      obtain ⟨-, rfl⟩ := first_unique short closing same
      exact (not_announces blank_nil (.inl rfl) announces).elim
  · obtain ⟨inner, after, rfl, closing⟩ := List.eq_append_cons_of_mem (not_not.mp short)
    rw [List.append_assoc, List.cons_append] at bounds ⊢
    rw [follows_bounds_iff blank closing, announces_closing_iff]
    constructor
    · exact fun announces => .inr ⟨lead, inner, after ++ [')'], bounds, blank, closing, announces⟩
    · rintro (⟨-, none⟩ | ⟨gap, inner', after', shape, gapBlank, closing', announces⟩)
      · exact absurd none short
      · rw [bounds] at shape
        obtain ⟨-, same⟩ := first_solid_unique blank gapBlank (by decide) (by decide) shape
        obtain ⟨-, rfl⟩ := first_unique closing closing' same
        exact announces

end Follows

/-- What the checks look for follows a name exactly when its declaration shows its type. -/
theorem type_follows_item_iff (item : DimItem) {rest : Text} (breaks : EndsItem rest) :
    TypeFollows (item.behind ++ rest) ↔ item.ShowsDeclared := by
  rcases item.bounded with none | ⟨lead, inside, bounds, blank, -⟩
  · exact type_follows_plain_iff none breaks
  · exact type_follows_bounds_iff blank bounds breaks

/-! What a list declares. -/

/-- How many characters of the list stand in front of the name of an item. -/
def itemPlace (before : List DimItem) (item : DimItem) : Nat :=
  (commaItems before ++ item.lead).length

/-- The checks see the name in the statement, at another place of the list than this one. -/
def SeenElsewhere (key statement : Text) (place : Nat) : Prop :=
  ∃ found ∈ declaredName.findAll (declarationOpening.dropStart statement),
    found.offset ≠ place ∧ upper (found.group 1) = key

section Lists

variable {before after : List DimItem} {item : DimItem} {statement : Text}

theorem breaks_behind_item {tail : Text}
    (closed : tail = [] ∨ ∃ c others, tail = c :: others ∧ (c = ':' ∨ c = '\'')) :
    EndsItem (laterItems after ++ tail) := by
  cases after with
  | nil =>
      refine closed.imp_right ?_
      rintro ⟨c, others, rfl, known⟩
      exact ⟨c, others, rfl, by simp [known]⟩
  | cons next others => exact .inr ⟨',', _, rfl, List.mem_cons_self⟩

/-- The list of a statement, cut at the name of the item. -/
theorem dims_body (dims : Dims before item after statement) :
    ∃ rest, EndsItem rest ∧ declarationHead.startsText statement = true ∧
      declarationOpening.dropStart statement =
        (commaItems before ++ item.lead) ++ (item.name ++ (item.behind ++ rest)) ∧
      ∀ first ∈ (before ++ [item]).head?, first.lead = [] := by
  cases dims with
  | @list word space modifier tail spelled nonempty blank modified flush free closed =>
      refine ⟨laterItems after ++ tail, breaks_behind_item closed, ?_, ?_, flush⟩
      · refine head_of_dim spelled ?_
        obtain ⟨c, others, rfl⟩ := List.exists_cons_of_ne_nil nonempty
        exact not_word_char_of_space c (blank c List.mem_cons_self)
      · have taken := drop_start_of_prefers
          (opening_prefers spelled nonempty blank modified (list_head _ flush) free)
        rw [List.append_nil, List.append_assoc, List.append_assoc] at taken
        rw [taken, DimItem.text]
        simp only [List.append_assoc]

theorem edge_before_item (before : List DimItem) (item : DimItem) :
    (lastOf none (commaItems before ++ item.lead)).any isWordChar = false := by
  by_cases some : item.lead = []
  · rcases List.eq_nil_or_concat before with rfl | ⟨others, last, rfl⟩
    · rw [some]
      rfl
    · have shape : commaItems (others.concat last) = commaItems others ++ last.text ++ [','] := by
        simp [commaItems]
      rw [some, List.append_nil, shape, last_of_append]
      exact (by decide : isWordChar ',' = false)
  · obtain ⟨c, member, last⟩ := last_of_mem (lastOf none (commaItems before)) item.lead some
    rw [last_of_append, last]
    exact not_word_char_of_space c (item.blank c member)

/-- A name ends where the bounds, the type or the next declaration begins. -/
theorem name_ends (item : DimItem) {rest : Text} (breaks : EndsItem rest) :
    (item.behind ++ rest).head?.any isVariableChar = false := by
  have ofBlank {c : Char} (blank : isSpace c = true) : isVariableChar c = false := by
    cases part : isVariableChar c with
    | false => rfl
    | true =>
        rw [solid_of_name_char part] at blank
        cases blank
  have blanks (gap more : Text) (blank : Blank gap) (stop : more.head?.any isVariableChar = false) :
      (gap ++ more).head?.any isVariableChar = false := by
    cases gap with
    | nil => exact stop
    | cons c gap => exact ofBlank (blank c List.mem_cons_self)
  have known : ∀ c ∈ [',', ':', '\''], isVariableChar c = false :=
    List.all_iff_forall_prop.mp (by decide)
  have stop : rest.head?.any isVariableChar = false := by
    rcases breaks with rfl | ⟨c, others, rfl, listed⟩
    · rfl
    · exact known c listed
  rw [DimItem.behind, List.append_assoc]
  rcases item.bounded with none | ⟨gap, inside, shape, blank, -⟩
  · rw [none, List.nil_append]
    rcases item.typed with blank | ⟨space, word, kind, shape, blank, apart, -⟩
    · exact blanks _ _ blank stop
    · obtain ⟨c, others, rfl⟩ := List.exists_cons_of_ne_nil (apart none)
      rw [shape]
      exact ofBlank (blank c List.mem_cons_self)
  · rw [shape, List.append_assoc]
    exact blanks gap _ blank (by decide : isVariableChar '(' = false)

/-- The checks see the name of a declaration in its place exactly when it shows its type. -/
theorem declared_in_list_iff (dims : Dims before item after statement)
    (plain : IsVariable item.name) :
    upper item.name ∈ declaredBy statement ↔
      item.ShowsDeclared ∨ SeenElsewhere (upper item.name) statement (itemPlace before item) := by
  obtain ⟨rest, breaks, starts, body, flush⟩ := dims_body dims
  obtain ⟨c, others, named, -⟩ := name_head plain
  have stays := stays_before (item.name ++ (item.behind ++ rest)) flush
  have seen := seen_in_place_iff plain (name_ends item breaks) (edge_before_item before item)
  rw [type_follows_item_iff item breaks] at seen
  rw [named, List.cons_append] at stays seen body
  have here := found_at_place_iff stays fun found => upper (found.group 1) = upper item.name
  rw [← named] at seen
  rw [declaredBy, if_pos starts, List.mem_map, SeenElsewhere, body]
  constructor
  · rintro ⟨found, member, same⟩
    by_cases place : found.offset = itemPlace before item
    · exact .inl (seen.mp (here.mp ⟨found, member, place, same⟩))
    · exact .inr ⟨found, member, place, same⟩
  · rintro (shows | ⟨found, member, -, same⟩)
    · obtain ⟨found, member, -, same⟩ := here.mpr (seen.mpr shows)
      exact ⟨found, member, same⟩
    · exact ⟨found, member, same⟩

end Lists

/-- The name is declared in the program, at another place than this one on this line. -/
def DeclaredElsewhere (key : Text) (lines : List SourceLine) (line : SourceLine) (place : Nat) :
    Prop :=
  (∃ other ∈ lines, other.number ≠ line.number ∧ key ∈ declaredBy other.statement) ∨
    SeenElsewhere key line.statement place

theorem declared_in_program_iff {source : Text} {line : SourceLine} {before after : List DimItem}
    {item : DimItem} (member : line ∈ SourceLine.ofText source)
    (dims : Dims before item after line.statement) (plain : IsVariable item.name) :
    upper item.name ∈ declaredNames (SourceLine.ofText source) ↔
      item.ShowsDeclared ∨ DeclaredElsewhere (upper item.name) (SourceLine.ofText source) line
        (itemPlace before item) := by
  have here := declared_in_list_iff dims plain
  rw [declaredNames, List.mem_flatMap, DeclaredElsewhere]
  constructor
  · rintro ⟨other, listed, declared⟩
    by_cases same : other.number = line.number
    · obtain rfl : other = line := by
        have first := (SourceLine.mem_of_text listed).2.1
        have second := (SourceLine.mem_of_text member).2.1
        rw [← same] at second
        exact Option.some.inj (first.symm.trans second)
      exact (here.mp declared).imp_right .inr
    · exact .inr (.inl ⟨other, listed, same, declared⟩)
  · rintro (shows | ⟨other, listed, -, declared⟩ | seen)
    · exact ⟨line, member, here.mpr (.inl shows)⟩
    · exact ⟨other, listed, declared⟩
    · exact ⟨line, member, here.mpr (.inr seen)⟩

/-- Nothing is reported of a variable that a list declares, exactly when its declaration shows its
type, or it is declared at another place, or it is reserved, or nothing assigns to it. -/
theorem dim_quiet_iff (source : Text) (level : Level) (isKeyword : Text → Bool) (line : SourceLine)
    (before after : List DimItem) (item : DimItem) (member : line ∈ SourceLine.ofText source)
    (dims : Dims before item after line.statement) :
    (∀ finding ∈ lineFindings level isKeyword (SourceLine.ofText source),
      ¬ReportsUndeclared (upper item.name) finding) ↔
      item.ShowsDeclared ∨
        DeclaredElsewhere (upper item.name) (SourceLine.ofText source) line
          (itemPlace before item) ∨
        isReserved isKeyword (upper item.name) = true ∨
        ∀ other ∈ SourceLine.ofText source, ¬Assigns (upper item.name) other := by
  constructor
  · intro quiet
    by_contra loud
    simp only [not_or, Bool.not_eq_true, not_forall, not_not] at loud
    obtain ⟨hidden, alone, free, other, listed, assigns⟩ := loud
    have plain := variable_of_assigned item.identifier assigns
    have fresh : upper item.name ∉ declaredNames (SourceLine.ofText source) := by
      rw [declared_in_program_iff member dims plain, not_or]
      exact ⟨hidden, alone⟩
    obtain ⟨finding, found, reports⟩ :=
      reported_of_once (reported_once_from level fresh free ⟨other, listed, assigns⟩)
    exact quiet finding found reports
  · intro settled finding found reports
    obtain ⟨⟨other, listed, assigns⟩, fresh, free⟩ :=
      assigned_of_reported source level isKeyword _ ⟨finding, found, reports⟩
    rw [declared_in_program_iff member dims (variable_of_assigned item.identifier assigns),
      not_or] at fresh
    rcases settled with shows | elsewhere | reserved | unassigned
    · exact fresh.1 shows
    · exact fresh.2 elsewhere
    · rw [reserved] at free
      cases free
    · exact unassigned other listed assigns

/-! Two lists. -/

theorem paired_of_free {text : Text} (free : ∀ c ∈ text, c ∉ ['(', ')', '"']) : Paired text := by
  induction text with
  | nil => exact .nil
  | cons c text induction =>
      rw [List.forall_mem_cons] at free
      exact .plain free.1 (induction free.2)

theorem type_name_of_free {kind : Text} (apart : kind.head?.any isSpace = true)
    (named : ∃ c ∈ kind, isSpace c = false)
    (free : ∀ c ∈ kind, c ∉ ['(', ')', '"'] ∧ c ∉ [',', ':', '\'', '"']) : TypeName kind where
  apart := apart
  named blank := by
    obtain ⟨c, member, solid⟩ := named
    rw [blank c member] at solid
    cases solid
  paired := paired_of_free fun c member => (free c member).1
  ends c member := (free c member).2

theorem blank_space : Blank [' '] := List.all_eq_true.mp (by decide)

theorem not_goes_on {word : String} {c : Char} {rest : Text}
    (other : word.toList.head?.any (fun letter => !sameLetter letter c) = true) :
    ¬GoesOnWith word (c :: rest) := by
  rintro ⟨form, gap, more, split, same, -⟩
  cases letters : word.toList with
  | nil => simp [letters] at other
  | cons letter others =>
      rw [letters] at other same
      cases same with
      | cons here _ =>
          obtain ⟨rfl, -⟩ := List.cons.inj split
          have apart : (!sameLetter letter c) = true := other
          rw [here] at apart
          cases apart

/-- A variable without bounds and without a type. -/
def countItem : DimItem where
  lead := []
  name := "count".toList
  bounds := []
  typing := []
  blank := blank_nil
  identifier := ⟨"count".toList, [], rfl, by decide, List.all_eq_true.mp (by decide), .inl rfl⟩
  bounded := .inl rfl
  typed := .inl blank_nil

/-- A table with two bounds. -/
def gridItem : DimItem where
  lead := []
  name := "grid".toList
  bounds := "(1 TO 8, 3)".toList
  typing := " AS INTEGER".toList
  blank := blank_nil
  identifier := ⟨"grid".toList, [], rfl, by decide, List.all_eq_true.mp (by decide), .inl rfl⟩
  bounded := .inr ⟨[], "1 TO 8, 3".toList, rfl, blank_nil,
    paired_of_free (List.all_iff_forall_prop.mp (by decide))⟩
  typed := .inr ⟨[' '], "AS".toList, " INTEGER".toList, rfl, blank_space, fun _ => by decide,
    same_text_refl _, type_name_of_free (by decide) ⟨'I', by decide, by decide⟩
      (List.all_iff_forall_prop.mp (by decide))⟩

/-- A text of fixed length, second in its list. -/
def labelItem : DimItem where
  lead := [' ']
  name := "label$".toList
  bounds := []
  typing := " AS STRING * 8 ".toList
  blank := blank_space
  identifier := ⟨"label".toList, ['$'], rfl, by decide, List.all_eq_true.mp (by decide),
    .inr ⟨'$', rfl, by decide⟩⟩
  bounded := .inl rfl
  typed := .inr ⟨[' '], "AS".toList, " STRING * 8 ".toList, rfl, blank_space, fun _ => by decide,
    same_text_refl _, type_name_of_free (by decide) ⟨'S', by decide, by decide⟩
      (List.all_iff_forall_prop.mp (by decide))⟩

/-- A list behind `SHARED` with a remark behind it. -/
def sharedList : SourceLine :=
  ⟨1, "DIM SHARED grid(1 TO 8, 3) AS INTEGER, label$ AS STRING * 8 ' names".toList⟩

theorem label_is_declared : Dims [gridItem] labelItem [] sharedList.statement := by
  have apart : ∀ word ∈ ["SHARED", "_PRESERVE"],
      word.toList.head?.any (fun letter => !sameLetter letter 'g') = true := by decide
  have dims : Dims [gridItem] labelItem [] ("DIM".toList ++ ([' '] ++ (("SHARED".toList ++ [' ']) ++
      (commaItems [gridItem] ++ (labelItem.text ++ (laterItems [] ++ "' names".toList)))))) :=
    .list (same_text_refl _) (by decide) blank_space (.shared (same_text_refl _) (by decide)
      blank_space) (by rintro first ⟨⟩; rfl) (fun word listed => not_goes_on (apart word listed))
      (.inr ⟨'\'', _, rfl, .inr rfl⟩)
  have statement : sharedList.statement = "DIM".toList ++ ([' '] ++ (("SHARED".toList ++ [' ']) ++
      (commaItems [gridItem] ++ (labelItem.text ++ (laterItems [] ++ "' names".toList))))) := by
    decide +kernel
  rw [statement]
  exact dims

theorem label_is_not_reported :
    ¬∃ finding ∈ lineFindings .strict (fun _ => false)
        (SourceLine.ofText (sharedList.text ++ "\nlabel$ = \"x\"".toList)),
      ReportsUndeclared (upper labelItem.name) finding := by
  have typed : ¬Blank labelItem.typing := fun blank => absurd (blank 'A' (by decide)) (by decide)
  have shows : labelItem.ShowsDeclared := .inl ⟨typed, by decide⟩
  have member : sharedList ∈ SourceLine.ofText (sharedList.text ++ "\nlabel$ = \"x\"".toList) :=
    .head _
  have quiet := (dim_quiet_iff _ .strict (fun _ => false) sharedList [gridItem] [] labelItem member
    label_is_declared).mpr (.inl shows)
  rintro ⟨finding, listed, reports⟩
  exact quiet finding listed reports

/-- The only declaration of a list has no type, and its variable is reported. -/
theorem untyped_name_is_reported :
    Dims [] countItem [] (SourceLine.statement ⟨1, "DIM count".toList⟩) ∧
      ∃ finding ∈ lineFindings .basic (fun _ => false)
          (SourceLine.ofText "DIM count\ncount = 5".toList),
        ReportsUndeclared (upper countItem.name) finding := by
  refine ⟨?_, undeclaredFinding ⟨2, "count = 5".toList⟩ "count".toList, by decide +kernel,
    (reports_undeclared_iff ..).mpr rfl⟩
  have apart : ∀ word ∈ ["SHARED", "_PRESERVE"],
      word.toList.head?.any (fun letter => !sameLetter letter 'c') = true := by decide
  have dims : Dims [] countItem [] ("DIM".toList ++ ([' '] ++ ([] ++
      (commaItems [] ++ (countItem.text ++ (laterItems [] ++ [])))))) :=
    .list (same_text_refl _) (by decide) blank_space .none (by rintro first ⟨⟩; rfl)
      (fun word listed => not_goes_on (apart word listed)) (.inl rfl)
  have statement : SourceLine.statement ⟨1, "DIM count".toList⟩ = "DIM".toList ++ ([' '] ++ ([] ++
      (commaItems [] ++ (countItem.text ++ (laterItems [] ++ []))))) := by
    decide +kernel
  rw [statement]
  exact dims

end BasicBench.Check
