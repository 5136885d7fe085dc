import BasicBench.Proofs.Exchange
import BasicBench.Proofs.Leading
import BasicBench.Proofs.Lines

/-!
The shape of markers. An opening marker is a title between two fixed texts and blanks. No edit
makes one: the first word that an edit exchanges stands behind the opening text, the last one in
front of the closing text, so the line was a marker before.
-/

set_option autoImplicit false

namespace BasicBench.Instrument

open Text Pattern

/-! Markers. -/

def openingHead : String := "' === DEBUG BEGIN: "

def markerTail : String := " ==="

/-- The shape of an opening marker: a title between two fixed texts. -/
def OpeningShape (line : Text) : Prop :=
  ∃ left title right, Blank left ∧ Blank right ∧ title ≠ [] ∧ (∀ c ∈ title, inLine c = true) ∧
    line = left ++ (openingHead.toList ++ (title ++ (markerTail.toList ++ right)))

theorem opening_head_split : openingHead.toList =
    "' === DEBUG ".toList ++ ("BEGIN".toList ++ ": ".toList) := by decide

/-- What the first group of a marker holds, with the line around it. -/
theorem reads_marker (piece rest : Text) (found : List (Nat × Text))
    (reads : marker.Reads none piece rest found) :
    ∃ left kind title right, Blank left ∧ Blank right ∧ title ≠ [] ∧
      (∀ c ∈ title, inLine c = true) ∧ (kind = "BEGIN".toList ∨ kind = "END".toList) ∧
      piece ++ rest = left ++ ("' === DEBUG ".toList ++ (kind ++ (": ".toList ++
        (title ++ (markerTail.toList ++ right))))) ∧
      found = [(1, kind)] := by
  obtain ⟨_, stop, rfl, reads, takesStop⟩ := reads_append_plain rfl reads
  obtain ⟨_, right, rfl, reads, takesRight⟩ := reads_append_plain rfl reads
  obtain ⟨_, tail, rfl, reads, takesTail⟩ := reads_append_plain rfl reads
  obtain ⟨_, title, rfl, reads, takesTitle⟩ := reads_append_plain rfl reads
  obtain ⟨_, colon, rfl, reads, takesColon⟩ := reads_append_plain rfl reads
  obtain ⟨_, kind, _, rfl, rfl, reads, takesKind⟩ := reads_append_capture rfl reads
  obtain ⟨_, head, rfl, reads, takesHead⟩ := reads_append_plain rfl reads
  obtain ⟨start, left, rfl, reads, takesLeft⟩ := reads_append_plain rfl reads
  obtain rfl := plain_reads_nothing _ rfl _ _ _ _ reads
  have takesStart : textStart.Takes none start _ := ⟨[], reads⟩
  simp only [takes_text_end, takes_blanks, takes_exactly, takes_few1, takes_or,
    takes_text_start] at *
  obtain ⟨rfl, ending⟩ := takesStop
  obtain ⟨rfl, -⟩ := takesStart
  subst takesTail takesColon takesHead
  refine ⟨left, kind, title, right ++ rest, takesLeft, ?_, takesTitle.1, takesTitle.2, takesKind,
    ?_, rfl⟩
  · rcases ending with rfl | rfl
    · simpa using takesRight
    · exact (blank_append ..).mpr ⟨takesRight, by simp [Blank]; decide⟩
  · simp only [markerTail, List.append_assoc, List.nil_append]

theorem marker_kind_of_found (line : Text) (found : Found)
    (matched : marker.atStart? line = some found) :
    ∃ left kind title right, Blank left ∧ Blank right ∧ title ≠ [] ∧
      (∀ c ∈ title, inLine c = true) ∧ (kind = "BEGIN".toList ∨ kind = "END".toList) ∧
      line = left ++ ("' === DEBUG ".toList ++ (kind ++ (": ".toList ++
        (title ++ (markerTail.toList ++ right))))) ∧
      markerKind? line = some (if kind == "BEGIN".toList then .opening else .closing) := by
  obtain ⟨piece, rest, rfl, reads⟩ := at_start_some _ _ _ matched
  obtain ⟨left, kind, title, right, blankLeft, blankRight, some, plain, either, shape, groups⟩ :=
    reads_marker _ _ _ reads
  refine ⟨left, kind, title, right, blankLeft, blankRight, some, plain, either, shape, ?_⟩
  have group : found.group 1 = kind := by
    simp [Found.group, Found.group?, groups]
  rw [markerKind?, matched, Option.map_some, group]

theorem opening_iff (line : Text) : markerKind? line = some .opening ↔ OpeningShape line := by
  constructor
  · intro opening
    obtain ⟨found, matched, -⟩ := Option.map_eq_some_iff.mp opening
    obtain ⟨left, kind, title, right, blankLeft, blankRight, some, plain, either, shape, told⟩ :=
      marker_kind_of_found line found matched
    rcases either with rfl | rfl
    · refine ⟨left, title, right, blankLeft, blankRight, some, plain, ?_⟩
      rw [shape, opening_head_split]
      simp only [List.append_assoc]
    · rw [opening] at told
      exact absurd told (by decide)
  · rintro ⟨left, title, right, blankLeft, blankRight, some, plain, rfl⟩
    have starts : marker.startsText
        (left ++ (openingHead.toList ++ (title ++ (markerTail.toList ++ right)))) = true := by
      rw [starts_text_iff]
      refine ⟨_, [], (List.append_nil _).symm, ?_⟩
      simp only [marker, takes_append, takes_text_start, takes_blanks, takes_exactly, takes_capture,
        takes_or, takes_few1, takes_text_end]
      refine ⟨left ++ (openingHead.toList ++ (title ++ (markerTail.toList ++ right))), [],
        (List.append_nil _).symm, ⟨left ++ (openingHead.toList ++ (title ++ markerTail.toList)),
          right, by simp, ⟨left ++ (openingHead.toList ++ title), _, by simp [markerTail],
            ⟨left ++ openingHead.toList, title, by simp, ⟨left ++ "' === DEBUG BEGIN".toList, _,
              ?_, ⟨left ++ "' === DEBUG ".toList, _, ?_, ⟨left, _, rfl, ⟨[], left, rfl, ?_,
                blankLeft⟩, rfl⟩, .inl rfl⟩, rfl⟩, some, plain⟩, rfl⟩, blankRight⟩, rfl, .inl trivial⟩
      · rw [List.append_assoc]
        exact congrArg (left ++ ·) (by decide)
      · rw [List.append_assoc]
        exact congrArg (left ++ ·) (by decide)
      · exact ⟨rfl, trivial⟩
    obtain ⟨found, matched⟩ := Option.isSome_iff_exists.mp starts
    obtain ⟨left', kind, title', right', blank, -, -, -, either, shape, told⟩ :=
      marker_kind_of_found _ found matched
    rcases either with rfl | rfl
    · rw [told]
      rfl
    · exfalso
      rw [opening_head_split] at shape
      have apostrophe : "' === DEBUG ".toList = '\'' :: " === DEBUG ".toList := by decide
      rw [apostrophe] at shape
      simp only [List.append_assoc, List.cons_append] at shape
      obtain ⟨-, same⟩ := blank_prefix_unique _ _ _ _ _ _ blankLeft blank (by decide) (by decide)
        shape
      have same := List.append_cancel_left (List.cons.inj same).2
      rw [show "BEGIN".toList = 'B' :: "EGIN".toList by decide,
        show "END".toList = 'E' :: "ND".toList by decide, List.cons_append,
        List.cons_append, List.cons.injEq] at same
      exact absurd same.1 (by decide)

/-- Behind its indentation a marker begins with an apostrophe. -/
theorem marker_kind_of_head (left rest : Text) (c : Char) (blank : Blank left)
    (solid : isSpace c = false) (other : c ≠ '\'') : markerKind? (left ++ c :: rest) = none := by
  cases told : markerKind? (left ++ c :: rest) with
  | none => rfl
  | some kind =>
      obtain ⟨found, matched, -⟩ := Option.map_eq_some_iff.mp told
      obtain ⟨left', kind', title, right, blank', -, -, -, -, shape, -⟩ :=
        marker_kind_of_found _ found matched
      have apostrophe : "' === DEBUG ".toList = '\'' :: " === DEBUG ".toList := by decide
      rw [apostrophe, List.cons_append] at shape
      obtain ⟨-, same⟩ := blank_prefix_unique _ _ _ _ _ _ blank blank' solid (by decide) shape
      exact absurd (List.cons.inj same).1 other

theorem marker_kind_of_blank (line : Text) (blank : Blank line) : markerKind? line = none := by
  cases told : markerKind? line with
  | none => rfl
  | some kind =>
      obtain ⟨found, matched, -⟩ := Option.map_eq_some_iff.mp told
      obtain ⟨left, kind', title, right, -, -, -, -, -, shape, -⟩ :=
        marker_kind_of_found _ found matched
      have apostrophe := blank '\'' (by
        rw [shape, show "' === DEBUG ".toList = '\'' :: " === DEBUG ".toList by decide]
        simp)
      exact absurd apostrophe (by decide)

/-- A line led by another word than an apostrophe is no marker. -/
theorem marker_kind_of_leads {word line : Text} (leads : Leads word line)
    (apart : isHeaded word = true ∧ word.head? ≠ some '\'') : markerKind? line = none := by
  obtain ⟨left, rest, blank, opens, rfl⟩ := leads
  obtain ⟨letter, others, rfl, solid⟩ := headed_cons word apart.1
  obtain ⟨form, more, rfl, same⟩ := opens
  cases same with
  | @cons _ c _ _ first _ =>
      refine marker_kind_of_head left _ c blank ((space_of_same_letter first).symm.trans solid) ?_
      rintro rfl
      have special := beq_iff_eq.mp first
      rcases capital_codes letter with ⟨low, high, code⟩ | ⟨-, code⟩ | fixed
      · rw [special] at code
        have value : (capital '\'').toNat = 39 := by decide
        omega
      · rw [special] at code
        exact absurd code (by decide)
      · rw [fixed] at special
        exact apart.2 (by rw [List.head?_cons, special]; decide)

theorem opening_shape_indent (left line : Text) (blank : Blank left) :
    OpeningShape (left ++ line) ↔ OpeningShape line := by
  have apostrophe : openingHead.toList = '\'' :: " === DEBUG BEGIN: ".toList := by decide
  constructor
  · rintro ⟨gap, title, right, blankGap, blankRight, some, plain, split⟩
    rcases List.append_eq_append_iff.mp split with ⟨between, rfl, rfl⟩ | ⟨between, rfl, split'⟩
    · exact ⟨between, title, right, ((blank_append ..).mp blankGap).2, blankRight, some, plain, rfl⟩
    · cases between with
      | nil =>
          exact ⟨[], title, right, by simp [Blank], blankRight, some, plain, split'.symm⟩
      | cons c between =>
          rw [apostrophe, List.cons_append, List.cons_append, List.cons.injEq] at split'
          have solid := blank c (by simp)
          rw [← split'.1] at solid
          exact absurd solid (by decide)
  · rintro ⟨gap, title, right, blankGap, blankRight, some, plain, rfl⟩
    exact ⟨left ++ gap, title, right, (blank_append ..).mpr ⟨blank, blankGap⟩, blankRight, some,
      plain, by simp⟩

theorem steady_opening_head : Edit.Steady (textStart ++ blanks ++ exactly openingHead) :=
  Edit.steady_append (Edit.steady_append Edit.steady_text_start Edit.steady_blanks)
    (Edit.steady_exactly openingHead (by decide))

/-- Cutting a text in front of a tail that the cut cannot reach into. -/
theorem cut_before_tail (whole front tail rest : Text) (c : Char)
    (split : whole ++ tail = front ++ rest) (last : front.getLast? = some c) (absent : c ∉ tail) :
    ∃ between, whole = front ++ between ∧ rest = between ++ tail := by
  rcases List.append_eq_append_iff.mp split with ⟨between, rfl, rfl⟩ | ⟨between, rfl, rfl⟩
  · cases between with
    | nil => exact ⟨[], by simp, rfl⟩
    | cons d between =>
        rw [List.getLast?_append, List.getLast?_cons, Option.some_or] at last
        have member := List.mem_of_getLast? (List.getLast?_cons.trans last)
        exact absurd (List.mem_append_left _ member) absent
  · exact ⟨between, rfl, rfl⟩

theorem in_line_of_unbroken {text : Text} (unbroken : Unbroken text) :
    ∀ c ∈ text, inLine c = true := by
  intro c member
  have kept := unbroken c member
  simp only [inLine, bne_iff_ne, ne_eq]
  rintro rfl
  exact absurd kept (by decide)

/-- A line that an edit turns into an opening marker was one before. -/
theorem opening_shape_of_apply (edit : Edit) (line : Text) (unbroken : Unbroken line)
    (shape : OpeningShape (edit.apply line)) : OpeningShape line := by
  rcases edit.apply_exchanges line with same | ⟨kept, old, new, tail, exchange⟩
  · rwa [same] at shape
  · obtain ⟨left, title, right, blankLeft, blankRight, -, plain, split⟩ := shape
    rw [exchange.after, ← List.append_assoc, ← List.append_assoc, ← List.append_assoc,
      ← List.append_assoc] at split
    obtain ⟨c, last, closes⟩ := exchange.closes
    -- The last word that was put in stands in front of the closing text.
    have absent : c ∉ markerTail.toList ++ right := by
      rw [List.mem_append, not_or]
      constructor
      · rcases closes with rfl | rfl <;> decide
      · intro member
        have blank := blankRight c member
        rcases closes with rfl | rfl <;> exact absurd blank (by decide)
    obtain ⟨between, front, rest⟩ := cut_before_tail (left ++ openingHead.toList ++ title)
      (kept ++ new) (markerTail.toList ++ right) tail c (by rw [← List.append_assoc]; exact split.symm)
      (by rw [List.getLast?_append, last, Option.some_or]) absent
    -- The first one stands behind the opening text.
    have stops := (steady_opening_head edit (old ++ between) (new ++ between)
      (Edit.opens_left exchange.opensOld) (Edit.opens_left exchange.opensNew)).2
    obtain ⟨middle, keptSplit, titleSplit, -⟩ := stops none kept (left ++ openingHead.toList) title
      exchange.follows (by rw [front, List.append_assoc]) (by
        simp only [takes_append, takes_text_start, takes_blanks, takes_exactly]
        exact ⟨left, openingHead.toList, rfl, ⟨[], left, rfl, ⟨rfl, trivial⟩, blankLeft⟩, rfl⟩)
    have nonempty : old ≠ [] := by
      obtain ⟨d, others, shape, -⟩ := edit.name_head_of_key exchange.opensOld
      rw [shape]
      simp
    subst titleSplit
    refine ⟨left, middle ++ (old ++ between), right, blankLeft, blankRight, by simp [nonempty], ?_,
      ?_⟩
    · intro d member
      rw [List.mem_append, List.mem_append] at member
      rcases member with inside | inside | inside
      · exact plain d (by simp [inside])
      · refine in_line_of_unbroken unbroken d ?_
        rw [exchange.before]
        simp [inside]
      · exact plain d (by simp [inside])
    · rw [exchange.before, keptSplit, rest]
      simp only [List.append_assoc]

end BasicBench.Instrument
