import BasicBench.Proofs.Markers

/-!
The nesting of blocks over a whole program. A line outside blocks leaves the nesting closed, so
such lines can be edited, dropped and added without any other line changing sides, as long as
none of them becomes an opening marker. A block that is put in opens and closes the nesting
itself, whatever the nesting is where it is put.
-/

set_option autoImplicit false

namespace BasicBench.Instrument

open Text Pattern

/-- The lines, each with the side it stands on when the nesting before them is `depth`. -/
def tagFrom (depth : Nat) : List Text → List (Text × Bool)
  | [] => []
  | line :: rest => (line, isInside depth line) :: tagFrom (depthAfter depth line) rest

theorem masked_eq (lines : List Text) : masked lines = tagFrom 0 lines := by
  suffices general : ∀ depth, lines.zip (maskFrom depth lines) = tagFrom depth lines from general 0
  intro depth
  induction lines generalizing depth with
  | nil => rfl
  | cons line rest induction => simp only [maskFrom, List.zip_cons_cons, induction, tagFrom]

@[simp] theorem lines_of_tag_from (depth : Nat) (lines : List Text) :
    (tagFrom depth lines).map (·.1) = lines := by
  induction lines generalizing depth with
  | nil => rfl
  | cons line rest induction => simp only [tagFrom, List.map_cons, induction]

@[simp] theorem lines_of_masked (lines : List Text) : (masked lines).map (·.1) = lines := by
  rw [masked_eq, lines_of_tag_from]

/-- The nesting behind several lines. -/
def depthThrough (depth : Nat) (lines : List Text) : Nat := lines.foldl depthAfter depth

theorem depth_through_append (depth : Nat) (above below : List Text) :
    depthThrough depth (above ++ below) = depthThrough (depthThrough depth above) below :=
  List.foldl_append

theorem tag_from_append (depth : Nat) (above below : List Text) :
    tagFrom depth (above ++ below) =
      tagFrom depth above ++ tagFrom (depthThrough depth above) below := by
  induction above generalizing depth with
  | nil => rfl
  | cons line above induction =>
      simp only [List.cons_append, tagFrom, induction, depthThrough, List.foldl_cons]

theorem mem_of_mem_masked {line : Text} {inside : Bool} {lines : List Text}
    (member : (line, inside) ∈ masked lines) : line ∈ lines := by
  rw [← lines_of_masked lines]
  exact List.mem_map_of_mem member

/-! Lines outside blocks. -/

theorem outside_iff (depth : Nat) (line : Text) :
    isInside depth line = false ↔ depth = 0 ∧ ¬OpeningShape line := by
  rw [isInside, ← opening_iff]
  simp

/-- A line outside blocks leaves the nesting closed. -/
theorem depth_after_outside (depth : Nat) (line : Text) (outside : isInside depth line = false) :
    depthAfter depth line = 0 := by
  obtain ⟨rfl, plain⟩ := (outside_iff depth line).mp outside
  rw [← opening_iff] at plain
  cases told : markerKind? line with
  | none => simp [depthAfter, told]
  | some kind =>
      cases kind with
      | opening => exact absurd told plain
      | closing => simp [depthAfter, told]

theorem mem_outside {depth : Nat} {line : Text} {lines : List Text}
    (member : (line, false) ∈ tagFrom depth lines) : ¬OpeningShape line := by
  induction lines generalizing depth with
  | nil => simp [tagFrom] at member
  | cons first rest induction =>
      rcases List.mem_cons.mp member with here | later
      · rw [Prod.mk.injEq] at here
        rw [here.1]
        exact ((outside_iff depth first).mp here.2.symm).2
      · exact induction later

theorem not_opening_of_outside {line : Text} {lines : List Text}
    (member : (line, false) ∈ masked lines) : ¬OpeningShape line := by
  rw [masked_eq] at member
  exact mem_outside member

/-- Lines with sides that are the sides on which they stand. -/
def Nested (depth : Nat) (tagged : List (Text × Bool)) : Prop :=
  tagFrom depth (tagged.map (·.1)) = tagged

theorem nested_tag_from (depth : Nat) (lines : List Text) : Nested depth (tagFrom depth lines) := by
  rw [Nested, lines_of_tag_from]

theorem nested_masked (lines : List Text) : Nested 0 (masked lines) := by
  rw [masked_eq]
  exact nested_tag_from 0 lines

theorem masked_of_nested {tagged : List (Text × Bool)} (nested : Nested 0 tagged) :
    masked (tagged.map (·.1)) = tagged := by
  rw [masked_eq]
  exact nested

theorem nested_nil (depth : Nat) : Nested depth [] := rfl

theorem nested_cons_iff (depth : Nat) (line : Text) (inside : Bool)
    (rest : List (Text × Bool)) :
    Nested depth ((line, inside) :: rest) ↔
      isInside depth line = inside ∧ Nested (depthAfter depth line) rest := by
  simp only [Nested, List.map_cons, tagFrom, List.cons.injEq, Prod.mk.injEq, true_and]

theorem nested_append_iff (depth : Nat) (above below : List (Text × Bool)) :
    Nested depth (above ++ below) ↔
      Nested depth above ∧ Nested (depthThrough depth (above.map (·.1))) below := by
  induction above generalizing depth with
  | nil => simp [nested_nil, depthThrough]
  | cons first above induction =>
      obtain ⟨line, inside⟩ := first
      rw [List.cons_append, nested_cons_iff, nested_cons_iff, induction, and_assoc]
      rfl

/-- Lines that open no block stand outside where the nesting is closed, and leave it closed. -/
theorem tag_from_plain_lines (fresh rest : List Text)
    (plain : ∀ line ∈ fresh, ¬OpeningShape line) :
    tagFrom 0 (fresh ++ rest) = fresh.map (·, false) ++ tagFrom 0 rest := by
  induction fresh with
  | nil => rfl
  | cons line fresh induction =>
      have outside : isInside 0 line = false := (outside_iff 0 line).mpr ⟨rfl, plain line (by simp)⟩
      rw [List.cons_append, tagFrom, depth_after_outside 0 line outside, outside,
        induction fun other member => plain other (by simp [member])]
      rfl

theorem masked_of_unmarked {lines : List Text} (unmarked : ∀ line ∈ lines, markerKind? line = none) :
    masked lines = lines.map (·, false) := by
  have plain : ∀ line ∈ lines, ¬OpeningShape line := by
    intro line member
    rw [← opening_iff, unmarked line member]
    simp
  have tagged := tag_from_plain_lines lines [] plain
  rwa [List.append_nil, tagFrom, List.append_nil, ← masked_eq] at tagged

theorem nested_outside_lines (fresh : List Text) (plain : ∀ line ∈ fresh, ¬OpeningShape line)
    (rest : List (Text × Bool)) :
    Nested 0 (fresh.map (·, false) ++ rest) ↔ Nested 0 rest := by
  have lines : (fresh.map (·, false)).map (·.1) = fresh := by simp [Function.comp_def]
  rw [Nested, List.map_append, lines, tag_from_plain_lines fresh _ plain,
    List.append_cancel_left_eq]
  rfl

/-- Lines that differ outside blocks only: in place of each line outside there are any lines that
open no block. -/
inductive Reworks : List (Text × Bool) → List (Text × Bool) → Prop
  | done : Reworks [] []
  | inside (line : Text) (rest out : List (Text × Bool)) (next : Reworks rest out) :
      Reworks ((line, true) :: rest) ((line, true) :: out)
  | outside (line : Text) (fresh : List Text) (rest out : List (Text × Bool))
      (plain : ∀ other ∈ fresh, ¬OpeningShape other) (next : Reworks rest out) :
      Reworks ((line, false) :: rest) (fresh.map (·, false) ++ out)

/-- Work outside blocks leaves every other line on its side. -/
theorem nested_of_reworks {depth : Nat} {before after : List (Text × Bool)}
    (reworks : Reworks before after) (nested : Nested depth before) : Nested depth after := by
  induction reworks generalizing depth with
  | done => exact nested
  | inside line rest out _ induction =>
      rw [nested_cons_iff] at nested ⊢
      exact ⟨nested.1, induction nested.2⟩
  | outside line fresh rest out plain _ induction =>
      rw [nested_cons_iff] at nested
      obtain ⟨closed, -⟩ := (outside_iff depth line).mp nested.1
      have later := induction nested.2
      rw [depth_after_outside depth line nested.1] at later
      rw [closed, nested_outside_lines fresh plain]
      exact later

theorem masked_of_reworks {lines : List Text} {after : List (Text × Bool)}
    (reworks : Reworks (masked lines) after) : masked (after.map (·.1)) = after :=
  masked_of_nested (nested_of_reworks reworks (nested_masked lines))

/-- An edit of the lines outside blocks. -/
theorem reworks_map {edit : Text → Text} {tagged : List (Text × Bool)}
    (plain : ∀ line, (line, false) ∈ tagged → ¬OpeningShape (edit line)) :
    Reworks tagged (tagged.map fun (line, inside) => (if inside then line else edit line, inside)) := by
  induction tagged with
  | nil => exact .done
  | cons first rest induction =>
      obtain ⟨line, inside⟩ := first
      have later := induction fun other member => plain other (by simp [member])
      cases inside with
      | true => exact .inside line rest _ later
      | false =>
          refine .outside line [edit line] rest _ ?_ later
          intro other member
          rw [List.mem_singleton.mp member]
          exact plain line (by simp)

theorem masked_edit_outside (edit : Text → Text) (lines : List Text)
    (plain : ∀ line, (line, false) ∈ masked lines → ¬OpeningShape (edit line)) :
    masked (editOutside edit lines) = (masked lines).map fun (line, inside) =>
      (if inside then line else edit line, inside) := by
  have same := masked_of_reworks (reworks_map plain)
  rw [List.map_map] at same
  exact same

/-! Blocks. -/

/-- Lines that open and close the nesting themselves, wherever they are put. -/
def SelfContained (added : List Text) : Prop :=
  ∀ depth, tagFrom depth added = added.map (·, true) ∧ depthThrough depth added = depth

theorem inside_plain_lines (depth : Nat) (body : List Text)
    (plain : ∀ line ∈ body, markerKind? line = none) :
    tagFrom (depth + 1) body = body.map (·, true) ∧ depthThrough (depth + 1) body = depth + 1 := by
  induction body with
  | nil => exact ⟨rfl, rfl⟩
  | cons line body induction =>
      have none := plain line (by simp)
      have later := induction fun other member => plain other (by simp [member])
      have stays : depthAfter (depth + 1) line = depth + 1 := by simp [depthAfter, none]
      constructor
      · simp [tagFrom, stays, later.1, isInside]
      · rw [depthThrough, List.foldl_cons, stays]
        exact later.2

theorem opening_marker_split (feature : Feature) : openingMarker feature =
    openingHead.toList ++ (feature.title.toList ++ markerTail.toList) := by
  rw [openingMarker, String.toList_append, String.toList_append, List.append_assoc]
  rfl

theorem title_in_line (feature : Feature) :
    feature.title.toList ≠ [] ∧ ∀ c ∈ feature.title.toList, inLine c = true := by
  have fits : ∀ chars : List Char, (!chars.isEmpty && chars.all inLine) = true →
      (String.ofList chars).toList ≠ [] ∧ ∀ c ∈ (String.ofList chars).toList, inLine c = true := by
    intro chars plain
    rw [String.toList_ofList]
    simpa using plain
  cases feature <;> exact fits _ (by decide)

theorem marker_kind_of_opening (feature : Feature) :
    markerKind? (openingMarker feature) = some .opening := by
  refine (opening_iff _).mpr ⟨[], feature.title.toList, [], blank_nil, blank_nil,
    (title_in_line feature).1, (title_in_line feature).2, ?_⟩
  rw [opening_marker_split, List.append_nil, List.nil_append]

theorem marker_kind_of_closing (feature : Feature) :
    markerKind? (closingMarker feature) = some .closing := by
  cases feature <;> decide

theorem contained_block (feature : Feature) (body : List Text)
    (plain : ∀ line ∈ body, markerKind? line = none) : SelfContained (block feature body) := by
  intro depth
  have opened : depthAfter depth (openingMarker feature) = depth + 1 := by
    simp [depthAfter, marker_kind_of_opening]
  have closed : depthAfter (depth + 1) (closingMarker feature) = depth := by
    simp [depthAfter, marker_kind_of_closing]
  obtain ⟨bodyTags, bodyDepth⟩ := inside_plain_lines depth body plain
  rw [block, List.append_assoc, List.singleton_append]
  constructor
  · rw [tagFrom, opened, tag_from_append, bodyTags, bodyDepth]
    simp [tagFrom, isInside, marker_kind_of_opening]
  · rw [depthThrough, List.foldl_cons, opened, List.foldl_append]
    change depthThrough (depthThrough (depth + 1) body) [closingMarker feature] = depth
    rw [bodyDepth]
    exact closed

theorem nested_contained {added : List Text} (contained : SelfContained added) (depth : Nat)
    (rest : List (Text × Bool)) :
    Nested depth (added.map (·, true) ++ rest) ↔ Nested depth rest := by
  have lines : (added.map (·, true)).map (·.1) = added := by simp [Function.comp_def]
  rw [nested_append_iff, lines, (contained depth).2, Nested, lines, (contained depth).1]
  simp

theorem not_opening_of_blank (line : Text) (blank : Blank line) : ¬OpeningShape line := by
  rw [← opening_iff, marker_kind_of_blank line blank]
  simp

/-- A block goes below the header lines, with an empty line behind it, and every other line stays
on its side. -/
theorem masked_insert_block {added : List Text} (contained : SelfContained added) (lines : List Text) :
    ∃ above below inside, masked lines = above ++ below ∧
      masked (insertBlock added lines) = above ++ (added.map (·, true) ++ ([], inside) :: below) ∧
      (∀ entry ∈ above, isHeader entry.1 entry.2 = true) ∧
      ∀ entry, below.head? = some entry → isHeader entry.1 entry.2 = false := by
  let header : Text × Bool → Bool := fun (line, inside) => isHeader line inside
  have split := (List.takeWhile_append_dropWhile (p := header) (l := masked lines)).symm
  generalize aboveEq : (masked lines).takeWhile header = above at split
  generalize belowEq : (masked lines).dropWhile header = below at split
  have length : headerLength lines = above.length := congrArg List.length aboveEq
  have texts : lines = above.map (·.1) ++ below.map (·.1) := by
    rw [← List.map_append, ← split, lines_of_masked]
  have aboveLength : (above.map (·.1)).length = above.length := List.length_map _
  have inserted : insertBlock added lines =
      (above ++ (added.map (·, true) ++
        ([], isInside (depthThrough 0 (above.map (·.1))) []) :: below)).map (·.1) := by
    rw [insertBlock, length, texts, ← aboveLength, List.take_left, List.drop_left]
    simp [Function.comp_def]
  refine ⟨above, below, isInside (depthThrough 0 (above.map (·.1))) [], split, ?_, ?_, ?_⟩
  · rw [inserted]
    refine masked_of_nested ?_
    have nested := nested_masked lines
    rw [split, nested_append_iff] at nested
    rw [nested_append_iff, nested_contained contained, nested_cons_iff]
    refine ⟨nested.1, rfl, ?_⟩
    have none : markerKind? [] = none := marker_kind_of_blank [] blank_nil
    rw [depthAfter, none]
    exact nested.2
  · intro entry member
    rw [← aboveEq] at member
    exact List.mem_takeWhile_imp (p := header) member
  · intro entry head
    have stays := List.head?_dropWhile_not header (masked lines)
    rw [belowEq, head] at stays
    exact stays

end BasicBench.Instrument
