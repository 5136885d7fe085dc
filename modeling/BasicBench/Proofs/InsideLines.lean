import BasicBench.Proofs.Landmarks
import BasicBench.Proofs.Outside

/-!
The lines inside blocks after an action. Only lines outside blocks are edited, moved or taken out
one by one; a block moves as a whole. So a line inside a block is there, and inside, after every
action that does not rewrite the line itself, and after any number of them.
-/

set_option autoImplicit false

namespace BasicBench.Instrument

open Text Pattern

/-- The line stands inside a block. -/
def Inside (lines : List Text) (line : Text) : Prop := (line, true) ∈ masked lines

theorem inside_of_reworks {before after : List (Text × Bool)} (reworks : Reworks before after)
    {line : Text} (inside : (line, true) ∈ before) : (line, true) ∈ after := by
  induction reworks with
  | done => exact inside
  | inside other rest out _ induction =>
      rcases List.mem_cons.mp inside with same | later
      · rw [same]
        exact List.mem_cons_self
      · exact List.mem_cons_of_mem _ (induction later)
  | outside other fresh rest out _ _ induction =>
      rcases List.mem_cons.mp inside with same | later
      · cases (Prod.mk.inj same).2
      · exact List.mem_append_right _ (induction later)

/-! The wrapper. -/

namespace Sections

/-- Each line inside a block is inside one where its part has it. -/
structure Placed (before : List (Text × Bool)) (sections : Sections) : Prop
    extends Distributed before sections where
  inside : ∀ line, (line, true) ∈ before →
    (line, true) ∈ tagFrom 0 sections.top ∨ (line, true) ∈ tagFrom 0 sections.procedures

/-- A line is put behind the lines of one part, the others stay. -/
theorem add_grows (sections : Sections) (line : Text) (inside : Bool) :
    (∃ more, (sections.add line inside).top = sections.top ++ more) ∧
      ∃ more, (sections.add line inside).procedures = sections.procedures ++ more := by
  have here : ∀ part : List Text, ∃ more, part = part ++ more := fun part => ⟨[], by simp⟩
  unfold add
  split
  · split
    · exact ⟨⟨[line], rfl⟩, here _⟩
    · exact ⟨here _, ⟨[line], rfl⟩⟩
  · split
    · exact ⟨here _, ⟨[line], rfl⟩⟩
    · split
      · exact ⟨here _, ⟨[line], rfl⟩⟩
      · split
        · exact ⟨⟨[line], rfl⟩, here _⟩
        · exact ⟨here _, here _⟩

theorem mem_tag_from_grown {part grown : List Text} (grows : ∃ more, grown = part ++ more)
    {entry : Text × Bool} (member : entry ∈ tagFrom 0 part) : entry ∈ tagFrom 0 grown := by
  rcases grows with ⟨more, rfl⟩
  rw [tag_from_append]
  exact List.mem_append_left _ member

theorem placed_add {before : List (Text × Bool)} {sections : Sections}
    (placed : Placed before sections) (line : Text) :
    Placed (before ++ [(line, isInside (depthThrough 0 (before.map (·.1))) line)])
      (sections.add line (isInside (depthThrough 0 (before.map (·.1))) line)) where
  toDistributed := distributed_add placed.toDistributed line
  inside := by
    intro other member
    have grows := add_grows sections line (isInside (depthThrough 0 (before.map (·.1))) line)
    rcases List.mem_append.mp member with old | new
    · exact (placed.inside other old).imp (mem_tag_from_grown grows.1) (mem_tag_from_grown grows.2)
    · have same := Prod.mk.inj (List.mem_singleton.mp new)
      have depths := placed.depths
      rw [same.1, ← same.2, add, if_pos rfl]
      split
      next empty =>
        rw [if_pos empty] at depths
        rw [tag_from_concat, depths.1, ← same.2]
        exact .inl (List.mem_append_right _ List.mem_cons_self)
      next some =>
        rw [if_neg some] at depths
        rw [tag_from_concat, depths.2, ← same.2]
        exact .inr (List.mem_append_right _ List.mem_cons_self)

theorem placed_nil : Placed [] {} where
  toDistributed := distributed_nil
  inside _ member := absurd member List.not_mem_nil

theorem placed_of_lines (lines : List Text) : Placed (masked lines) (ofLines lines) :=
  of_lines_induction placed_nil (fun _ _ line placed => placed_add placed line) lines

end Sections

/-! Every action. -/

theorem masked_normalize (lines : List Text) :
    masked (lines.map normalizeLine) =
      (masked lines).map fun (line, inside) => (normalizeLine line, inside) := by
  have kind : ∀ line, markerKind? (normalizeLine line) = markerKind? line := by
    intro line
    rw [normalizeLine]
    split
    next off =>
      rw [console_off_no_marker off]
      decide
    next => rfl
  rw [masked_eq, masked_eq]
  generalize 0 = depth
  induction lines generalizing depth with
  | nil => rfl
  | cons line rest induction =>
      rw [List.map_cons, tagFrom, tagFrom, List.map_cons, isInside, isInside, depthAfter, kind,
        ← depthAfter, induction]

theorem masked_direct (lines : List Text) :
    masked ("$CONSOLE".toList :: lines) = ("$CONSOLE".toList, false) :: masked lines := by
  have marker : ∀ other ∈ ["$CONSOLE".toList], ¬OpeningShape other := by
    intro other member
    rw [List.mem_singleton.mp member, ← opening_iff]
    decide
  rw [masked_eq, masked_eq, ← List.singleton_append, tag_from_plain_lines _ _ marker]
  rfl

/-- A line inside a block stays there, unless it switches the console off. -/
theorem inside_kept {options : Options} {stamp : Text} (plain : Unbroken stamp) {line : Text}
    (stays : normalizeLine line = line) (action : Action) :
    KeptBy options stamp (Inside · line) action := by
  intro lines unbroken inside
  cases action with
  | normalize =>
      rw [Inside, Action.perform, masked_normalize]
      exact List.mem_map.mpr ⟨(line, true), inside, congrArg (·, true) stays⟩
  | direct =>
      rw [Action.perform]
      split
      · exact inside
      · rw [Inside, masked_direct]
        exact List.mem_cons_of_mem _ inside
  | support feature =>
      rw [Action.perform]
      split
      · exact inside
      · rcases masked_insert_block (contained_support options stamp plain lines feature) lines with
          ⟨above, below, side, before, after, -, -⟩
        rw [Inside, before, List.mem_append] at inside
        rw [Inside, after, List.mem_append, List.mem_append, List.mem_cons]
        exact inside.imp id fun later => .inr (.inr later)
  | pause =>
      have pauses := masked_replace_waits lines
      have outside : ∀ other, (other, false) ∈ masked lines → ¬OpeningShape other :=
        fun other member => not_opening_of_outside member
      exact inside_of_reworks (reworks_of_pauses pauses outside) inside
  | exit =>
      rw [Inside, Action.perform, masked_edit_outside replaceEnd lines (plain_replaced_end unbroken)]
      exact List.mem_map.mpr ⟨(line, true), inside, rfl⟩
  | wrap =>
      rw [Action.perform, flow_control_eq]
      split
      next wrapping =>
        rw [Inside, masked_arrange _ _ wrapping, List.mem_append, List.mem_append]
        exact ((Sections.placed_of_lines lines).inside line inside).imp id .inr
      next => exact inside
  | exchange edit =>
      rw [Inside, Action.perform, masked_exchange edit lines unbroken]
      exact List.mem_map.mpr ⟨(line, true), inside, rfl⟩
  | cleanUp =>
      rw [Inside, Action.perform, masked_insert_cleanup]
      exact mem_guard_tagged none inside
  | logFiles =>
      rw [Inside, Action.perform, masked_log_files]
      exact mem_follow_tagged _ _ inside
  | takeShots =>
      rw [Inside, Action.perform, masked_take_shots]
      exact mem_follow_tagged _ _ inside

theorem inside_ignores_end (line : Text) (shown : line ≠ []) : IgnoresEnd (Inside · line) := by
  intro lines
  have split := tag_from_append 0 lines [[]]
  simp only [Inside, masked_eq, split, List.mem_append, tagFrom, List.mem_singleton, Prod.mk.injEq]
  constructor
  · intro member
    rcases member with old | ⟨empty, -⟩
    · exact old
    · exact absurd empty shown
  · exact .inl

end BasicBench.Instrument
