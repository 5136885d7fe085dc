import BasicBench.Proofs.TailChange
import BasicBench.Proofs.Widths

/-!
What a pattern takes where it may take several pieces. A pattern prefers the first of its stops. The
preferred stop of a chain lies behind the preferred stop of its first part whenever the second part
matches there, and a repetition prefers to go on as long as it can. A scan for all matches goes on
behind each match, so it tries every place that no earlier match goes beyond.
-/

set_option autoImplicit false

namespace BasicBench.Text.Pattern

/-- Of the pieces that it may take here, the pattern takes `piece` first and captures `found`. -/
def Prefers (pattern : Pattern) (before : Option Char) (piece rest : Text)
    (found : List (Nat × Text)) : Prop :=
  ∀ groups, (pattern.ends ⟨before, piece ++ rest, groups⟩).head? =
    some ⟨lastOf before piece, rest, found ++ groups⟩

section Stops

variable {first second inner : Pattern} {before : Option Char} {piece left right rest : Text}
  {found early late : List (Nat × Text)}

theorem stop_of_prefers (prefers : first.Prefers before piece rest found) :
    first.stop? ⟨before, piece ++ rest, []⟩ = some ⟨lastOf before piece, rest, found⟩ := by
  rw [stop_eq_head, prefers, List.append_nil]

theorem head_of_chain {spot middle stop : Spot} (reached : (first.ends spot).head? = some middle)
    (onward : (second.ends middle).head? = some stop) :
    ((first ++ second).ends spot).head? = some stop := by
  change ((first.ends spot).flatMap second.ends).head? = some stop
  obtain ⟨others, split⟩ : ∃ others, first.ends spot = middle :: others :=
    ⟨_, List.eq_cons_of_mem_head? reached⟩
  rw [split, List.flatMap_cons, List.head?_append, onward, Option.some_or]

theorem prefers_append (firstPrefers : first.Prefers before left (right ++ rest) early)
    (secondPrefers : second.Prefers (lastOf before left) right rest late) :
    (first ++ second).Prefers before (left ++ right) rest (late ++ early) := by
  intro groups
  rw [List.append_assoc, List.append_assoc, last_of_append]
  exact head_of_chain (firstPrefers groups) (secondPrefers _)

/-- Behind its preferred stop the first part leaves nothing but the second part to be matched. -/
theorem stop_of_chain (firstPrefers : first.Prefers before left (right ++ rest) early)
    (plain : second.isPlain = true) (taken : second.Takes (lastOf before left) right rest) :
    ∃ stop, (first ++ second).stop? ⟨before, left ++ (right ++ rest), []⟩ = some stop ∧
      stop.groups = early := by
  obtain ⟨captured, reads⟩ := taken
  have member := (mem_ends second (lastOf before left) (right ++ rest) (early ++ []) _).mpr
    ⟨right, rest, captured, rfl, reads, rfl⟩
  obtain ⟨stop, onward⟩ := Option.isSome_iff_exists.mp
    (List.isSome_head?.mpr (List.ne_nil_of_mem member))
  refine ⟨stop, by rw [stop_eq_head, head_of_chain (firstPrefers []) onward], ?_⟩
  obtain ⟨_, _, found, -, reads, rfl⟩ := (mem_ends ..).mp (List.mem_of_head? onward)
  rw [plain_reads_nothing second plain _ _ _ _ reads, List.nil_append, List.append_nil]

theorem ends_append_assoc (third : Pattern) (spot : Spot) :
    ((first ++ second) ++ third).ends spot = (first ++ (second ++ third)).ends spot :=
  List.flatMap_assoc ..

theorem prefers_one {accepts : Char → Bool} {c : Char} (accepted : accepts c = true) :
    (one accepts).Prefers before [c] rest [] := by
  intro groups
  simp [ends, accepted]

theorem prefers_many {accepts : Char → Bool} (accepted : ∀ c ∈ piece, accepts c = true)
    (refused : rest.head?.any accepts = false) : (many accepts).Prefers before piece rest [] := by
  intro groups
  induction piece generalizing before with
  | nil =>
      cases rest with
      | nil => rfl
      | cons c rest =>
          have off : accepts c = false := refused
          simp [ends, manyEnds, off]
  | cons c piece induction =>
      rw [List.forall_mem_cons] at accepted
      have onward := @induction (some c) accepted.2
      simp only [ends] at onward ⊢
      rw [List.cons_append, manyEnds, if_pos accepted.1, List.head?_append, onward, last_of_cons,
        Option.some_or]

theorem prefers_many1 {accepts : Char → Bool} (nonempty : piece ≠ [])
    (accepted : ∀ c ∈ piece, accepts c = true) (refused : rest.head?.any accepts = false) :
    (many1 accepts).Prefers before piece rest [] := by
  obtain ⟨c, others, rfl⟩ := List.exists_cons_of_ne_nil nonempty
  rw [List.forall_mem_cons] at accepted
  exact prefers_append (prefers_one accepted.1) (prefers_many accepted.2 refused)

theorem prefers_optional (prefers : inner.Prefers before piece rest found) :
    (optional inner).Prefers before piece rest found := by
  intro groups
  change (inner.ends ⟨before, piece ++ rest, groups⟩ ++ here.ends _).head? = _
  rw [List.head?_append, prefers groups, Option.some_or]

theorem prefers_nothing
    (apart : ∀ piece behind, rest = piece ++ behind → ¬inner.Takes before piece behind) :
    (optional inner).Prefers before [] rest [] := by
  intro groups
  have none : inner.ends ⟨before, rest, groups⟩ = [] := by
    rw [← List.isEmpty_iff, no_stop_iff _ _ _ _ (mem_ends inner before rest groups)]
    rintro ⟨piece, behind, found, split, reads⟩
    exact apart piece behind split ⟨found, reads⟩
  change (inner.ends ⟨before, rest, groups⟩ ++ here.ends ⟨before, rest, groups⟩).head? = _
  rw [none]
  rfl

theorem prefers_capture (index : Nat) (prefers : inner.Prefers before piece rest found) :
    (capture index inner).Prefers before piece rest ((index, piece) :: found) := by
  intro groups
  simp [ends, prefers groups, Spot.capture, Spot.between]

theorem prefers_word_edge (edge : before.any isWordChar ≠ rest.head?.any isWordChar) :
    wordEdge.Prefers before [] rest [] := by
  intro groups
  simp [ends, Spot.atWordEdge, edge]

theorem prefers_text_start : textStart.Prefers none [] rest [] := fun _ => rfl

theorem prefers_letters {word : Text} (same : SameText word piece) :
    (word.foldr (fun c rest => one (sameLetter c) ++ rest) here).Prefers before piece rest [] := by
  induction same generalizing before with
  | nil => exact fun _ => rfl
  | cons letter _ induction => exact prefers_append (prefers_one letter) induction

theorem prefers_any_case {word : String} (same : SameText word.toList piece) :
    (anyCase word).Prefers before piece rest [] :=
  prefers_letters same

theorem drop_start_of_prefers (prefers : first.Prefers none piece rest found) :
    first.dropStart (piece ++ rest) = rest := by
  rw [dropStart, stop_of_prefers prefers]

end Stops

/-! The scan for all matches. -/

/-- No match that begins in `above` goes beyond it. -/
def StaysIn (pattern : Pattern) (before : Option Char) (above rest : Text) : Prop :=
  ∀ left piece behind, left ++ (piece ++ behind) = above ++ rest → left.length < above.length →
    pattern.Takes (lastOf before left) piece behind → left.length + piece.length ≤ above.length

theorem stays_behind {pattern : Pattern} {before : Option Char} {c : Char} {above rest : Text}
    (stays : pattern.StaysIn before (c :: above) rest) : pattern.StaysIn (some c) above rest := by
  intro left piece behind split inside taken
  have within := stays (c :: left) piece behind (by rw [List.cons_append, split]; rfl)
    (by simpa using inside) (by rwa [last_of_cons])
  simp only [List.length_cons] at within
  omega

/-- The scan arrives at a place that no match from above goes beyond. -/
theorem find_all_reaches {pattern : Pattern} {skip offset : Nat} {before : Option Char}
    {above rest : Text} (stays : pattern.StaysIn before above rest)
    (within : skip ≤ above.length) :
    ∃ early, pattern.findAllFrom skip offset before (above ++ rest) =
        early ++ pattern.findAllFrom 0 (offset + above.length) (lastOf before above) rest ∧
      ∀ found ∈ early, found.offset < offset + above.length := by
  induction above generalizing skip offset before with
  | nil =>
      obtain rfl : skip = 0 := Nat.le_zero.mp within
      exact ⟨[], rfl, List.forall_mem_nil _⟩
  | cons c above induction =>
      have later := stays_behind stays
      have place : offset + (c :: above).length = offset + 1 + above.length := by
        rw [List.length_cons]
        omega
      rw [place, last_of_cons]
      cases skip with
      | succ skip => exact induction later (by simpa using within)
      | zero =>
          simp only [List.cons_append, findAllFrom]
          split
          · next stop stopped =>
              obtain ⟨split, -, reads⟩ : FoundAt pattern offset before (c :: (above ++ rest)) _ []
                stop.rest := found_at_stop stopped
              have inside := stays [] _ stop.rest split.symm (by simp) ⟨_, reads⟩
              rw [List.length_nil, List.length_cons] at inside
              have skips :
                  (Found.ofSpots offset ⟨before, c :: (above ++ rest), []⟩ stop).text.length - 1 ≤
                    above.length := by omega
              obtain ⟨early, shape, offsets⟩ := @induction _ (offset + 1) _ later skips
              refine ⟨_ :: early, by rw [shape, List.cons_append],
                List.forall_mem_cons.mpr ⟨?_, offsets⟩⟩
              change offset < offset + 1 + above.length
              omega
          · exact induction later (Nat.zero_le _)

theorem offset_le_of_mem {pattern : Pattern} {skip offset : Nat} {before : Option Char}
    {text : Text} {found : Found} (member : found ∈ pattern.findAllFrom skip offset before text) :
    offset ≤ found.offset := by
  obtain ⟨above, rest, ⟨-, place, -⟩, -⟩ := mem_find_all_from member
  rw [place]
  exact Nat.le_add_right ..

/-- The match at the first place of a text is the one the scan begins with. -/
theorem found_here_iff (pattern : Pattern) (offset : Nat) (before : Option Char) (c : Char)
    (text : Text) (wanted : Found → Prop) :
    (∃ found ∈ pattern.findAllFrom 0 offset before (c :: text), found.offset = offset ∧
      wanted found) ↔
      ∃ stop, pattern.stop? ⟨before, c :: text, []⟩ = some stop ∧
        wanted (Found.ofSpots offset ⟨before, c :: text, []⟩ stop) := by
  have later {skip : Nat} {found : Found}
      (member : found ∈ pattern.findAllFrom skip (offset + 1) (some c) text) :
      found.offset ≠ offset := by
    have behind := offset_le_of_mem member
    omega
  simp only [findAllFrom]
  cases pattern.stop? ⟨before, c :: text, []⟩ with
  | none =>
      constructor
      · rintro ⟨found, member, here, -⟩
        exact absurd here (later member)
      · rintro ⟨stop, none, -⟩
        cases none
  | some stop =>
      constructor
      · rintro ⟨found, member, here, wantedHere⟩
        rcases List.mem_cons.mp member with rfl | behind
        · exact ⟨stop, rfl, wantedHere⟩
        · exact absurd here (later behind)
      · rintro ⟨other, same, wantedHere⟩
        obtain rfl := Option.some.inj same
        exact ⟨_, List.mem_cons_self, rfl, wantedHere⟩

/-- At a place that no match from above goes beyond, the scan finds what matches there. -/
theorem found_at_place_iff {pattern : Pattern} {above text : Text} {c : Char}
    (stays : pattern.StaysIn none above (c :: text)) (wanted : Found → Prop) :
    (∃ found ∈ pattern.findAll (above ++ c :: text), found.offset = above.length ∧
      wanted found) ↔
      ∃ stop, pattern.stop? ⟨lastOf none above, c :: text, []⟩ = some stop ∧
        wanted (Found.ofSpots above.length ⟨lastOf none above, c :: text, []⟩ stop) := by
  obtain ⟨early, scan, offsets⟩ : ∃ early, pattern.findAllFrom 0 0 none (above ++ c :: text) =
      early ++ pattern.findAllFrom 0 (0 + above.length) (lastOf none above) (c :: text) ∧
        ∀ found ∈ early, found.offset < 0 + above.length :=
    find_all_reaches stays (Nat.zero_le _)
  rw [Nat.zero_add] at scan offsets
  rw [← found_here_iff, findAll, scan]
  constructor
  · rintro ⟨found, member, here, wantedHere⟩
    rcases List.mem_append.mp member with above | behind
    · exact absurd here (offsets found above).ne
    · exact ⟨found, behind, here, wantedHere⟩
  · rintro ⟨found, member, here, wantedHere⟩
    exact ⟨found, List.mem_append_right _ member, here, wantedHere⟩

end BasicBench.Text.Pattern
