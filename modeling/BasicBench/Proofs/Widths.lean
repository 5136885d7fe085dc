import BasicBench.Proofs.Reading
import BasicBench.Text.Space
import Mathlib.Data.List.Infix

/-!
Where a match lies. A match is a piece of the text it was found in, and a pattern that needs
characters finds no match at the end of a text, so the column of its match is a column of the
text.
-/

set_option autoImplicit false

namespace BasicBench.Text

namespace Pattern

/-- A number of characters that every piece the pattern reads has. -/
def leastWidth : Pattern → Nat
  | one _ => 1
  | chain first second => leastWidth first + leastWidth second
  | either first second => min (leastWidth first) (leastWidth second)
  | capture _ inner => leastWidth inner
  | _ => 0

theorem least_width_le (pattern : Pattern) (before : Option Char) (piece rest : Text)
    (found : List (Nat × Text)) (reads : pattern.Reads before piece rest found) :
    pattern.leastWidth ≤ piece.length := by
  induction pattern generalizing before piece rest found with
  | one accepts =>
      obtain ⟨⟨c, -, rfl⟩, -⟩ := reads
      exact le_rfl
  | chain first second firstStep secondStep =>
      obtain ⟨left, right, early, late, rfl, -, reads, readsOn⟩ := reads
      rw [List.length_append]
      exact Nat.add_le_add (firstStep _ _ _ _ reads) (secondStep _ _ _ _ readsOn)
  | either first second firstStep secondStep =>
      rcases reads with reads | reads
      · exact (Nat.min_le_left ..).trans (firstStep _ _ _ _ reads)
      · exact (Nat.min_le_right ..).trans (secondStep _ _ _ _ reads)
  | capture index inner step =>
      obtain ⟨inside, -, reads⟩ := reads
      exact step _ _ _ _ reads
  | here | many | few | wordEdge | textStart | lineStart | textEnd | notAfter | ahead | notAhead =>
      exact Nat.zero_le _

/-- Where a match was found: what stands above it, the piece itself, and what follows. -/
structure FoundAt (pattern : Pattern) (offset : Nat) (before : Option Char) (text : Text)
    (found : Found) (above rest : Text) : Prop where
  split : text = above ++ (found.text ++ rest)
  offset : found.offset = offset + above.length
  reads : pattern.Reads (lastOf before above) found.text rest found.groups

theorem found_at_stop {pattern : Pattern} {offset : Nat} {before : Option Char} {text : Text}
    {stop : Spot} (stopped : pattern.stop? ⟨before, text, []⟩ = some stop) :
    FoundAt pattern offset before text (Found.ofSpots offset ⟨before, text, []⟩ stop) []
      stop.rest := by
  obtain ⟨piece, split, reads⟩ := stop_some _ _ _ _ stopped
  have between : Spot.between ⟨before, text, []⟩ stop = piece := by
    simp [Spot.between, split]
  refine ⟨?_, rfl, ?_⟩
  · simpa [Found.ofSpots, between] using split
  · simpa [Found.ofSpots, between] using reads

theorem found_at_behind {pattern : Pattern} {offset : Nat} {before : Option Char} {c : Char}
    {text : Text} {found : Found} {above rest : Text}
    (later : FoundAt pattern (offset + 1) (some c) text found above rest) :
    FoundAt pattern offset before (c :: text) found (c :: above) rest := by
  obtain ⟨split, place, reads⟩ := later
  refine ⟨by rw [split, List.cons_append], ?_, by simpa using reads⟩
  rw [place, List.length_cons]
  omega

theorem find_from_some {pattern : Pattern} {offset : Nat} {before : Option Char} {text : Text}
    {found : Found} (matched : pattern.findFrom offset before text = some found) :
    ∃ above rest, FoundAt pattern offset before text found above rest := by
  induction text generalizing offset before with
  | nil =>
      obtain ⟨stop, stopped, rfl⟩ := Option.map_eq_some_iff.mp matched
      exact ⟨[], stop.rest, found_at_stop stopped⟩
  | cons c text induction =>
      rw [findFrom] at matched
      split at matched
      · next stop stopped =>
          cases matched
          exact ⟨[], stop.rest, found_at_stop stopped⟩
      · obtain ⟨above, rest, later⟩ := induction matched
        exact ⟨c :: above, rest, found_at_behind later⟩

theorem mem_find_all_from {pattern : Pattern} {skip offset : Nat} {before : Option Char}
    {text : Text} {found : Found} (matched : found ∈ pattern.findAllFrom skip offset before text) :
    ∃ above rest, FoundAt pattern offset before text found above rest ∧
      found.text ++ rest ≠ [] := by
  induction text generalizing skip offset before with
  | nil => cases matched
  | cons c text induction =>
      have behind {skip : Nat}
          (later : found ∈ pattern.findAllFrom skip (offset + 1) (some c) text) :
          ∃ above rest, FoundAt pattern offset before (c :: text) found above rest ∧
            found.text ++ rest ≠ [] := by
        obtain ⟨above, rest, place, some⟩ := induction later
        exact ⟨c :: above, rest, found_at_behind place, some⟩
      cases skip with
      | succ skip => exact behind matched
      | zero =>
          simp only [findAllFrom] at matched
          split at matched
          · next stop stopped =>
              rcases List.mem_cons.mp matched with rfl | later
              · have place : FoundAt pattern offset before (c :: text) _ [] stop.rest :=
                  found_at_stop stopped
                refine ⟨[], stop.rest, place, ?_⟩
                rw [← List.nil_append (_ ++ _), ← place.split]
                exact List.cons_ne_nil c text
              · exact behind later
          · exact behind matched

/-- A match of a pattern that needs characters begins at a character of the text. -/
theorem find_column {pattern : Pattern} {text : Text} {found : Found}
    (wide : 0 < pattern.leastWidth) (matched : pattern.find? text = some found) :
    1 ≤ found.column ∧ found.column ≤ text.length := by
  obtain ⟨above, rest, split, place, reads⟩ := find_from_some matched
  have width := least_width_le _ _ _ _ _ reads
  rw [Found.column, place, split, List.length_append, List.length_append]
  omega

theorem find_all_column {pattern : Pattern} {text : Text} {found : Found}
    (matched : found ∈ pattern.findAll text) :
    1 ≤ found.column ∧ found.column ≤ text.length := by
  obtain ⟨above, rest, ⟨split, place, -⟩, some⟩ := mem_find_all_from matched
  have length := List.length_pos_of_ne_nil some
  rw [Found.column, place, split, List.length_append]
  omega

end Pattern

/-- The first occurrence of a piece of the text ends in the text. -/
theorem offset_of_infix {part text : Text} (inside : part <:+: text) :
    ∃ offset, offsetOf? part text = some offset ∧ offset + part.length ≤ text.length := by
  induction text with
  | nil =>
      obtain rfl := List.infix_nil.mp inside
      exact ⟨0, rfl, le_rfl⟩
  | cons c rest induction =>
      by_cases here : part.isPrefixOf (c :: rest) = true
      · have starts := List.isPrefixOf_iff_prefix.mp here
        exact ⟨0, by rw [offsetOf?, if_pos here], by simpa using starts.length_le⟩
      · have later : part <:+: rest := by
          rcases List.infix_cons_iff.mp inside with starts | later
          · exact absurd (List.isPrefixOf_iff_prefix.mpr starts) here
          · exact later
        obtain ⟨offset, found, fits⟩ := induction later
        refine ⟨offset + 1, by rw [offsetOf?, if_neg here, found, Option.map_some], ?_⟩
        rw [List.length_cons]
        omega

end BasicBench.Text
