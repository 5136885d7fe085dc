import BasicBench.Keyword.Record

/-!
Entries made of the fields of a record. Whatever accepts records and turns them into entries, two
things are relied on: a record that does not fit is refused with a validation fault, and an entry has
the name that it is made with. Both hold when the fields are read one by one.
-/

set_option autoImplicit false

namespace BasicBench.Keyword

open Json (Code codes Document Reading required readText)

theorem name_of_read {value : Json} {entry : Entry} (read : Entry.read value = .ok entry) :
    required "name" readText value = .ok entry.name := by
  unfold Entry.read at read
  simp only [Reading.part_ok_iff] at read
  -- the name is the innermost of the fourteen parts
  obtain ⟨_, _, front, -, rfl⟩ := read
  iterate 12 obtain ⟨_, _, front, -, rfl⟩ := front
  obtain ⟨_, _, made, same, rfl⟩ := front
  rw [← Reading.ok.inj made, same]

end BasicBench.Keyword
