import BasicBench.Keyword.Distance
import Mathlib.Data.Nat.Dist
import Mathlib.Order.Bounds.Defs

/-!
What the distance of two texts is. One edit puts a character in, takes one out or writes one over
another, and the distance is the least number of edits, one after the other, that lead from one text
to the other. `edits` is the same number by recursion on the first characters; the rows of the table
hold it for the texts read so far, written backward, and the number of edits does not change when
both texts are read from their ends.
-/

set_option autoImplicit false

namespace BasicBench.Keyword

/-! Edits. -/

/-- One character is put in, taken out, or replaced. -/
inductive OneEdit : Text → Text → Prop where
  | insert (before after : Text) (c : Char) : OneEdit (before ++ after) (before ++ c :: after)
  | delete (before after : Text) (c : Char) : OneEdit (before ++ c :: after) (before ++ after)
  | replace (before after : Text) (c d : Char) :
      OneEdit (before ++ c :: after) (before ++ d :: after)

/-- The first text becomes the second by this many edits, one after the other. -/
inductive Becomes : Nat → Text → Text → Prop where
  | same (a : Text) : Becomes 0 a a
  | step {count : Nat} {a b c : Text} (first : OneEdit a b) (rest : Becomes count b c) :
      Becomes (count + 1) a c

theorem edit_cons {a b : Text} (c : Char) (edit : OneEdit a b) : OneEdit (c :: a) (c :: b) := by
  cases edit with
  | insert before after d => exact .insert (c :: before) after d
  | delete before after d => exact .delete (c :: before) after d
  | replace before after d e => exact .replace (c :: before) after d e

theorem edit_reverse {a b : Text} (edit : OneEdit a b) : OneEdit a.reverse b.reverse := by
  cases edit with
  | insert before after c => simpa using OneEdit.insert after.reverse before.reverse c
  | delete before after c => simpa using OneEdit.delete after.reverse before.reverse c
  | replace before after c d => simpa using OneEdit.replace after.reverse before.reverse c d

theorem becomes_cons {count : Nat} {a b : Text} (c : Char) (becomes : Becomes count a b) :
    Becomes count (c :: a) (c :: b) := by
  induction becomes with
  | same a => exact .same (c :: a)
  | step first _ induction => exact .step (edit_cons c first) induction

theorem becomes_reverse {count : Nat} {a b : Text} (becomes : Becomes count a b) :
    Becomes count a.reverse b.reverse := by
  induction becomes with
  | same a => exact .same a.reverse
  | step first _ induction => exact .step (edit_reverse first) induction

/-! The number of edits by recursion. -/

/-- The first characters are taken out, put in, or written over one another. -/
def edits : Text → Text → Nat
  | [], b => b.length
  | c :: a, [] => (c :: a).length
  | c :: a, d :: b =>
      min (min (edits a (d :: b) + 1) (edits (c :: a) b + 1)) (edits a b + if c = d then 0 else 1)
termination_by a b => a.length + b.length

theorem edits_nil_left (b : Text) : edits [] b = b.length := by
  rw [edits]

theorem edits_nil_right (a : Text) : edits a [] = a.length := by
  cases a <;> rw [edits]

theorem edits_cons_cons (c d : Char) (a b : Text) : edits (c :: a) (d :: b) =
    min (min (edits a (d :: b) + 1) (edits (c :: a) b + 1))
      (edits a b + if c = d then 0 else 1) := by
  rw [edits]

theorem edits_self (a : Text) : edits a a = 0 := by
  induction a with
  | nil => rw [edits_nil_left, List.length_nil]
  | cons c a induction =>
      rw [edits_cons_cons, induction, if_pos rfl]
      exact Nat.min_zero _

theorem edits_comm (a b : Text) : edits a b = edits b a := by
  fun_induction edits a b with
  | case1 b => rw [edits_nil_right]
  | case2 c a => rw [edits_nil_left]
  | case3 c a d b shorter longer both =>
      rw [edits_cons_cons, shorter, longer, both, Nat.min_comm (edits b (c :: a) + 1)]
      simp only [eq_comm]

/-- Each edit changes the length by one at most, and the longer text can be written over the
shorter one. -/
theorem edits_bounds (a b : Text) : a.length ≤ b.length + edits a b ∧
    b.length ≤ a.length + edits a b ∧ edits a b ≤ max a.length b.length := by
  fun_induction edits a b with
  | case1 b => simp
  | case2 c a => simp
  | case3 c a d b shorter longer both =>
      simp only [List.length_cons] at shorter longer both ⊢
      split <;> omega

/-! No fewer edits will do. -/

/-- What is in front of both texts does not bring them apart. -/
theorem edits_cons_le {x y : Text} (near : ∀ target, edits x target ≤ edits y target + 1) (c : Char)
    (target : Text) : edits (c :: x) target ≤ edits (c :: y) target + 1 := by
  induction target with
  | nil =>
      have lengths := near []
      simp only [edits_nil_right, List.length_cons] at lengths ⊢
      omega
  | cons d target induction =>
      have below := near target
      have whole := near (d :: target)
      rw [edits_cons_cons, edits_cons_cons]
      omega

theorem edits_tail_le (c : Char) (a target : Text) : edits a target ≤ edits (c :: a) target + 1 := by
  induction target with
  | nil => simp only [edits_nil_right, List.length_cons]; omega
  | cons d target induction =>
      -- The target's first character is put in where it had been kept or written over.
      have put : edits a (d :: target) ≤ edits a target + 1 := by
        cases a with
        | nil => simp [edits_nil_left]
        | cons e a => rw [edits_cons_cons]; omega
      rw [edits_cons_cons]
      omega

theorem edits_cons_le_tail (c : Char) (a target : Text) :
    edits (c :: a) target ≤ edits a target + 1 := by
  cases target with
  | nil => simp only [edits_nil_right, List.length_cons]; omega
  | cons d target => rw [edits_cons_cons]; omega

theorem edits_replace_le (c d : Char) (a target : Text) :
    edits (c :: a) target ≤ edits (d :: a) target + 1 := by
  induction target with
  | nil => simp only [edits_nil_right, List.length_cons]; omega
  | cons e target induction =>
      rw [edits_cons_cons, edits_cons_cons]
      split <;> split <;> omega

/-- One edit brings a text nearer to a target by one at most. -/
theorem edits_le_of_edit {a b : Text} (edit : OneEdit a b) (target : Text) :
    edits a target ≤ edits b target + 1 := by
  have behind {x y : Text} (near : ∀ target, edits x target ≤ edits y target + 1) (before : Text) :
      ∀ target, edits (before ++ x) target ≤ edits (before ++ y) target + 1 := by
    induction before with
    | nil => exact near
    | cons c before induction => exact edits_cons_le induction c
  cases edit with
  | insert before after c => exact behind (edits_tail_le c after) before target
  | delete before after c => exact behind (edits_cons_le_tail c after) before target
  | replace before after c d => exact behind (edits_replace_le c d after) before target

theorem edits_le_of_becomes {count : Nat} {a b : Text} (becomes : Becomes count a b)
    (target : Text) : edits a target ≤ count + edits b target := by
  induction becomes with
  | same a => omega
  | step first _ induction =>
      have near := edits_le_of_edit first target
      omega

/-! So many edits suffice. -/

theorem becomes_of_nil (b : Text) : Becomes b.length [] b := by
  induction b with
  | nil => exact .same []
  | cons d b induction => exact .step (.insert [] [] d) (becomes_cons d induction)

theorem becomes_nil (a : Text) : Becomes a.length a [] := by
  induction a with
  | nil => exact .same []
  | cons c a induction => exact .step (.delete [] a c) induction

theorem becomes_edits (a b : Text) : Becomes (edits a b) a b := by
  fun_induction edits a b with
  | case1 b => exact becomes_of_nil b
  | case2 c a => exact becomes_nil (c :: a)
  | case3 c a d b shorter longer both =>
      have delete : Becomes (edits a (d :: b) + 1) (c :: a) (d :: b) := .step (.delete [] a c) shorter
      have insert : Becomes (edits (c :: a) b + 1) (c :: a) (d :: b) :=
        .step (.insert [] (c :: a) d) (becomes_cons d longer)
      have write : Becomes (edits a b + if c = d then 0 else 1) (c :: a) (d :: b) := by
        split
        · next same => exact same ▸ becomes_cons c both
        · exact .step (.replace [] a c d) (becomes_cons d both)
      rcases min_choice (min (edits a (d :: b) + 1) (edits (c :: a) b + 1))
        (edits a b + if c = d then 0 else 1) with first | last
      · rw [first]
        rcases min_choice (edits a (d :: b) + 1) (edits (c :: a) b + 1) with out | put
        · rwa [out]
        · rwa [put]
      · rwa [last]

theorem edits_least (a b : Text) : IsLeast {count | Becomes count a b} (edits a b) := by
  refine ⟨becomes_edits a b, fun count becomes => ?_⟩
  have enough := edits_le_of_becomes becomes b
  rwa [edits_self] at enough

theorem edits_eq_zero {a b : Text} : edits a b = 0 ↔ a = b := by
  constructor
  · intro none
    have becomes := becomes_edits a b
    rw [none] at becomes
    cases becomes
    rfl
  · rintro rfl
    exact edits_self a

theorem edits_triangle (a b c : Text) : edits a c ≤ edits a b + edits b c :=
  edits_le_of_becomes (becomes_edits a b) c

/-- Texts read from their ends are as far apart. -/
theorem edits_reverse (a b : Text) : edits a.reverse b.reverse = edits a b := by
  have back := (becomes_edits a.reverse b.reverse)
  apply Nat.le_antisymm
  · exact (edits_least a.reverse b.reverse).2 (becomes_reverse (becomes_edits a b))
  · exact (edits_least a b).2 (by simpa using becomes_reverse back)

/-! The rows of the table. -/

/-- The cells of a row from one initial piece of the shorter text on. All pieces that have been read
are written backward. -/
def cellsFrom (longer shorter : Text) : Text → List Nat
  | [] => [edits longer shorter]
  | d :: rest => edits longer shorter :: cellsFrom longer (d :: shorter) rest

theorem cells_from_eq_cons (longer shorter rest : Text) :
    ∃ others, cellsFrom longer shorter rest = edits longer shorter :: others := by
  cases rest with
  | nil => exact ⟨_, rfl⟩
  | cons d rest => exact ⟨_, rfl⟩

theorem row_tail_cells (c : Char) (longer shorter rest : Text) :
    edits (c :: longer) shorter :: rowTail c (edits (c :: longer) shorter)
      (cellsFrom longer shorter rest) rest = cellsFrom (c :: longer) shorter rest := by
  induction rest generalizing shorter with
  | nil => rfl
  | cons d rest induction =>
      obtain ⟨others, above⟩ := cells_from_eq_cons longer (d :: shorter) rest
      have cell : min (min (edits longer (d :: shorter) + 1) (edits (c :: longer) shorter + 1))
          (edits longer shorter + if c = d then 0 else 1) = edits (c :: longer) (d :: shorter) :=
        (edits_cons_cons c d longer shorter).symm
      have later := induction (d :: shorter)
      rw [above] at later
      rw [cellsFrom, cellsFrom, above, rowTail, cell, later]

theorem next_row_cells (c : Char) (longer shorter : Text) :
    nextRow shorter (cellsFrom longer [] shorter) c = cellsFrom (c :: longer) [] shorter := by
  obtain ⟨others, first⟩ := cells_from_eq_cons longer [] shorter
  have corner : (cellsFrom longer [] shorter).headD 0 + 1 = edits (c :: longer) [] := by
    rw [first, List.headD_cons, edits_nil_right, edits_nil_right, List.length_cons]
  rw [nextRow, corner, row_tail_cells]

theorem range_cells (shorter rest : Text) :
    List.range' shorter.length (rest.length + 1) = cellsFrom [] shorter rest := by
  induction rest generalizing shorter with
  | nil => rw [cellsFrom, edits_nil_left]; rfl
  | cons d rest induction =>
      rw [cellsFrom, edits_nil_left, ← induction, List.length_cons, List.range'_succ,
        List.length_cons]

/-- The row behind a piece of the longer text holds the numbers of edits for this piece. -/
theorem fold_next_row (piece longer shorter : Text) :
    longer.foldl (nextRow shorter) (cellsFrom piece [] shorter) =
      cellsFrom (longer.reverse ++ piece) [] shorter := by
  induction longer generalizing piece with
  | nil => rfl
  | cons c longer induction =>
      rw [List.foldl_cons, next_row_cells, induction, List.reverse_cons, List.append_assoc,
        List.singleton_append]

theorem last_cell (longer shorter rest : Text) :
    (cellsFrom longer shorter rest).getLastD 0 = edits longer (rest.reverse ++ shorter) := by
  induction rest generalizing shorter with
  | nil => rfl
  | cons d rest induction =>
      obtain ⟨others, next⟩ := cells_from_eq_cons longer (d :: shorter) rest
      have last := induction (d :: shorter)
      rw [next] at last
      rw [cellsFrom, next, List.reverse_cons, List.append_assoc, List.singleton_append, ← last]
      rfl

theorem last_row_cell (longer shorter : Text) :
    (lastRow longer shorter).getLastD 0 = edits longer shorter := by
  have start : List.range (shorter.length + 1) = cellsFrom [] [] shorter := by
    rw [List.range_eq_range']
    exact range_cells [] shorter
  rw [lastRow, start, fold_next_row, last_cell, List.append_nil, List.append_nil, edits_reverse]

theorem distance_eq_edits (a b : Text) : distance a b = edits a b := by
  rw [distance]
  split
  · rw [last_row_cell, edits_comm]
  · exact last_row_cell a b

/-! The distance. -/

/-- A measure of texts that counts the edits between them. -/
structure CountsEdits (measure : Text → Text → Nat) : Prop where
  least : ∀ a b, IsLeast {count | Becomes count a b} (measure a b)
  recursive : ∀ a b, measure a b = edits a b
  symmetric : ∀ a b, measure a b = measure b a
  zero_iff : ∀ a b, measure a b = 0 ↔ a = b
  triangle : ∀ a b c, measure a c ≤ measure a b + measure b c
  difference : ∀ a b, Nat.dist a.length b.length ≤ measure a b
  longest : ∀ a b, measure a b ≤ max a.length b.length

theorem distance_counts_edits : CountsEdits distance := by
  have same : distance = edits := funext fun a => funext fun b => distance_eq_edits a b
  rw [same]
  constructor
  case least => exact edits_least
  case recursive => exact fun _ _ => rfl
  case symmetric => exact edits_comm
  case zero_iff => exact fun _ _ => edits_eq_zero
  case triangle => exact edits_triangle
  case difference =>
    intro a b
    obtain ⟨shrinks, grows, -⟩ := edits_bounds a b
    rw [Nat.dist]
    omega
  case longest => exact fun a b => (edits_bounds a b).2.2

example : distance "kitten".toList "sitting".toList = 3 := by decide

end BasicBench.Keyword
