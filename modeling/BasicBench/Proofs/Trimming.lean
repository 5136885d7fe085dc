import BasicBench.Proofs.Lines
import BasicBench.Proofs.Characters
import Mathlib.Data.List.TakeWhile

/-!
A text is its trimmed core between blanks. A core that neither begins nor ends with a blank is
what trimming finds between any blanks, so an equation about a trimmed text says how the whole
text is made up.
-/

set_option autoImplicit false

namespace BasicBench.Text

/-- Only blanks. -/
abbrev Blank (text : Text) : Prop := ∀ c ∈ text, isSpace c = true

/-- A text with something else than a blank at both ends. -/
def isSolid (text : Text) : Bool :=
  text.head?.any (fun c => !isSpace c) && text.getLast?.any fun c => !isSpace c

theorem blank_nil : Blank [] := fun _ member => absurd member List.not_mem_nil

theorem blank_append (left right : Text) : Blank (left ++ right) ↔ Blank left ∧ Blank right := by
  simp [Blank, or_imp, forall_and]

theorem drop_end_split (drop : Char → Bool) (text : Text) :
    ∃ right, (∀ c ∈ right, drop c = true) ∧ text = dropEndWhile drop text ++ right := by
  induction text with
  | nil => exact ⟨[], by simp, rfl⟩
  | cons c text induction =>
      obtain ⟨right, dropped, split⟩ := induction
      cases kept : dropEndWhile drop text with
      | nil =>
          rw [kept, List.nil_append] at split
          subst split
          by_cases here : drop c = true
          · exact ⟨c :: text, by simpa [here] using dropped, by simp [dropEndWhile, kept, here]⟩
          · exact ⟨text, dropped, by simp [dropEndWhile, kept, here]⟩
      | cons d others =>
          refine ⟨right, dropped, ?_⟩
          rw [kept] at split
          simp only [dropEndWhile, kept, List.cons_append]
          exact congrArg (c :: ·) split

theorem drop_end_last (drop : Char → Bool) (text : Text) (c : Char)
    (last : (dropEndWhile drop text).getLast? = some c) : drop c = false := by
  induction text generalizing c with
  | nil => simp [dropEndWhile] at last
  | cons d text induction =>
      cases kept : dropEndWhile drop text with
      | nil =>
          cases here : drop d with
          | true => simp [dropEndWhile, kept, here] at last
          | false =>
              simp only [dropEndWhile, kept, here, Bool.false_eq_true, if_false,
                List.getLast?_singleton, Option.some.injEq] at last
              exact last ▸ here
      | cons e others =>
          refine induction c ?_
          rw [kept]
          simpa [dropEndWhile, kept] using last

/-- Two ways of cutting off an end agree when both stop at a character that is kept. -/
theorem drop_end_append (drop : Char → Bool) (text right : Text)
    (dropped : ∀ c ∈ right, drop c = true) :
    dropEndWhile drop (text ++ right) = dropEndWhile drop text := by
  have gone : dropEndWhile drop right = [] := by
    cases last : (dropEndWhile drop right).getLast? with
    | none => exact List.getLast?_eq_none_iff.mp last
    | some c =>
        obtain ⟨more, -, split⟩ := drop_end_split drop right
        have member : c ∈ right := by
          rw [split]
          exact List.mem_append_left _ (List.mem_of_getLast? last)
        have kept := drop_end_last drop right c last
        rw [dropped c member] at kept
        exact absurd kept (by decide)
  induction text with
  | nil => exact gone
  | cons c text induction => simp only [List.cons_append, dropEndWhile, induction]

theorem drop_end_of_last (drop : Char → Bool) (text : Text) (c : Char)
    (last : text.getLast? = some c) (kept : drop c = false) : dropEndWhile drop text = text := by
  obtain ⟨right, dropped, split⟩ := drop_end_split drop text
  cases right with
  | nil => simpa using split.symm
  | cons d right =>
      have member : c ∈ d :: right := by
        rw [split, List.getLast?_append, List.getLast?_cons, Option.some_or] at last
        exact List.mem_of_getLast? (List.getLast?_cons.trans last)
      rw [dropped c member] at kept
      exact absurd kept (by decide)

theorem trim_left_split (text : Text) :
    ∃ left, Blank left ∧ text = left ++ trimLeft text :=
  ⟨indentation text, fun _ member => List.mem_takeWhile_imp member,
    (indentation_append_trimLeft text).symm⟩

theorem blank_indentation (text : Text) : Blank (indentation text) :=
  fun _ member => List.mem_takeWhile_imp member

theorem trim_left_append (left text : Text) (blank : Blank left) :
    trimLeft (left ++ text) = trimLeft text :=
  List.dropWhile_append_of_pos blank

theorem trim_append_left (left text : Text) (blank : Blank left) :
    trim (left ++ text) = trim text := by
  rw [trim, trim_left_append left text blank, trim]

theorem trim_of_blank (text : Text) (blank : Blank text) : trim text = [] := by
  have same := trim_append_left text [] blank
  rwa [List.append_nil] at same

theorem trim_append_right (text right : Text) (blank : Blank right) :
    trim (text ++ right) = trim text := by
  by_cases empty : Blank text
  · rw [trim_of_blank text empty, trim_of_blank _ ((blank_append ..).mpr ⟨empty, blank⟩)]
  · have kept : trimLeft text ≠ [] := by
      intro gone
      exact empty fun c member => List.dropWhile_eq_nil_iff.mp gone c member
    rw [trim, trimLeft, List.dropWhile_append, if_neg (by simpa [trimLeft] using kept), trimRight,
      drop_end_append isSpace _ right blank]
    rfl

theorem trim_split (text : Text) :
    ∃ left right, Blank left ∧ Blank right ∧ text = left ++ trim text ++ right := by
  obtain ⟨left, blankLeft, split⟩ := trim_left_split text
  obtain ⟨right, blankRight, split'⟩ := drop_end_split isSpace (trimLeft text)
  refine ⟨left, right, blankLeft, blankRight, ?_⟩
  rw [List.append_assoc]
  exact split.trans (congrArg (left ++ ·) split')

theorem trim_sublist (text : Text) : (trim text).Sublist text := by
  obtain ⟨left, right, -, -, split⟩ := trim_split text
  conv => rhs; rw [split]
  exact (List.sublist_append_right left _).trans (List.sublist_append_left _ right)

theorem unbroken_trim (text : Text) (unbroken : Unbroken text) : Unbroken (trim text) :=
  unbroken_of_sublist (trim_sublist text) unbroken

theorem trim_of_solid (text : Text) (solid : isSolid text = true) : trim text = text := by
  simp only [isSolid, Bool.and_eq_true, Option.any_eq_true, Bool.not_eq_true'] at solid
  obtain ⟨⟨c, head, startKept⟩, d, last, endKept⟩ := solid
  have start : trimLeft text = text := by
    cases text with
    | nil => rfl
    | cons e text =>
        rw [List.head?_cons, Option.some.injEq] at head
        subst head
        exact List.dropWhile_cons_of_neg (by simp [startKept])
  rw [trim, start]
  exact drop_end_of_last isSpace text d last endKept

theorem solid_trim (text : Text) (nonempty : trim text ≠ []) : isSolid (trim text) = true := by
  obtain ⟨d, last⟩ := Option.ne_none_iff_exists'.mp
    (mt List.getLast?_eq_none_iff.mp nonempty)
  have endKept := drop_end_last isSpace (trimLeft text) d last
  obtain ⟨right, -, split⟩ := drop_end_split isSpace (trimLeft text)
  obtain ⟨c, core, shape⟩ := List.exists_cons_of_ne_nil nonempty
  have startKept : isSpace c = false := by
    have head : (trimLeft text).head? = some c := by
      rw [split]
      change (trim text ++ right).head? = some c
      rw [shape, List.cons_append, List.head?_cons]
    have stays := List.head?_dropWhile_not isSpace text
    rw [show List.dropWhile isSpace text = trimLeft text from rfl, head] at stays
    exact stays
  rw [isSolid, last, shape, List.head?_cons, Option.any_some, Option.any_some, endKept, startKept]
  rfl

/-- What stands between two solid parts does not matter. -/
theorem solid_around {first last : Text} (between : Text) (front : isSolid first = true)
    (back : isSolid last = true) : isSolid (first ++ between ++ last) = true := by
  simp only [isSolid, Bool.and_eq_true, Option.any_eq_true] at front back ⊢
  obtain ⟨⟨c, head, startKept⟩, -⟩ := front
  obtain ⟨-, d, ending, endKept⟩ := back
  refine ⟨⟨c, ?_, startKept⟩, d, ?_, endKept⟩
  · rw [List.append_assoc, List.head?_append, head, Option.some_or]
  · rw [List.getLast?_append, ending, Option.some_or]

/-- What stands behind the indentation up to a solid part is solid. -/
theorem solid_trim_left_append (text right : Text) (solid : isSolid right = true) :
    isSolid (trimLeft text ++ right) = true := by
  simp only [isSolid, Bool.and_eq_true, Option.any_eq_true, Bool.not_eq_true'] at solid ⊢
  obtain ⟨⟨c, head, startKept⟩, d, last, endKept⟩ := solid
  refine ⟨?_, d, by rw [List.getLast?_append, last, Option.some_or], endKept⟩
  cases shape : trimLeft text with
  | nil => exact ⟨c, head, startKept⟩
  | cons e core =>
      have stays := List.head?_dropWhile_not isSpace text
      rw [show List.dropWhile isSpace text = trimLeft text from rfl, shape] at stays
      exact ⟨e, rfl, stays⟩

theorem trim_eq_nil_iff (text : Text) : trim text = [] ↔ Blank text := by
  constructor
  · intro gone
    obtain ⟨left, right, blankLeft, blankRight, split⟩ := trim_split text
    rw [split, gone, List.append_nil]
    exact (blank_append ..).mpr ⟨blankLeft, blankRight⟩
  · exact trim_of_blank text

end BasicBench.Text
