import BasicBench.Check.Keywords
import BasicBench.Proofs.Reading
import BasicBench.Proofs.Trimming

/-!
The names that look like keywords, in words. They are written in capitals, between a dollar sign that
need not be there and type marks, and without the marks they are long enough, marked in front, or one
of a few keywords of two letters.
-/

set_option autoImplicit false

namespace BasicBench.Check

open Text Pattern

/-- Capitals, digits and underscores, with no digit in front. -/
def InCapitals (core : Text) : Prop :=
  (∃ c ∈ core.head?, c = '_' ∨ 'A' ≤ c ∧ c ≤ 'Z') ∧
    ∀ c ∈ core, (c = '_' ∨ 'A' ≤ c ∧ c ≤ 'Z') ∨ '0' ≤ c ∧ c ≤ '9'

/-- A name in capitals between a dollar sign, which need not be there, and type marks. -/
structure Capitalised (name mark core types : Text) : Prop where
  split : name = mark ++ (core ++ types)
  mark : mark = [] ∨ mark = ['$']
  core : InCapitals core
  types : ∀ c ∈ types, c ∈ "$%&!#~".toList

/-- A name is worth a look with a dollar sign in front, with an underscore in front of something,
with three characters, and where it is one of the keywords of two. -/
def WorthALook (mark core : Text) : Prop :=
  mark = ['$'] ∨ core.head? = some '_' ∧ 1 < core.length ∨ 3 ≤ core.length ∨
    core ∈ ["IF", "DO", "TO", "AS", "OR"].map (·.toList)

theorem is_upper_start_iff (c : Char) :
    isUpperStart c = true ↔ c = '_' ∨ 'A' ≤ c ∧ c ≤ 'Z' := by
  rw [isUpperStart, Bool.or_eq_true, beq_iff_eq, Bool.and_eq_true, decide_eq_true_eq,
    decide_eq_true_eq]
  rfl

theorem is_upper_rest_iff (c : Char) :
    isUpperRest c = true ↔ (c = '_' ∨ 'A' ≤ c ∧ c ≤ 'Z') ∨ '0' ≤ c ∧ c ≤ '9' := by
  rw [isUpperRest, Bool.or_eq_true, is_upper_start_iff, isDigit, Bool.and_eq_true,
    decide_eq_true_eq, decide_eq_true_eq]
  rfl

theorem in_capitals_iff (core : Text) : InCapitals core ↔
    ∃ c rest, core = c :: rest ∧ isUpperStart c = true ∧ ∀ d ∈ rest, isUpperRest d = true := by
  simp only [InCapitals, ← is_upper_rest_iff]
  simp only [← is_upper_start_iff]
  constructor
  · rintro ⟨⟨c, head, first⟩, all⟩
    obtain ⟨rest, rfl⟩ : ∃ rest, core = c :: rest := ⟨core.tail, List.eq_cons_of_mem_head? head⟩
    exact ⟨c, rest, rfl, first, (List.forall_mem_cons.mp all).2⟩
  · rintro ⟨c, rest, rfl, first, others⟩
    refine ⟨⟨c, rfl, first⟩, List.forall_mem_cons.mpr ⟨?_, others⟩⟩
    rw [isUpperRest, first, Bool.true_or]

/-- The pattern takes names in capitals. -/
theorem keyword_shape_iff {name : Text} (clean : '\n' ∉ name) :
    keywordShape.startsText name = true ↔ ∃ mark core types, Capitalised name mark core types := by
  simp only [keywordShape, starts_text_iff, takes_append, takes_text_start, takes_optional,
    takes_one, takes_many, takes_text_end]
  constructor
  · rintro ⟨_, rest, rfl, _, _, rfl, ⟨_, types, rfl, ⟨_, others, rfl, ⟨_, _, rfl, ⟨_, mark, rfl,
      ⟨rfl, -⟩, marked⟩, c, first, rfl⟩, inner⟩, sigils⟩, rfl, ending⟩
    obtain rfl : rest = [] := by
      rcases ending with rfl | rfl
      · rfl
      · exact absurd (by simp) clean
    refine ⟨mark, c :: others, types, by simp, ?_, ?_, ?_⟩
    · rcases marked with ⟨d, dollar, rfl⟩ | rfl
      · exact .inr (by rw [beq_iff_eq.mp dollar])
      · exact .inl rfl
    · exact (in_capitals_iff _).mpr ⟨c, others, rfl, first, inner⟩
    · exact fun d member => List.contains_iff_mem.mp (sigils d member)
  · rintro ⟨mark, core, types, rfl, marked, capitals, signs⟩
    obtain ⟨c, others, rfl, first, inner⟩ := (in_capitals_iff core).mp capitals
    refine ⟨mark ++ (c :: others ++ types), [], by simp, mark ++ [c] ++ others ++ types, [],
      by simp, ⟨mark ++ [c] ++ others, types, rfl, ⟨mark ++ [c], others, rfl, ⟨mark, [c], rfl,
      ⟨[], mark, rfl, ⟨rfl, trivial⟩, ?_⟩, c, first, rfl⟩, inner⟩, ?_⟩, rfl, .inl rfl⟩
    · rcases marked with rfl | rfl
      · exact .inr rfl
      · exact .inl ⟨'$', rfl, rfl⟩
    · exact fun d member => List.contains_iff_mem.mpr (signs d member)

/-- The characters of such a name have no other upper case. -/
theorem fixed_of_upper_rest {c : Char} (upper : isUpperRest c = true) :
    c.toNat < 128 ∧ capital c = c := by
  have codes : c.toNat < 97 := by
    simp only [isUpperRest, isUpperStart, isDigit, Bool.or_eq_true, Bool.and_eq_true, beq_iff_eq,
      decide_eq_true_eq] at upper
    rcases upper with (rfl | ⟨-, high⟩) | ⟨-, high⟩
    · decide
    · omega
    · omega
  refine ⟨by omega, ?_⟩
  rcases capital_codes c with ⟨low, -, -⟩ | ⟨special, -⟩ | own
  · omega
  · simp only [List.mem_cons, List.not_mem_nil, or_false] at special
    omega
  · exact own

section Capitalised

variable {name mark core types : Text} (shape : Capitalised name mark core types)

include shape

theorem upper_of_capitalised : upper name = name := by
  have fixed : ∀ c ∈ name, c.toNat < 128 ∧ capital c = c := by
    have signs : ∀ c ∈ '$' :: "$%&!#~".toList, c.toNat < 128 ∧ capital c = c := fun c member =>
      have all : ('$' :: "$%&!#~".toList).all (fun c => c.toNat < 128 ∧ capital c = c) := by decide
      of_decide_eq_true (List.all_eq_true.mp all c member)
    intro c member
    rw [shape.split, List.mem_append, List.mem_append] at member
    rcases member with inMark | inCore | inTypes
    · rcases shape.mark with rfl | rfl
      · cases inMark
      · exact signs c (List.mem_cons.mpr (.inl (List.mem_singleton.mp inMark)))
    · exact fixed_of_upper_rest ((is_upper_rest_iff c).mpr (shape.core.2 c inCore))
    · exact signs c (List.mem_cons_of_mem _ (shape.types c inTypes))
  rw [upper_of_ascii fun c member => (fixed c member).1]
  exact (List.map_congr_left fun c member => (fixed c member).2).trans (List.map_id name)

theorem without_sigils_of_capitalised : withoutSigils name = mark ++ core := by
  have types : ∀ c ∈ types, isKeywordSigil c = true := fun c member =>
    List.contains_iff_mem.mpr (shape.types c member)
  have signs : ∀ c ∈ "$%&!#~".toList, (!isUpperRest c) = true := List.all_eq_true.mp (by decide)
  obtain ⟨d, last⟩ : ∃ d, core.getLast? = some d := by
    obtain ⟨c, rest, rfl, -⟩ := (in_capitals_iff core).mp shape.core
    exact ⟨_, List.getLast?_cons⟩
  have kept : isKeywordSigil d = false := by
    have upper := (is_upper_rest_iff d).mpr (shape.core.2 d (List.mem_of_getLast? last))
    rw [← Bool.not_eq_true]
    intro sigil
    have other := signs d (List.contains_iff_mem.mp sigil)
    rw [upper] at other
    cases other
  rw [withoutSigils, shape.split, ← List.append_assoc, drop_end_append _ _ _ types]
  exact drop_end_of_last _ _ d (by rw [List.getLast?_append, last, Option.some_or]) kept

theorem looks_like_keyword_of_capitalised (starts : keywordShape.startsText name = true) :
    looksLikeKeyword name = true ↔ WorthALook mark core := by
  have idle : (name != upper name || !keywordShape.startsText name) = false := by
    rw [upper_of_capitalised shape, bne_self_eq_false, starts]
    rfl
  have noScore : ∀ word ∈ ["IF", "DO", "TO", "AS", "OR"].map (·.toList), word.head? ≠ some '_' := by
    decide
  have split := shape.split
  obtain ⟨c, rest, rfl, first, -⟩ := (in_capitals_iff core).mp shape.core
  rw [looksLikeKeyword.eq_def, idle, if_neg (by decide), without_sigils_of_capitalised shape]
  rcases shape.mark with rfl | rfl
  · rw [List.nil_append, List.cons_append] at split
    rw [List.nil_append, split]
    split
    next same =>
      obtain ⟨rfl, -⟩ := List.cons.inj same
      rw [decide_eq_true_eq]
      refine ⟨fun long => .inr (.inl ⟨rfl, long⟩), ?_⟩
      rintro (marked | ⟨-, long⟩ | long | short)
      · cases marked
      · exact long
      · exact Nat.lt_of_succ_lt long
      · exact absurd rfl (noScore _ short)
    next same =>
      obtain ⟨rfl, -⟩ := List.cons.inj same
      exact absurd first (by decide)
    next score _ =>
      rw [Bool.or_eq_true, decide_eq_true_eq, List.contains_iff_mem]
      refine ⟨fun worth => .inr (.inr worth), ?_⟩
      rintro (marked | ⟨scored, -⟩ | worth)
      · cases marked
      · obtain rfl := Option.some.inj scored
        exact (score _ rfl).elim
      · exact worth
  · rw [split]
    simp [WorthALook]

end Capitalised

/-- A name looks like a keyword exactly when it is written in capitals and worth a look. -/
theorem looks_like_keyword_iff {name : Text} (clean : '\n' ∉ name) :
    looksLikeKeyword name = true ↔
      ∃ mark core types, Capitalised name mark core types ∧ WorthALook mark core := by
  constructor
  · intro looks
    have starts : keywordShape.startsText name = true := by
      by_contra unshaped
      rw [Bool.not_eq_true] at unshaped
      rw [looksLikeKeyword.eq_def, unshaped, Bool.not_false, Bool.or_true, if_pos rfl] at looks
      cases looks
    obtain ⟨mark, core, types, shape⟩ := (keyword_shape_iff clean).mp starts
    exact ⟨mark, core, types, shape, (looks_like_keyword_of_capitalised shape starts).mp looks⟩
  · rintro ⟨mark, core, types, shape, worth⟩
    have starts := (keyword_shape_iff clean).mpr ⟨mark, core, types, shape⟩
    exact (looks_like_keyword_of_capitalised shape starts).mpr worth

end BasicBench.Check
