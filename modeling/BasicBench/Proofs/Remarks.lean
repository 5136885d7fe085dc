import BasicBench.Check.Lines
import Mathlib.Algebra.Group.Nat.Even
import Mathlib.Algebra.Ring.Parity

/-!
Where the code of a line ends. A quote opens or closes a string, so a place is inside a string
when an odd number of quotes stands before it; the first apostrophe outside strings opens the
remark. The quotes that count are those before it.
-/

set_option autoImplicit false

namespace BasicBench.Check

open Text

/-- `code` is what stands before the first apostrophe that an even number of quotes precedes, or
the whole text when there is none. `quotes` of them stand above the text. -/
structure CodePart (quotes : Nat) (text code : Text) : Prop where
  no_remark : ∀ before after, code = before ++ '\'' :: after → Odd (quotes + before.count '"')
  ends : code = text ∨ ∃ remark, text = code ++ '\'' :: remark ∧ Even (quotes + code.count '"')

/-- The quotes of a line are closed: an even number of them stands in its code. -/
def QuotesClosed (text : Text) : Prop := ∃ code, CodePart 0 text code ∧ Even (code.count '"')

theorem code_part_nil (quotes : Nat) (code : Text) : CodePart quotes [] code ↔ code = [] := by
  constructor
  · rintro ⟨-, rfl | ⟨remark, split, -⟩⟩
    · rfl
    · simp at split
  · rintro rfl
    exact ⟨by simp, .inl rfl⟩

theorem code_part_ends (quotes : Nat) (c : Char) (rest : Text) :
    CodePart quotes (c :: rest) [] ↔ c = '\'' ∧ Even quotes := by
  constructor
  · rintro ⟨-, nothing | ⟨remark, split, even⟩⟩
    · cases nothing
    · exact ⟨(List.cons.inj split).1, by simpa using even⟩
  · rintro ⟨rfl, even⟩
    exact ⟨by simp, .inr ⟨rest, rfl, by simpa using even⟩⟩

theorem code_part_cons (quotes : Nat) (c d : Char) (rest code : Text) :
    CodePart quotes (c :: rest) (d :: code) ↔
      d = c ∧ (c = '\'' → Odd quotes) ∧
        CodePart (if c = '"' then quotes + 1 else quotes) rest code := by
  have counts : ∀ before : Text, quotes + (c :: before).count '"' =
      (if c = '"' then quotes + 1 else quotes) + before.count '"' := by
    intro before
    by_cases quote : c = '"'
    · simp [quote]
      omega
    · simp [quote]
  constructor
  · rintro ⟨free, ends⟩
    have same : d = c := by
      rcases ends with whole | ⟨remark, split, -⟩
      · exact (List.cons.inj whole).1
      · exact (List.cons.inj split).1.symm
    subst same
    refine ⟨rfl, ?_, ?_, ?_⟩
    · rintro rfl
      simpa using free [] code rfl
    · intro before after split
      rw [← counts]
      exact free (d :: before) after (by rw [split, List.cons_append])
    · rcases ends with whole | ⟨remark, split, even⟩
      · exact .inl (List.cons.inj whole).2
      · exact .inr ⟨remark, (List.cons.inj split).2, counts code ▸ even⟩
  · rintro ⟨rfl, remark, free, ends⟩
    refine ⟨?_, ?_⟩
    · intro before after split
      cases before with
      | nil => simpa using remark (List.cons.inj split).1
      | cons e before =>
          obtain ⟨rfl, rfl⟩ := List.cons.inj split
          rw [counts]
          exact free before after rfl
    · rcases ends with rfl | ⟨remark, rfl, even⟩
      · exact .inl rfl
      · exact .inr ⟨remark, rfl, (counts code).symm ▸ even⟩

/-- The code before the remark is cut off where the grammar of strings says. -/
theorem code_before_comment_iff (quotes : Nat) (text code : Text) :
    codeBeforeComment (decide (Odd quotes)) text = code ↔ CodePart quotes text code := by
  induction text generalizing quotes code with
  | nil => rw [code_part_nil, codeBeforeComment, eq_comm]
  | cons c rest induction =>
      have kept (inside : c = '\'' → Odd quotes) :
          c :: codeBeforeComment (decide (Odd (if c = '"' then quotes + 1 else quotes))) rest =
            code ↔ CodePart quotes (c :: rest) code := by
        cases code with
        | nil =>
            refine iff_of_false (by simp) fun ends => ?_
            obtain ⟨apostrophe, even⟩ := (code_part_ends ..).mp ends
            exact Nat.not_even_iff_odd.mpr (inside apostrophe) even
        | cons d code =>
            rw [code_part_cons, ← induction, List.cons.injEq, eq_comm]
            exact and_congr_right fun _ => (and_iff_right inside).symm
      rw [codeBeforeComment]
      by_cases quote : c = '"'
      · have flips : (!decide (Odd quotes)) = decide (Odd (quotes + 1)) := by
          simp [Nat.odd_add_one, -Nat.not_odd_iff_even]
        rw [if_pos quote, flips]
        simpa only [if_pos quote] using kept (fun apostrophe => by simp [quote] at apostrophe)
      · rw [if_neg quote]
        by_cases remark : c = '\'' ∧ Even quotes
        · rw [if_pos (by simp [remark.1, remark.2])]
          cases code with
          | nil => simp [code_part_ends, remark]
          | cons d code => simp [code_part_cons, remark]
        · have inside : c = '\'' → Odd quotes := fun apostrophe =>
            Nat.not_even_iff_odd.mp fun even => remark ⟨apostrophe, even⟩
          rw [if_neg (by simpa using inside)]
          simpa only [if_neg quote] using kept inside

theorem code_part_of_line (line : SourceLine) (part : Text) :
    CodePart 0 line.text part ↔ code line = part :=
  (code_before_comment_iff 0 line.text part).symm

theorem quotes_closed_iff (line : SourceLine) :
    QuotesClosed line.text ↔ Even ((code line).count '"') := by
  simp only [QuotesClosed, code_part_of_line, exists_eq_left']

theorem quote_findings_nil_iff (line : SourceLine) :
    quoteFindings line = [] ↔ QuotesClosed line.text := by
  rw [quotes_closed_iff, Nat.even_iff, quoteFindings]
  split
  · next even => simp [even]
  · next odd => simp [odd]

end BasicBench.Check
