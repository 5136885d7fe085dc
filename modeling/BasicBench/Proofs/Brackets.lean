import Mathlib.Logic.Basic

/-!
Words of brackets of several kinds. `Balanced` is the language of matching brackets, given by its
grammar alone. `Closing` follows a word from left to right with the brackets that are still open,
which is what a reader with a stack needs: each bracket of the word is one equation.
-/

set_option autoImplicit false

namespace BasicBench.Check

inductive Bracket (Kind : Type) where
  | opens (kind : Kind)
  | closes (kind : Kind)
  deriving DecidableEq, Repr

namespace Bracket

variable {Kind : Type}

def kind : Bracket Kind → Kind
  | opens kind | closes kind => kind

end Bracket

section Words

variable {Kind : Type}

/-- The words in which every bracket has its partner: nothing, or a balanced word between two
brackets of one kind with a balanced word behind them. -/
inductive Balanced : List (Bracket Kind) → Prop
  | empty : Balanced []
  | pair (kind : Kind) {inner rest : List (Bracket Kind)} (within : Balanced inner)
      (behind : Balanced rest) : Balanced (.opens kind :: inner ++ .closes kind :: rest)

/-- The words that close the brackets of a stack, the innermost first, and are balanced between
the closing brackets and behind them. -/
def Closing : List Kind → List (Bracket Kind) → Prop
  | [], word => Balanced word
  | kind :: outer, word =>
      ∃ inner rest, word = inner ++ .closes kind :: rest ∧ Balanced inner ∧ Closing outer rest

theorem closing_empty (stack : List Kind) : Closing stack [] ↔ stack = [] := by
  cases stack with
  | nil => exact ⟨fun _ => rfl, fun _ => .empty⟩
  | cons kind outer => simp [Closing]

theorem balanced_opens (kind : Kind) (word : List (Bracket Kind)) :
    Balanced (.opens kind :: word) ↔ Closing [kind] word := by
  constructor
  · intro balanced
    generalize shape : Bracket.opens kind :: word = whole at balanced
    cases balanced with
    | empty => cases shape
    | pair other within behind =>
        obtain ⟨same, rfl⟩ := List.cons.inj shape
        cases same
        exact ⟨_, _, rfl, within, behind⟩
  · rintro ⟨inner, rest, rfl, within, behind⟩
    exact .pair kind within behind

theorem not_balanced_closes (kind : Kind) (word : List (Bracket Kind)) :
    ¬Balanced (.closes kind :: word) := by
  intro balanced
  generalize shape : Bracket.closes kind :: word = whole at balanced
  cases balanced with
  | empty => cases shape
  | pair other within behind => cases shape

/-- An opening bracket waits for its partner. -/
theorem closing_opens (stack : List Kind) (kind : Kind) (word : List (Bracket Kind)) :
    Closing stack (.opens kind :: word) ↔ Closing (kind :: stack) word := by
  cases stack with
  | nil => exact balanced_opens kind word
  | cons top outer =>
      constructor
      · rintro ⟨inner, rest, split, within, behind⟩
        cases inner with
        | nil => cases split
        | cons first inner =>
            obtain ⟨rfl, rfl⟩ := List.cons.inj split
            obtain ⟨left, right, rfl, leftBalanced, rightBalanced⟩ :=
              (balanced_opens kind inner).mp within
            exact ⟨left, right ++ .closes top :: rest, by simp, leftBalanced, right, rest, rfl,
              rightBalanced, behind⟩
      · rintro ⟨left, _, rfl, leftBalanced, right, rest, rfl, rightBalanced, behind⟩
        exact ⟨.opens kind :: left ++ .closes kind :: right, rest, by simp,
          .pair kind leftBalanced rightBalanced, behind⟩

/-- A closing bracket takes the innermost open one, which has to be of its kind. -/
theorem closing_closes (stack : List Kind) (kind : Kind) (word : List (Bracket Kind)) :
    Closing stack (.closes kind :: word) ↔
      ∃ outer, stack = kind :: outer ∧ Closing outer word := by
  cases stack with
  | nil => simp [Closing, not_balanced_closes]
  | cons top outer =>
      constructor
      · rintro ⟨inner, rest, split, within, behind⟩
        cases inner with
        | nil =>
            obtain ⟨same, rfl⟩ := List.cons.inj split
            cases same
            exact ⟨outer, rfl, behind⟩
        | cons first inner =>
            obtain ⟨rfl, -⟩ := List.cons.inj split
            exact absurd within (not_balanced_closes kind inner)
      · rintro ⟨_, same, behind⟩
        obtain ⟨rfl, rfl⟩ := List.cons.inj same
        exact ⟨[], word, rfl, .empty, behind⟩

/-- Reads a word from left to right with a stack of what is open. -/
def closesAll [DecidableEq Kind] : List Kind → List (Bracket Kind) → Bool
  | stack, [] => stack.isEmpty
  | stack, .opens kind :: word => closesAll (kind :: stack) word
  | [], .closes _ :: _ => false
  | top :: outer, .closes kind :: word => top == kind && closesAll outer word

theorem closes_all_iff [DecidableEq Kind] (stack : List Kind) (word : List (Bracket Kind)) :
    closesAll stack word = true ↔ Closing stack word := by
  induction word generalizing stack with
  | nil => rw [closesAll, List.isEmpty_iff, closing_empty]
  | cons bracket word induction =>
      cases bracket with
      | opens kind => rw [closesAll, induction, closing_opens]
      | closes kind =>
          rw [closing_closes]
          cases stack with
          | nil => simp [closesAll]
          | cons top outer =>
              rw [closesAll, Bool.and_eq_true, beq_iff_eq, induction]
              simp only [List.cons.injEq, and_assoc, exists_and_left, exists_eq_left']

instance [DecidableEq Kind] (word : List (Bracket Kind)) : Decidable (Balanced word) :=
  decidable_of_iff _ (closes_all_iff [] word)

/-- A balanced word in front opens nothing and closes nothing. -/
theorem closing_balanced_append (stack : List Kind) {inserted : List (Bracket Kind)}
    (balanced : Balanced inserted) (below : List (Bracket Kind)) :
    Closing stack (inserted ++ below) ↔ Closing stack below := by
  induction balanced generalizing stack below with
  | empty => rfl
  | pair kind within behind inner outer =>
      rw [List.append_assoc, List.cons_append, List.cons_append, closing_opens, inner,
        closing_closes]
      constructor
      · rintro ⟨_, same, closing⟩
        obtain ⟨-, rfl⟩ := List.cons.inj same
        exact (outer stack below).mp closing
      · exact fun closing => ⟨stack, rfl, (outer stack below).mpr closing⟩

theorem closing_insert (stack : List Kind) (above : List (Bracket Kind))
    {inserted : List (Bracket Kind)} (balanced : Balanced inserted)
    (below : List (Bracket Kind)) :
    Closing stack (above ++ (inserted ++ below)) ↔ Closing stack (above ++ below) := by
  induction above generalizing stack with
  | nil => exact closing_balanced_append stack balanced below
  | cons bracket above induction =>
      cases bracket with
      | opens kind => rw [List.cons_append, closing_opens, induction, List.cons_append, closing_opens]
      | closes kind =>
          rw [List.cons_append, closing_closes, List.cons_append, closing_closes]
          exact exists_congr fun outer => and_congr_right fun _ => induction outer

/-- Brackets with their partners may be put in anywhere. -/
theorem balanced_insert (above : List (Bracket Kind)) {inserted : List (Bracket Kind)}
    (balanced : Balanced inserted) (below : List (Bracket Kind)) :
    Balanced (above ++ (inserted ++ below)) ↔ Balanced (above ++ below) :=
  closing_insert [] above balanced below

end Words

end BasicBench.Check
