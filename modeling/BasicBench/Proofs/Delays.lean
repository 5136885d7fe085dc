import Mathlib.Algebra.Order.Ring.Nat
import Mathlib.Tactic.Ring
import BasicBench.Instrument.Scaffold

/-!
Where double precision ends. The exponent that a ratio is rounded with grows with the ratio, so a
ratio is too large for a number exactly from the point halfway past the largest number on, where
rounding to even already goes up. For the timeout of a program this is the one way in which the
console block can fail to be built.
-/

set_option autoImplicit false

namespace BasicBench.Number

/-- Below the next integer but one, a quotient is rounded up to an even integer exactly from the
half on: there the tie goes up as well. -/
theorem round_up_iff (quotient numerator denominator : Nat) (odd : quotient % 2 = 1)
    (below : numerator < (quotient + 1) * denominator) :
    roundDiv numerator denominator = quotient + 1 ↔
      (2 * quotient + 1) * denominator ≤ 2 * numerator := by
  have positive : 0 < denominator := by
    by_contra none
    simp [Nat.eq_zero_of_not_pos none] at below
  have division := Nat.div_add_mod numerator denominator
  have bound := Nat.mod_lt numerator positive
  have within : numerator / denominator < quotient + 1 := (Nat.div_lt_iff_lt_mul positive).mpr below
  have twice : (2 * quotient + 1) * denominator = 2 * (denominator * quotient) + denominator := by
    ring
  rw [twice]
  simp only [roundDiv]
  generalize numerator / denominator = whole at *
  generalize numerator % denominator = rest at *
  rcases Nat.lt_or_eq_of_le (Nat.le_of_lt_succ within) with fewer | rfl
  · have room : denominator * whole + denominator ≤ denominator * quotient := by
      rw [← Nat.mul_succ]
      exact Nat.mul_le_mul_left denominator fewer
    constructor
    · intro up
      split at up <;> omega
    · intro large
      omega
  · simp only [Bool.or_eq_true, decide_eq_true_eq, Bool.and_eq_true, beq_iff_eq, odd, and_true]
    split
    next up => exact ⟨fun _ => by omega, fun _ => rfl⟩
    next down => exact ⟨fun same => by omega, fun large => by omega⟩

namespace Binary64

theorem scale_down (power numerator denominator : Nat) :
    scale 2 (-(power : Int)) numerator denominator = (numerator, denominator * 2 ^ power) := by
  cases power with
  | zero => simp [scale]
  | succ power => rfl

/-- The exponent of a ratio reaches a level exactly when the ratio does. -/
theorem exponent_ge_iff (level numerator denominator : Nat) (above : numerator ≠ 0)
    (below : denominator ≠ 0) :
    (level : Int) ≤ exponentOf numerator denominator ↔
      2 ^ (52 + level) * denominator ≤ numerator := by
  have leastAbove := Nat.log2_self_le above
  have leastBelow := Nat.log2_self_le below
  have mostAbove := Nat.lt_log2_self (n := numerator)
  have mostBelow := Nat.lt_log2_self (n := denominator)
  simp only [exponentOf, Int.ofNat_eq_natCast, Nat.pow_eq]
  generalize numerator.log2 = upper at *
  generalize denominator.log2 = lower at *
  rcases lt_trichotomy ((upper : Int) - lower - 52) level with less | equal | more
  · have short : upper + 1 ≤ 52 + level + lower := by omega
    have small : numerator < 2 ^ (52 + level) * denominator := calc
      numerator < 2 ^ (upper + 1) := mostAbove
      _ ≤ 2 ^ (52 + level + lower) := Nat.pow_le_pow_right (by decide) short
      _ = 2 ^ (52 + level) * 2 ^ lower := Nat.pow_add ..
      _ ≤ 2 ^ (52 + level) * denominator := Nat.mul_le_mul_left _ leastBelow
    refine iff_of_false ?_ (Nat.not_le.mpr small)
    split <;> omega
  · have room : 0 < denominator * 2 ^ level :=
      Nat.mul_pos (Nat.pos_of_ne_zero below) (Nat.two_pow_pos level)
    have same : 2 ^ 52 * (denominator * 2 ^ level) = 2 ^ (52 + level) * denominator := by
      rw [Nat.pow_add]
      ring
    simp only [equal, scale_down, Nat.div_lt_iff_lt_mul room, same]
    split <;> omega
  · have long : 52 + level + (lower + 1) ≤ upper := by omega
    have large : 2 ^ (52 + level) * denominator ≤ numerator := calc
      2 ^ (52 + level) * denominator
      _ ≤ 2 ^ (52 + level) * 2 ^ (lower + 1) := Nat.mul_le_mul_left _ mostBelow.le
      _ = 2 ^ (52 + level + (lower + 1)) := (Nat.pow_add ..).symm
      _ ≤ 2 ^ upper := Nat.pow_le_pow_right (by decide) long
      _ ≤ numerator := leastAbove
    refine iff_of_true ?_ large
    split <;> omega

/-- Rounding goes too far past the last exponent, or where it carries a mantissa out of it. -/
theorem of_ratio_none_cases (numerator denominator : Nat) (above : numerator ≠ 0) :
    ofRatio? numerator denominator = none ↔
      971 < exponentOf numerator denominator ∨ exponentOf numerator denominator = 971 ∧
        mantissaAt (exponentOf numerator denominator) numerator denominator = 2 ^ 53 := by
  simp only [ofRatio?, if_neg above, Nat.pow_eq]
  generalize exponentOf numerator denominator = exponent
  by_cases carries : mantissaAt exponent numerator denominator = 2 ^ 53
  · simp only [carries, if_true, ite_eq_left_iff, reduceCtorEq, imp_false, and_true]
    omega
  · simp only [carries, if_false, ite_eq_left_iff, reduceCtorEq, imp_false, and_false, or_false]
    omega

/-- A ratio is too large for a number exactly from halfway past the largest number on. -/
theorem of_ratio_none_iff (numerator denominator : Nat) (below : denominator ≠ 0) :
    ofRatio? numerator denominator = none ↔
      (2 ^ 54 - 1) * (2 ^ 970 * denominator) ≤ numerator := by
  -- under a name, the exponent stays a numeral that no tactic computes the power of
  obtain ⟨top, last⟩ : ∃ top, top = 970 := ⟨970, rfl⟩
  rw [← last]
  have unit : 0 < 2 ^ top * denominator :=
    Nat.mul_pos (Nat.two_pow_pos top) (Nat.pos_of_ne_zero below)
  have place (level : Nat) : 2 ^ (52 + (top + level)) * denominator =
      2 ^ (52 + level) * (2 ^ top * denominator) := by
    rw [← Nat.mul_assoc, ← Nat.pow_add]
    congr 2
    omega
  by_cases above : numerator = 0
  · subst above
    refine iff_of_false (by simp [ofRatio?]) (Nat.not_le.mpr ?_)
    exact Nat.mul_pos (by decide) unit
  have huge := exponent_ge_iff (top + 2) numerator denominator above below
  have edge := exponent_ge_iff (top + 1) numerator denominator above below
  have finest : mantissaAt ((top + 1 : Nat) : Int) numerator denominator =
      roundDiv numerator (2 * (2 ^ top * denominator)) := by
    simp only [mantissaAt, scale_down]
    congr 1
    ring
  have rounds := round_up_iff (2 ^ 53 - 1) numerator (2 * (2 ^ top * denominator)) (by decide)
  rw [place 2] at huge
  rw [place 1] at edge
  rw [of_ratio_none_cases numerator denominator above]
  generalize exponentOf numerator denominator = exponent at *
  generalize 2 ^ top * denominator = unit at *
  rcases lt_trichotomy exponent ((top + 1 : Nat) : Int) with small | rfl | large
  · exact iff_of_false (by omega) (by omega)
  · rw [finest]
    have up := rounds (by omega)
    omega
  · exact iff_of_true (by omega) (by omega)

end Binary64
end BasicBench.Number

namespace BasicBench.Instrument

/-- The least timeout whose tenth is too large for a number. -/
def longTimeout : Nat := 10 * (2 ^ 1024 - 2 ^ 970)

theorem console_block_none_iff (timeout : Int) (autoExit : Bool) :
    consoleBlock? timeout autoExit = none ↔ longTimeout ≤ timeout.natAbs := by
  have limit : longTimeout = (2 ^ 54 - 1) * (2 ^ 970 * 10) := by decide +kernel
  rw [consoleBlock?, delayText?, Option.map_eq_none_iff, Option.map_eq_none_iff,
    Number.Binary64.of_ratio_none_iff _ _ (by decide), limit]

end BasicBench.Instrument
