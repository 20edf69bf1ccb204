import Mathlib.Analysis.SpecialFunctions.Pow.NthRootLemmas
import Mathlib.Tactic.Linarith
import Pokeage.Game.Types

/-!
# Exact arithmetic

Results about stats, experience and damage are about exact fractions: no operation rounds. Powers stay
a parameter, of which a bound is known. `exactFloats` computes them to thirty-two binary places.
-/

namespace Pokeage.Game

/-- Nothing is rounded, and a power of a number from one on is not below one. -/
structure Floats.Exact (fl : Floats) : Prop where
  round (q : ℚ) : fl q = q
  one_le_pow {b e : ℚ} (base : 1 ≤ b) (exponent : 0 < e) : 1 ≤ fl.pow b e

/-- A part of a whole number rounds to a part of it: `Math.floor(u * n)` of a draw `u` stays below
`n`. Doubles do so, too. -/
def Floats.Parts (fl : Floats) : Prop :=
  ∀ (u : ℚ) (n : ℤ), 0 ≤ u → u ≤ 1 - 1 / 2 ^ 32 → 0 < n → 0 ≤ fl (u * n) ∧ fl (u * n) < n

/-- Rounding keeps the order and zero, as that of doubles does. -/
structure Floats.Ordered (fl : Floats) : Prop where
  mono : Monotone fl.round
  zero : fl 0 = 0

theorem Floats.Ordered.nonneg {fl : Floats} (ordered : fl.Ordered) {q : ℚ} (nonneg : 0 ≤ q) :
    0 ≤ fl q := ordered.zero.symm.trans_le (ordered.mono nonneg)

/-- Exact arithmetic keeps the order. -/
theorem Floats.Exact.ordered {fl : Floats} (exact : fl.Exact) : fl.Ordered where
  mono p q le := by
    rw [exact.round, exact.round]
    exact le
  zero := exact.round 0

/-- In exact arithmetic a part of a count stays below it. -/
theorem Floats.Exact.parts {fl : Floats} (exact : fl.Exact) : fl.Parts := by
  intro u n nonneg le positive
  have part : u < 1 := by linarith
  have whole : (0 : ℚ) < n := Int.cast_pos.2 positive
  rw [exact.round]
  exact ⟨mul_nonneg nonneg whole.le, mul_lt_of_lt_one_left whole part⟩

/-- The power of a whole number, cut off after thirty-two binary places. -/
def powCut (b e : ℚ) : ℚ :=
  (Nat.nthRoot e.den (⌊b⌋.toNat ^ e.num.toNat * 2 ^ (32 * e.den)) : ℕ) / 2 ^ 32

/-- Powers of whole numbers are at least one. -/
theorem one_le_powCut {b : ℚ} (e : ℚ) (base : 1 ≤ b) : 1 ≤ powCut b e := by
  have whole : 1 ≤ ⌊b⌋ := Int.le_floor.2 (by simpa using base)
  have power : 1 ≤ ⌊b⌋.toNat ^ e.num.toNat := Nat.one_le_pow _ _ (by omega)
  have root : 2 ^ 32 ≤ Nat.nthRoot e.den (⌊b⌋.toNat ^ e.num.toNat * 2 ^ (32 * e.den)) := by
    rw [← Nat.lt_succ_iff]
    refine lt_of_pow_lt_pow_left₀ e.den (Nat.zero_le _) ?_
    calc (2 ^ 32) ^ e.den = 1 * 2 ^ (32 * e.den) := by rw [one_mul, pow_mul]
      _ ≤ ⌊b⌋.toNat ^ e.num.toNat * 2 ^ (32 * e.den) := Nat.mul_le_mul_right _ power
      _ < _ := Nat.lt_pow_nthRoot_add_one e.den_nz _
  unfold powCut
  rw [le_div_iff₀ (by positivity), one_mul]
  exact_mod_cast root

/-- Arithmetic that rounds nothing. -/
def exactFloats : Floats := ⟨id, powCut⟩

/-- Nothing is rounded. -/
theorem exactFloats_exact : exactFloats.Exact where
  round _ := rfl
  one_le_pow base _ := one_le_powCut _ base

end Pokeage.Game
