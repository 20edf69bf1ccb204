import Mathlib.Algebra.Order.Floor.Ring
import Mathlib.Tactic.Common

/-!
# Interpolation between whole numbers

`between a b t` is the whole number below the point that has gone the part `t` of the way from `a` to `b`,
where `t` is cut off at zero and one. It is `a` up to zero and `b` from one on; in between it rises or
falls with the way, so it never leaves the two.
-/

namespace Infra.Interpolation

variable {K : Type} [Ring K] [LinearOrder K]

/-! ## The way -/

/-- Cut off at zero and one. -/
def clamp (t : K) : K := min 1 (max 0 t)

theorem clamp_mono : Monotone (clamp : K → K) := fun _ _ le =>
  min_le_min_left 1 (max_le_max_left 0 le)

theorem clamp_of_one_le {t : K} (h : 1 ≤ t) : clamp t = 1 := by
  unfold clamp
  exact min_eq_left (h.trans (le_max_right 0 t))

variable [IsStrictOrderedRing K]

theorem clamp_nonneg (t : K) : 0 ≤ clamp t := le_min zero_le_one (le_max_left 0 t)

theorem clamp_of_nonpos {t : K} (h : t ≤ 0) : clamp t = 0 := by
  unfold clamp
  rw [max_eq_left h, min_eq_right zero_le_one]

/-! ## The point -/

variable [FloorRing K]

/-- The integer below the point at `t` between two integers. -/
def between (a b : ℤ) (t : K) : ℤ := ⌊(a : K) + ((b - a : ℤ) : K) * clamp t⌋

variable {a b : ℤ} {t : K}

/-- The near end. -/
theorem between_of_nonpos (h : t ≤ 0) : between a b t = a := by
  unfold between
  rw [clamp_of_nonpos h, mul_zero, add_zero, Int.floor_intCast]

/-- The far end. -/
theorem between_of_one_le (h : 1 ≤ t) : between a b t = b := by
  unfold between
  rw [clamp_of_one_le h, mul_one, ← Int.cast_add, add_sub_cancel, Int.floor_intCast]

/-- A rising interpolation does not fall. -/
theorem between_mono (rises : a ≤ b) {t t' : K} (le : t ≤ t') : between a b t ≤ between a b t' := by
  have slope : (0 : K) ≤ (b - a : ℤ) := Int.cast_nonneg (sub_nonneg.2 rises)
  exact Int.floor_le_floor (add_le_add_right (mul_le_mul_of_nonneg_left (clamp_mono le) slope) _)

/-- A falling one does not rise. -/
theorem between_anti (falls : b ≤ a) {t t' : K} (le : t ≤ t') : between a b t' ≤ between a b t := by
  have slope : ((b - a : ℤ) : K) ≤ 0 := Int.cast_nonpos.2 (sub_nonpos.2 falls)
  exact Int.floor_le_floor (add_le_add_right (mul_le_mul_of_nonpos_left (clamp_mono le) slope) _)

/-- **It stays between its ends:** either end is reached by going back, or on, far enough. -/
theorem between_mem (a b : ℤ) (t : K) : min a b ≤ between a b t ∧ between a b t ≤ max a b := by
  have near : between a b (min t 0) = a := between_of_nonpos (min_le_right t 0)
  have far : between a b (max t 1) = b := between_of_one_le (le_max_right t 1)
  rcases le_total a b with rises | falls
  · rw [min_eq_left rises, max_eq_right rises]
    constructor
    · calc a = between a b (min t 0) := near.symm
        _ ≤ between a b t := between_mono rises (min_le_left t 0)
    · calc between a b t ≤ between a b (max t 1) := between_mono rises (le_max_left t 1)
        _ = b := far
  · rw [min_eq_right falls, max_eq_left falls]
    constructor
    · calc b = between a b (max t 1) := far.symm
        _ ≤ between a b t := between_anti falls (le_max_left t 1)
    · calc between a b t ≤ between a b (min t 0) := between_anti falls (min_le_left t 0)
        _ = a := near

end Infra.Interpolation
