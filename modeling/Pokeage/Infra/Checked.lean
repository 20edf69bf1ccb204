import Mathlib.Algebra.GroupWithZero.Nat
import Mathlib.Data.Nat.Basic
import Mathlib.Tactic.Common
import Pokeage.Infra.Except

/-!
# Checked arithmetic and shares

Unsigned integers of a given width are natural numbers below a power of two, and a checked operation says
whether its result is one. `mulDiv` takes a share of an amount by a product in a wide type and a division,
and narrows the result: only the narrowing can fail once the wide type has room for a product.

A share is rounded down, so shares of parts add up to less than the share of the whole, by less than one
for each part.
-/

namespace Infra.Checked

/-! ## Operations -/

/-- `checked_mul` on integers of `w` bits. -/
def mul (w a b : ℕ) : Option ℕ := if a * b < 2 ^ w then some (a * b) else none

/-- `checked_div`. A quotient is never wider than what is divided. -/
def div (a b : ℕ) : Option ℕ := if b = 0 then none else some (a / b)

/-- A product has room in twice the width. -/
theorem product_lt {w v a b : ℕ} (ha : a < 2 ^ v) (hb : b < 2 ^ v) (room : v + v ≤ w) :
    a * b < 2 ^ w := by
  calc a * b < 2 ^ v * 2 ^ v := Nat.mul_lt_mul'' ha hb
    _ = 2 ^ (v + v) := (Nat.pow_add 2 v v).symm
    _ ≤ 2 ^ w := Nat.pow_le_pow_right Nat.zero_lt_two room

theorem mul_of_lt {w a b : ℕ} (h : a * b < 2 ^ w) : mul w a b = some (a * b) := if_pos h

theorem div_of_ne_zero {a b : ℕ} (h : b ≠ 0) : div a b = some (a / b) := if_neg h

variable {ε : Type}

/-- `a * b / d` in integers of `w` bits, narrowed to `v` bits, with the error of each step. -/
def mulDiv (w v : ℕ) (onMul onDiv onNarrow : ε) (a b d : ℕ) : Except ε ℕ := do
  let product ← orError (mul w a b) onMul
  let quotient ← orError (div product d) onDiv
  require (quotient < 2 ^ v) onNarrow
  return quotient

/-- The division never fails, so the product and the narrowing are the two guards. -/
theorem mulDiv_of_ne_zero {w v a b d : ℕ} {onMul onDiv onNarrow : ε} (nonzero : d ≠ 0) :
    mulDiv w v onMul onDiv onNarrow a b d = (do
      require (a * b < 2 ^ w) onMul
      require (a * b / d < 2 ^ v) onNarrow
      return a * b / d) := by
  unfold mulDiv mul
  by_cases wide : a * b < 2 ^ w
  · rw [if_pos wide, orError_some, ok_bind, div_of_ne_zero nonzero, require_of wide]
    rfl
  · rw [if_neg wide, require_of_not wide]
    rfl

/-- **Only the narrowing fails** when the wide type has room for a product. -/
theorem mulDiv_eq {w v a b d : ℕ} {onMul onDiv onNarrow : ε} (ha : a < 2 ^ v) (hb : b < 2 ^ v)
    (room : v + v ≤ w) (nonzero : d ≠ 0) :
    mulDiv w v onMul onDiv onNarrow a b d =
      if a * b / d < 2 ^ v then .ok (a * b / d) else .error onNarrow := by
  rw [mulDiv_of_ne_zero nonzero, require_of (product_lt ha hb room), ok_bind]
  by_cases narrow : a * b / d < 2 ^ v
  · rw [require_of narrow, ok_bind, if_pos narrow]
    rfl
  · rw [require_of_not narrow, error_bind, if_neg narrow]

/-! ## Shares -/

/-- A share of at most the whole is at most the amount. -/
theorem share_le {r d : ℕ} (h : r ≤ d) (a : ℕ) : a * r / d ≤ a := by
  refine Nat.div_le_of_le_mul ?_
  rw [Nat.mul_comm d]
  exact Nat.mul_le_mul_left a h

/-- Nothing fails on such a share. -/
theorem mulDiv_of_le {w v a r d : ℕ} {onMul onDiv onNarrow : ε} (ha : a < 2 ^ v) (h : r ≤ d)
    (hd : d < 2 ^ v) (room : v + v ≤ w) (nonzero : d ≠ 0) :
    mulDiv w v onMul onDiv onNarrow a r d = .ok (a * r / d) := by
  rw [mulDiv_eq ha (Nat.lt_of_le_of_lt h hd) room nonzero]
  exact if_pos (Nat.lt_of_le_of_lt (share_le h a) ha)

/-- Rounding twice loses no more than one. -/
theorem add_div_le {d : ℕ} (positive : 0 < d) (x y : ℕ) : (x + y) / d ≤ x / d + y / d + 1 := by
  rw [Nat.add_div positive]
  split <;> omega

/-- The shares of the parts do not exceed that of the whole. -/
theorem sum_share_le (r d : ℕ) (parts : List ℕ) :
    (parts.map fun a => a * r / d).sum ≤ parts.sum * r / d := by
  induction parts with
  | nil => simp
  | cons a parts ih =>
    rw [List.map_cons, List.sum_cons, List.sum_cons, Nat.add_mul]
    have split : a * r / d + parts.sum * r / d ≤ (a * r + parts.sum * r) / d :=
      Nat.div_add_div_le_add_div
    omega

/-- **Each part loses less than one** to rounding, and the first none. -/
theorem share_sum_lt {d : ℕ} (positive : 0 < d) (r : ℕ) {parts : List ℕ} (some_ : parts ≠ []) :
    parts.sum * r / d < (parts.map fun a => a * r / d).sum + parts.length := by
  induction parts with
  | nil => exact absurd rfl some_
  | cons a parts ih =>
    rw [List.map_cons, List.sum_cons, List.sum_cons, List.length_cons, Nat.add_mul]
    by_cases last : parts = []
    · subst last
      simp
    · have rest := ih last
      have split := add_div_le positive (a * r) (parts.sum * r)
      omega

end Infra.Checked
