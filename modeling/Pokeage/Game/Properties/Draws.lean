import Pokeage.Game.Properties.SaveText

/-!
# Draws in doubles

Every draw of the generator stays in its bounds, whatever its state (`draws_mem`). The bounds are such
that the numbers of the model are those of a script: no operation of a draw overflows or is subnormal
(`Span`), and rounding the integers changes none of them (`SafeRange`).
-/

namespace Pokeage.Game

open Infra.Rounding

variable (pow : ℚ → ℚ → ℚ)

namespace Rng

/-! ## Integers -/

/-- `int` with every operation rounded: the width, the number of outcomes and the last sum, too. -/
def intRounded (fl : Floats) (r : Rng) (min max : ℤ) : ℚ :=
  let lo := if max < min then max else min
  let hi := if max < min then min else max
  fl (lo + ⌊fl (r.next.1 * fl (fl (hi - lo) + 1))⌋)

/-- Two integers that doubles hold, as they hold the number of those from the one to the other. -/
structure SafeRange (a b : ℤ) : Prop where
  left : |a| < 2 ^ 53
  right : |b| < 2 ^ 53
  outcomes : |a - b| + 1 < 2 ^ 53

/-- No rounding of an integer changes it. -/
theorem int_rounded (r : Rng) {a b : ℤ} (safe : SafeRange a b) :
    r.intRounded (doubleFloats pow) a b = (r.int (doubleFloats pow) a b).1 := by
  have mem := r.int_mem (doubleFloats_parts pow) a b
  have lower : (if b < a then b else a) = min a b := by
    split_ifs <;> omega
  have upper : (if b < a then a else b) = max a b := by
    split_ifs <;> omega
  have left := abs_lt.1 safe.left
  have right := abs_lt.1 safe.right
  have apart : max a b - min a b = |a - b| := max_sub_min_eq_abs' a b
  have outcomes := safe.outcomes
  have nonneg := abs_nonneg (a - b)
  unfold intRounded
  unfold int at mem ⊢
  dsimp only at mem ⊢
  rw [lower, upper] at mem ⊢
  generalize min a b = lo at *
  generalize max a b = hi at *
  have width : roundTo 53 ((hi : ℚ) - lo) = hi - lo := by
    have fits := roundTo_intCast (p := 53) (hi - lo) (by rw [abs_lt]; omega)
    push_cast at fits
    exact fits
  have count : roundTo 53 ((hi : ℚ) - lo + 1) = hi - lo + 1 := by
    have fits := roundTo_intCast (p := 53) (hi - lo + 1) (by rw [abs_lt]; omega)
    push_cast at fits
    exact fits
  show roundTo 53 (lo + ⌊roundTo 53 (r.next.1 * roundTo 53 (roundTo 53 ((hi : ℚ) - lo) + 1))⌋) =
    ((lo + ⌊roundTo 53 (r.next.1 * ((hi : ℚ) - lo + 1))⌋ : ℤ) : ℚ)
  rw [width, count]
  have sum := roundTo_intCast (p := 53) (lo + ⌊roundTo 53 (r.next.1 * ((hi : ℚ) - lo + 1))⌋)
    (by
      have low : lo ≤ lo + ⌊roundTo 53 (r.next.1 * ((hi : ℚ) - lo + 1))⌋ := mem.1
      have high : lo + ⌊roundTo 53 (r.next.1 * ((hi : ℚ) - lo + 1))⌋ ≤ hi := mem.2
      rw [abs_lt]
      omega)
  push_cast at sum ⊢
  exact sum

/-! ## Fractions -/

/-- Two doubles with a finite distance: none, or one that a draw does not cut into subnormal parts. -/
structure Span (lo hi : ℚ) : Prop where
  low : IsDouble lo
  high : IsDouble hi
  le : lo ≤ hi
  finite : roundTo 53 (hi - lo) < 2 ^ 1024
  wide : lo = hi ∨ 1 / 2 ^ 990 ≤ hi - lo

/-- The rounded width of an interval, cut by a draw and rounded again, is at most the width. -/
theorem part_le (r : Rng) {w : ℚ} (nonneg : 0 ≤ w) :
    roundTo 53 (r.next.1 * roundTo 53 w) ≤ w := by
  have wide : 0 ≤ roundTo 53 w := roundTo_nonneg (by decide) nonneg
  have step : r.next.1 * (1 + 1 / 2 ^ 53) ^ 2 ≤ 1 := by
    have le := r.next_le
    nlinarith
  calc roundTo 53 (r.next.1 * roundTo 53 w)
      ≤ r.next.1 * roundTo 53 w * (1 + 1 / 2 ^ 53) := roundTo_le (mul_nonneg r.next_nonneg wide)
    _ ≤ r.next.1 * (w * (1 + 1 / 2 ^ 53)) * (1 + 1 / 2 ^ 53) := by
      refine mul_le_mul_of_nonneg_right ?_ (by norm_num)
      exact mul_le_mul_of_nonneg_left (roundTo_le nonneg) r.next_nonneg
    _ = r.next.1 * (1 + 1 / 2 ^ 53) ^ 2 * w := by ring
    _ ≤ 1 * w := mul_le_mul_of_nonneg_right step nonneg
    _ = w := one_mul w

/-- A fraction is drawn between the two bounds. -/
theorem float_mem (r : Rng) {lo hi : ℚ} (le : lo ≤ hi) :
    roundTo 53 lo ≤ (r.float (doubleFloats pow) lo hi).1 ∧
      (r.float (doubleFloats pow) lo hi).1 ≤ roundTo 53 hi := by
  have width : 0 ≤ hi - lo := sub_nonneg.2 le
  have part := r.part_le width
  have nonneg : 0 ≤ roundTo 53 (r.next.1 * roundTo 53 (hi - lo)) :=
    roundTo_nonneg (by decide) (mul_nonneg r.next_nonneg (roundTo_nonneg (by decide) width))
  show roundTo 53 lo ≤ roundTo 53 (lo + roundTo 53 (r.next.1 * roundTo 53 (hi - lo))) ∧
    roundTo 53 (lo + roundTo 53 (r.next.1 * roundTo 53 (hi - lo))) ≤ roundTo 53 hi
  constructor
  · exact roundTo_mono (by decide) (by linarith)
  · exact roundTo_mono (by decide) (by linarith)

/-- A draw is a multiple of `1 / 2 ^ 32`. -/
theorem next_eq_zero_or (r : Rng) : r.next.1 = 0 ∨ 1 / 2 ^ 32 ≤ r.next.1 := by
  unfold next
  dsimp only
  generalize (_ ^^^ _ : UInt32).toNat = n
  rcases Nat.eq_zero_or_pos n with rfl | pos
  · exact .inl (by simp)
  · have one : (1 : ℚ) ≤ n := Nat.one_le_cast.2 pos
    refine .inr ?_
    rw [div_le_div_iff₀ (by norm_num) (by norm_num)]
    linarith

/-- Rounding keeps a number above a power of two. -/
theorem two_zpow_le_roundTo {k : ℤ} {q : ℚ} (le : (2 : ℚ) ^ k ≤ q) :
    (2 : ℚ) ^ k ≤ roundTo 53 q := by
  have mono := roundTo_mono (p := 53) (by decide) le
  rwa [roundTo_two_zpow (by decide)] at mono

/-- **Nothing overflows and nothing is subnormal** on the way to a fraction: neither the width nor the part
of it that is drawn. -/
theorem Span.normal {lo hi : ℚ} (span : Span lo hi) (r : Rng) :
    Text.Normal (roundTo 53 (hi - lo)) ∧
      Text.Normal (roundTo 53 (r.next.1 * roundTo 53 (hi - lo))) := by
  rcases span.wide with rfl | wide
  · rw [sub_self, roundTo_zero, mul_zero, roundTo_zero]
    exact ⟨.inl rfl, .inl rfl⟩
  · have low : (2 : ℚ) ^ (-990 : ℤ) ≤ roundTo 53 (hi - lo) := by
      refine two_zpow_le_roundTo ?_
      rw [zpow_neg, ← one_div]
      exact_mod_cast wide
    have pos : 0 < roundTo 53 (hi - lo) := (zpow_pos (by norm_num) _).trans_le low
    have normal {q : ℚ} (below : (2 : ℚ) ^ (-1022 : ℤ) ≤ q) (above : q < 2 ^ 1024) : Text.Normal q := by
      have nonneg : 0 ≤ q := (zpow_nonneg (by norm_num) _).trans below
      rw [zpow_neg, ← one_div] at below
      refine .inr ?_
      rw [abs_of_nonneg nonneg]
      exact ⟨by exact_mod_cast below, above⟩
    refine ⟨normal ((zpow_le_zpow_right₀ (by norm_num) (by norm_num)).trans low) span.finite, ?_⟩
    rcases r.next_eq_zero_or with none | some
    · rw [none, zero_mul, roundTo_zero]
      exact .inl rfl
    · refine normal (two_zpow_le_roundTo ?_) ?_
      · calc (2 : ℚ) ^ (-1022 : ℤ) = 1 / 2 ^ 32 * 2 ^ (-990 : ℤ) := by
              rw [one_div, ← zpow_natCast, ← zpow_neg, ← zpow_add₀ (by norm_num)]
              norm_num
          _ ≤ r.next.1 * roundTo 53 (hi - lo) :=
            mul_le_mul some low (zpow_nonneg (by norm_num) _) r.next_nonneg
      · have part : r.next.1 * roundTo 53 (hi - lo) ≤ roundTo 53 (hi - lo) := by
          have le := r.next_le
          exact mul_le_of_le_one_left pos.le (by linarith)
        have mono := roundTo_mono (p := 53) (by decide) part
        rw [roundTo_roundTo (by decide)] at mono
        exact mono.trans_lt span.finite

/-! ## All draws -/

/-- **In doubles every draw stays in its bounds**, whatever the state of the generator: an integer
between two bounds in either order, a fraction between two doubles, an element of an array that is not
empty. The integers are those of rounding at every step, and no step to a fraction overflows or is
subnormal. -/
theorem draws_mem (r : Rng) :
    (∀ a b, SafeRange a b → min a b ≤ (r.int (doubleFloats pow) a b).1 ∧
      (r.int (doubleFloats pow) a b).1 ≤ max a b ∧
      r.intRounded (doubleFloats pow) a b = (r.int (doubleFloats pow) a b).1) ∧
    (∀ lo hi, Span lo hi → lo ≤ (r.float (doubleFloats pow) lo hi).1 ∧
      (r.float (doubleFloats pow) lo hi).1 ≤ hi ∧ Text.Normal (roundTo 53 (hi - lo)) ∧
      Text.Normal (roundTo 53 (r.next.1 * roundTo 53 (hi - lo)))) ∧
    (∀ {α : Type} (arr : List α), arr ≠ [] →
      ∃ x ∈ arr, (r.pick (doubleFloats pow) arr).1 = some x) := by
  refine ⟨?_, ?_, ?_⟩
  · intro a b safe
    obtain ⟨low, high⟩ := r.int_mem (doubleFloats_parts pow) a b
    exact ⟨low, high, r.int_rounded pow safe⟩
  · intro lo hi span
    have mem := r.float_mem pow span.le
    rw [span.low.fixed, span.high.fixed] at mem
    exact ⟨mem.1, mem.2, span.normal r⟩
  · intro α arr nonempty
    obtain ⟨x, mem, eq⟩ := r.pick_mem (doubleFloats_parts pow) nonempty
    exact ⟨x, mem, congrArg Prod.fst eq⟩

/-- A die, a share of the hit points and a coin, from the generator of no seed. -/
theorem draws_mem_default :
    (1 ≤ (new.int (doubleFloats fun _ _ => 1) 1 6).1 ∧ (new.int (doubleFloats fun _ _ => 1) 1 6).1 ≤ 6) ∧
      (0 ≤ (new.float (doubleFloats fun _ _ => 1) 0 1).1 ∧
        (new.float (doubleFloats fun _ _ => 1) 0 1).1 ≤ 1) ∧
      ∃ x ∈ [true, false], (new.pick (doubleFloats fun _ _ => 1) [true, false]).1 = some x := by
  obtain ⟨int, float, pick⟩ := draws_mem (fun _ _ => 1) new
  have one : IsDouble 1 := by exact_mod_cast isDouble_of_lt (n := 1) (by norm_num)
  have unit : Span 0 1 :=
    { low := by exact_mod_cast isDouble_of_lt (n := 0) (by norm_num)
      high := one
      le := by norm_num
      finite := by
        rw [sub_zero, one.fixed]
        exact one_lt_pow₀ (by norm_num) (by decide)
      wide := by
        rw [sub_zero]
        exact .inr ((div_le_one (by positivity)).2 (one_le_pow₀ (by norm_num))) }
  obtain ⟨low, high, -⟩ := int 1 6 ⟨by norm_num, by norm_num, by norm_num⟩
  obtain ⟨least, most, -⟩ := float 0 1 unit
  exact ⟨⟨low, high⟩, ⟨least, most⟩, pick _ (by simp)⟩

end Rng

end Pokeage.Game
