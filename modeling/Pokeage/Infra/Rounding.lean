import Mathlib.Data.Int.Log
import Mathlib.Data.Nat.Cast.Order.Field
import Mathlib.Data.Rat.Floor
import Mathlib.Tactic.FieldSimp
import Mathlib.Tactic.LinearCombination
import Mathlib.Tactic.Linarith
import Mathlib.Tactic.Positivity

/-!
# Binary floating-point rounding

`roundEven` rounds a fraction to the nearest whole number, ties to the even one, and `roundTo p` to the
nearest number of `p` significant bits. The exponent has no bounds, so nothing overflows and nothing is
subnormal.

* `roundTo_mono` — rounding keeps the order
* `roundTo_sub_le` — its relative error
* `roundTo_natCast` — whole numbers of so many bits stay
* `roundTo_part` — a part of a whole number stays below it
* `roundTo_roundTo` — what is rounded stays
* `floor_roundTo_div` — a quotient is cut where the exact one is
* `roundTo_of_near` — what lies near a number of so many bits rounds to it
-/

namespace Infra.Rounding

/-! ## To whole numbers -/

/-- The nearest whole number, ties to even. -/
def roundEven (q : ℚ) : ℤ :=
  let below := ⌊q⌋
  let part := q - below
  if part < 1 / 2 then below
  else if 1 / 2 < part then below + 1
  else if below % 2 = 0 then below
  else below + 1

/-- Down by at most a half, or up by at most a half. -/
theorem roundEven_cases (q : ℚ) :
    (roundEven q = ⌊q⌋ ∧ q - ⌊q⌋ ≤ 1 / 2) ∨ (roundEven q = ⌊q⌋ + 1 ∧ 1 / 2 ≤ q - ⌊q⌋) := by
  unfold roundEven
  dsimp only
  split_ifs with low high even
  · exact .inl ⟨rfl, low.le⟩
  · exact .inr ⟨rfl, high.le⟩
  · exact .inl ⟨rfl, not_lt.1 high⟩
  · exact .inr ⟨rfl, not_lt.1 low⟩

@[simp] theorem roundEven_intCast (n : ℤ) : roundEven n = n := by
  unfold roundEven
  simp

/-- The error is at most a half. -/
theorem abs_roundEven_sub_le (q : ℚ) : |(roundEven q : ℚ) - q| ≤ 1 / 2 := by
  have low := Int.floor_le q
  have high := Int.lt_floor_add_one q
  rcases roundEven_cases q with ⟨eq, part⟩ | ⟨eq, part⟩ <;> rw [eq, abs_le]
  · constructor <;> linarith
  · push_cast
    constructor <;> linarith

/-- Rounding to whole numbers keeps the order. -/
theorem roundEven_mono {q r : ℚ} (le : q ≤ r) : roundEven q ≤ roundEven r := by
  rcases (Int.floor_le_floor le).lt_or_eq with lt | same
  · have below : roundEven q ≤ ⌊q⌋ + 1 := by
      rcases roundEven_cases q with ⟨eq, -⟩ | ⟨eq, -⟩ <;> omega
    have above : ⌊r⌋ ≤ roundEven r := by
      rcases roundEven_cases r with ⟨eq, -⟩ | ⟨eq, -⟩ <;> omega
    omega
  · unfold roundEven
    dsimp only
    rw [← same]
    split_ifs <;> first | omega | (exfalso; linarith)

/-! ## To so many significant bits -/

/-- The unit in the last place of numbers as large as `q`. -/
def ulp (p : ℕ) (q : ℚ) : ℚ := 2 ^ (Int.log 2 q - p + 1)

/-- Round a positive number. -/
def roundPos (p : ℕ) (q : ℚ) : ℚ := roundEven (q / ulp p q) * ulp p q

/-- Round to `p` significant bits. -/
def roundTo (p : ℕ) (q : ℚ) : ℚ :=
  if 0 < q then roundPos p q else if q < 0 then -roundPos p (-q) else 0

variable {p : ℕ} {q r : ℚ}

theorem ulp_pos : 0 < ulp p q := zpow_pos (by norm_num) _

theorem two_zpow_log_le (pos : 0 < q) : (2 : ℚ) ^ Int.log 2 q ≤ q :=
  Int.zpow_log_le_self (by decide) pos

theorem lt_two_zpow_log (q : ℚ) : q < (2 : ℚ) ^ (Int.log 2 q + 1) :=
  Int.lt_zpow_succ_log_self (by decide) q

/-- A power of two in units of the last place. -/
theorem two_zpow_eq (p : ℕ) (q : ℚ) (k : ℕ) (le : 1 ≤ p + k) :
    (2 : ℚ) ^ (Int.log 2 q + k) = ((2 ^ (p + k - 1) : ℤ) : ℚ) * ulp p q := by
  unfold ulp
  push_cast
  rw [← zpow_natCast, ← zpow_add₀ (by norm_num)]
  congr 1
  push_cast [Nat.cast_sub le]
  ring

/-- Rounding does not leave the binade downwards. -/
theorem two_zpow_log_le_roundPos (hp : 1 ≤ p) (pos : 0 < q) :
    (2 : ℚ) ^ Int.log 2 q ≤ roundPos p q := by
  have start : (2 : ℚ) ^ Int.log 2 q = ((2 ^ (p - 1) : ℤ) : ℚ) * ulp p q := by
    simpa using two_zpow_eq p q 0 (by omega)
  have whole : (2 ^ (p - 1) : ℤ) ≤ roundEven (q / ulp p q) := by
    rw [← roundEven_intCast (2 ^ (p - 1))]
    refine roundEven_mono ?_
    rw [le_div_iff₀ ulp_pos, ← start]
    exact two_zpow_log_le pos
  rw [start]
  unfold roundPos
  exact mul_le_mul_of_nonneg_right (Int.cast_le.2 whole) ulp_pos.le

/-- Upwards it goes to its end at most. -/
theorem roundPos_le_two_zpow (q : ℚ) : roundPos p q ≤ (2 : ℚ) ^ (Int.log 2 q + 1) := by
  have stop : (2 : ℚ) ^ (Int.log 2 q + 1) = ((2 ^ p : ℤ) : ℚ) * ulp p q := by
    simpa using two_zpow_eq p q 1 (by omega)
  have whole : roundEven (q / ulp p q) ≤ 2 ^ p := by
    rw [← roundEven_intCast (2 ^ p)]
    refine roundEven_mono ?_
    rw [div_le_iff₀ ulp_pos, ← stop]
    exact (lt_two_zpow_log q).le
  rw [stop]
  unfold roundPos
  exact mul_le_mul_of_nonneg_right (Int.cast_le.2 whole) ulp_pos.le

theorem roundPos_pos (hp : 1 ≤ p) (pos : 0 < q) : 0 < roundPos p q :=
  (zpow_pos (by norm_num) _).trans_le (two_zpow_log_le_roundPos hp pos)

/-- Rounding positive numbers keeps the order. -/
theorem roundPos_mono (hp : 1 ≤ p) (pos : 0 < q) (le : q ≤ r) : roundPos p q ≤ roundPos p r := by
  rcases (Int.log_mono_right (b := 2) pos le).lt_or_eq with lt | same
  · -- a power of two stands between them
    calc roundPos p q ≤ (2 : ℚ) ^ (Int.log 2 q + 1) := roundPos_le_two_zpow q
      _ ≤ (2 : ℚ) ^ Int.log 2 r := zpow_le_zpow_right₀ (by norm_num) lt
      _ ≤ roundPos p r := two_zpow_log_le_roundPos hp (pos.trans_le le)
  · have unit : ulp p q = ulp p r := by
      unfold ulp
      rw [same]
    unfold roundPos
    rw [unit]
    refine mul_le_mul_of_nonneg_right (Int.cast_le.2 (roundEven_mono ?_)) ulp_pos.le
    exact div_le_div_of_nonneg_right le ulp_pos.le

@[simp] theorem roundTo_zero : roundTo p 0 = 0 := by
  unfold roundTo
  simp

theorem roundTo_of_pos (pos : 0 < q) : roundTo p q = roundPos p q := if_pos pos

theorem roundTo_of_neg (neg : q < 0) : roundTo p q = -roundPos p (-q) := by
  unfold roundTo
  rw [if_neg (not_lt.2 neg.le), if_pos neg]

/-- **Rounding keeps the order.** -/
theorem roundTo_mono (hp : 1 ≤ p) : Monotone (roundTo p) := by
  intro q r le
  rcases lt_trichotomy q 0 with neg | rfl | pos
  · rw [roundTo_of_neg neg]
    have below := roundPos_pos hp (neg_pos.2 neg)
    rcases lt_trichotomy r 0 with neg' | rfl | pos'
    · rw [roundTo_of_neg neg']
      exact neg_le_neg (roundPos_mono hp (neg_pos.2 neg') (neg_le_neg le))
    · rw [roundTo_zero]
      linarith
    · rw [roundTo_of_pos pos']
      have above := roundPos_pos hp pos'
      linarith
  · rcases le.lt_or_eq with pos | rfl
    · rw [roundTo_zero, roundTo_of_pos pos]
      exact (roundPos_pos hp pos).le
    · exact le_rfl
  · rw [roundTo_of_pos pos, roundTo_of_pos (pos.trans_le le)]
    exact roundPos_mono hp pos le

/-- **The relative error of a rounding** is at most half a unit of the last place. -/
theorem roundTo_sub_le (nonneg : 0 ≤ q) : |roundTo p q - q| ≤ q / 2 ^ p := by
  rcases nonneg.lt_or_eq with pos | rfl
  · rw [roundTo_of_pos pos]
    have start : (2 : ℚ) ^ Int.log 2 q = 2 ^ p / 2 * ulp p q := by
      unfold ulp
      rw [← zpow_natCast (2 : ℚ) p, zpow_add₀ (by norm_num), zpow_sub₀ (by norm_num), zpow_one]
      field_simp
    have half : ulp p q / 2 ≤ q / 2 ^ p := by
      have le := two_zpow_log_le pos
      rw [start] at le
      rw [le_div_iff₀ (by positivity)]
      linarith
    have split : roundPos p q - q = (roundEven (q / ulp p q) - q / ulp p q) * ulp p q := by
      unfold roundPos
      have unit : ulp p q ≠ 0 := ulp_pos.ne'
      field_simp
    rw [split, abs_mul, abs_of_pos (ulp_pos (p := p) (q := q))]
    have near := abs_roundEven_sub_le (q / ulp p q)
    have unit : 0 < ulp p q := ulp_pos
    nlinarith
  · rw [roundTo_zero]
    simp

/-- **Whole numbers of `p` bits stay.** -/
theorem roundTo_natCast (n : ℕ) (bits : n < 2 ^ p) : roundTo p n = n := by
  rcases Nat.eq_zero_or_pos n with rfl | pos
  · simp
  · have posQ : (0 : ℚ) < n := Nat.cast_pos.2 pos
    rw [roundTo_of_pos posQ]
    have short : Nat.log 2 n < p := Nat.log_lt_of_lt_pow pos.ne' bits
    have unit : ulp p n * 2 ^ (p - 1 - Nat.log 2 n) = 1 := by
      unfold ulp
      rw [Int.log_natCast, ← zpow_natCast, ← zpow_add₀ (by norm_num)]
      have none : (Nat.log 2 n : ℤ) - p + 1 + ((p - 1 - Nat.log 2 n : ℕ) : ℤ) = 0 := by omega
      rw [none, zpow_zero]
    have whole : (n : ℚ) / ulp p n = ((n * 2 ^ (p - 1 - Nat.log 2 n) : ℤ) : ℚ) := by
      rw [div_eq_iff ulp_pos.ne']
      push_cast
      linear_combination -(n : ℚ) * unit
    unfold roundPos
    rw [whole, roundEven_intCast]
    push_cast
    linear_combination (n : ℚ) * unit

/-- Rounding keeps the sign. -/
theorem roundTo_nonneg (hp : 1 ≤ p) (nonneg : 0 ≤ q) : 0 ≤ roundTo p q := by
  have mono := roundTo_mono hp nonneg
  rwa [roundTo_zero] at mono

theorem roundTo_pos (hp : 1 ≤ p) (pos : 0 < q) : 0 < roundTo p q := by
  rw [roundTo_of_pos pos]
  exact roundPos_pos hp pos

/-- The relative error is at most half a unit. -/
theorem roundTo_le (nonneg : 0 ≤ q) : roundTo p q ≤ q * (1 + 1 / 2 ^ p) := by
  have near := (abs_le.1 (roundTo_sub_le (p := p) nonneg)).2
  calc roundTo p q ≤ q + q / 2 ^ p := by linarith
    _ = q * (1 + 1 / 2 ^ p) := by ring

theorem half_le_roundTo (hp : 1 ≤ p) (nonneg : 0 ≤ q) : q / 2 ≤ roundTo p q := by
  have near := (abs_le.1 (roundTo_sub_le (p := p) nonneg)).1
  have part : q / 2 ^ p ≤ q / 2 := by
    refine div_le_div_of_nonneg_left nonneg (by norm_num) ?_
    calc (2 : ℚ) = 2 ^ 1 := (pow_one 2).symm
      _ ≤ 2 ^ p := pow_le_pow_right₀ (by norm_num) hp
  linarith

/-- A part that is further from the whole than a rounding goes stays below it. -/
theorem roundTo_part {u ε : ℚ} (hp : 1 ≤ p) (nonneg : 0 ≤ u) (le : u ≤ 1 - ε) (wide : 1 / 2 ^ p ≤ ε)
    (pos : 0 < q) : 0 ≤ roundTo p (u * q) ∧ roundTo p (u * q) < q := by
  have part : 0 ≤ u * q := mul_nonneg nonneg pos.le
  have step : (0 : ℚ) < 1 / 2 ^ p := by positivity
  refine ⟨roundTo_nonneg hp part, ?_⟩
  calc roundTo p (u * q) ≤ u * q * (1 + 1 / 2 ^ p) := roundTo_le part
    _ = u * (1 + 1 / 2 ^ p) * q := by ring
    _ < 1 * q := by
      refine mul_lt_mul_of_pos_right ?_ pos
      nlinarith
    _ = q := one_mul q

/-- **The rounded quotient of two whole numbers** lies between the same whole numbers as the exact one. -/
theorem floor_roundTo_div (hp : 1 ≤ p) {n d : ℕ} (pos : 0 < d) (bits : n < 2 ^ p) :
    ⌊roundTo p ((n : ℚ) / d)⌋ = (n / d : ℕ) := by
  have posQ : (0 : ℚ) < d := Nat.cast_pos.2 pos
  have quotient : n / d < 2 ^ p := (Nat.div_le_self n d).trans_lt bits
  rw [Int.floor_eq_iff]
  constructor
  · have below : ((n / d : ℕ) : ℚ) ≤ n / d := Nat.cast_div_le
    have mono := roundTo_mono hp below
    rw [roundTo_natCast _ quotient] at mono
    exact_mod_cast mono
  · -- what is missing to the next whole number is more than the rounding adds
    have next : (n : ℚ) + 1 ≤ ((n / d : ℕ) + 1) * d := by
      have next : n + 1 ≤ (n / d + 1) * d := by
        have split := Nat.div_add_mod n d
        have rest := Nat.mod_lt n pos
        have expand : (n / d + 1) * d = d * (n / d) + d := by ring
        omega
      exact_mod_cast next
    have gap : (n : ℚ) / 2 ^ p < 1 := by
      rw [div_lt_one (by positivity)]
      exact_mod_cast bits
    calc roundTo p ((n : ℚ) / d) ≤ n / d * (1 + 1 / 2 ^ p) :=
          roundTo_le (div_nonneg (Nat.cast_nonneg n) posQ.le)
      _ = (n + n / 2 ^ p) / d := by ring
      _ < (n + 1) / d := div_lt_div_of_pos_right (by linarith) posQ
      _ ≤ (n / d : ℕ) + 1 := (div_le_iff₀ posQ).2 next
      _ = ((n / d : ℕ) : ℤ) + 1 := by rw [Int.cast_natCast]

/-! ## Rounding twice -/

/-- A multiple of its unit is kept. -/
theorem roundPos_of_units {m : ℤ} (eq : q = m * ulp p q) : roundPos p q = q := by
  have whole : q / ulp p q = m := by
    rw [div_eq_iff ulp_pos.ne']
    exact eq
  unfold roundPos
  rw [whole, roundEven_intCast]
  exact eq.symm

/-- A power of two is kept. -/
theorem roundPos_two_zpow (hp : 1 ≤ p) (k : ℤ) : roundPos p ((2 : ℚ) ^ k) = 2 ^ k := by
  have start := two_zpow_eq p ((2 : ℚ) ^ k) 0 (by omega)
  have log : Int.log 2 ((2 : ℚ) ^ k) = k := Int.log_zpow (b := 2) (by decide) k
  refine roundPos_of_units (m := 2 ^ (p + 0 - 1)) ?_
  rw [← start, log]
  simp

/-- What is rounded is kept. -/
theorem roundPos_roundPos (hp : 1 ≤ p) (pos : 0 < q) : roundPos p (roundPos p q) = roundPos p q := by
  have pos' := roundPos_pos hp pos
  rcases (roundPos_le_two_zpow (p := p) q).lt_or_eq with lt | eq
  · -- the same binade
    have log : Int.log 2 (roundPos p q) = Int.log 2 q := by
      have below := (Int.lt_zpow_iff_log_lt (b := 2) (by decide) pos').1 lt
      have above :=
        (Int.zpow_le_iff_le_log (b := 2) (by decide) pos').1 (two_zpow_log_le_roundPos hp pos)
      omega
    have unit : ulp p (roundPos p q) = ulp p q := by
      unfold ulp
      rw [log]
    refine roundPos_of_units (m := roundEven (q / ulp p q)) ?_
    rw [unit]
    rfl
  · -- the first number of the next one
    rw [eq, roundPos_two_zpow hp]

theorem roundTo_neg (q : ℚ) : roundTo p (-q) = -roundTo p q := by
  rcases lt_trichotomy q 0 with neg | rfl | pos
  · rw [roundTo_of_pos (neg_pos.2 neg), roundTo_of_neg neg, neg_neg]
  · simp
  · rw [roundTo_of_neg (neg_neg_of_pos pos), roundTo_of_pos pos, neg_neg]

/-- **Powers of two stay.** -/
theorem roundTo_two_zpow (hp : 1 ≤ p) (k : ℤ) : roundTo p ((2 : ℚ) ^ k) = 2 ^ k := by
  rw [roundTo_of_pos (zpow_pos (by norm_num) k), roundPos_two_zpow hp]

/-- An integer of few enough bits is kept. -/
theorem roundTo_intCast (n : ℤ) (bits : |n| < 2 ^ p) : roundTo p n = n := by
  rw [Int.abs_eq_natAbs] at bits
  have whole : roundTo p (n.natAbs : ℚ) = n.natAbs := roundTo_natCast _ (by exact_mod_cast bits)
  rcases Int.natAbs_eq n with eq | eq
  · rw [eq, Int.cast_natCast]
    exact whole
  · rw [eq, Int.cast_neg, Int.cast_natCast, roundTo_neg, whole]

/-- **What is rounded stays.** -/
theorem roundTo_roundTo (hp : 1 ≤ p) (q : ℚ) : roundTo p (roundTo p q) = roundTo p q := by
  have twice {r : ℚ} (pos : 0 < r) : roundTo p (roundTo p r) = roundTo p r := by
    rw [roundTo_of_pos (q := r) pos, roundTo_of_pos (roundPos_pos hp pos), roundPos_roundPos hp pos]
  rcases lt_trichotomy q 0 with neg | rfl | pos
  · have opposite := twice (neg_pos.2 neg)
    rw [roundTo_neg, roundTo_neg] at opposite
    exact neg_inj.1 opposite
  · rw [roundTo_zero, roundTo_zero]
  · exact twice pos

/-! ## Back from nearby -/

/-- Less than a half away from a whole number it is that number. -/
theorem roundEven_of_near {m : ℤ} (near : |q - m| < 1 / 2) : roundEven q = m := by
  obtain ⟨low, high⟩ := abs_lt.1 near
  rcases roundEven_cases q with ⟨eq, part⟩ | ⟨eq, part⟩
  · have below : (m : ℚ) < ⌊q⌋ + 1 := by linarith
    have above : (⌊q⌋ : ℚ) < m + 1 := by
      have le := Int.floor_le q
      linarith
    have below : m < ⌊q⌋ + 1 := by exact_mod_cast below
    have above : ⌊q⌋ < m + 1 := by exact_mod_cast above
    omega
  · have below : (m : ℚ) < ⌊q⌋ + 2 := by
      have lt := Int.lt_floor_add_one q
      linarith
    have above : (⌊q⌋ : ℚ) < m := by linarith
    have below : m < ⌊q⌋ + 2 := by exact_mod_cast below
    have above : ⌊q⌋ < m := by exact_mod_cast above
    omega

/-- A number of `p` bits is a whole number of units, of `p` bits itself. -/
theorem exists_units (hp : 1 ≤ p) (pos : 0 < q) (fixed : roundTo p q = q) :
    ∃ m : ℤ, q = m * ulp p q ∧ 2 ^ (p - 1) ≤ m ∧ m < 2 ^ p := by
  have unit : 0 < ulp p q := ulp_pos
  have eq : q = roundEven (q / ulp p q) * ulp p q := by
    rw [roundTo_of_pos pos] at fixed
    exact fixed.symm
  have start : (2 : ℚ) ^ Int.log 2 q = ((2 ^ (p - 1) : ℤ) : ℚ) * ulp p q := by
    simpa using two_zpow_eq p q 0 (by omega)
  have stop : (2 : ℚ) ^ (Int.log 2 q + 1) = ((2 ^ p : ℤ) : ℚ) * ulp p q := by
    simpa using two_zpow_eq p q 1 (by omega)
  refine ⟨_, eq, ?_, ?_⟩
  · have le := two_zpow_log_le pos
    rw [start, ← le_div_iff₀ unit] at le
    rw [← roundEven_intCast (2 ^ (p - 1))]
    exact roundEven_mono le
  · have lt := lt_two_zpow_log q
    rw [stop] at lt
    have scaled := eq.symm.trans_lt lt
    exact Int.cast_lt.1 (lt_of_mul_lt_mul_right scaled unit.le)

/-- Less than half a unit away from a multiple it is that multiple. -/
theorem roundPos_of_near {m : ℤ} (near : |r - m * ulp p r| < ulp p r / 2) :
    roundPos p r = m * ulp p r := by
  have unit : 0 < ulp p r := ulp_pos
  unfold roundPos
  rw [roundEven_of_near (m := m)]
  have scaled : r / ulp p r - m = (r - m * ulp p r) / ulp p r := by
    field_simp
  rw [scaled, abs_div, abs_of_pos unit, div_lt_iff₀ unit]
  linarith

/-- **What rounds to a number of `p` bits:** all that is nearer to it than half of its least gap. -/
theorem roundTo_of_near (hp : 1 ≤ p) (pos : 0 < q) (fixed : roundTo p q = q)
    (near : |r - q| < q / 2 ^ (p + 1)) : roundTo p r = q := by
  obtain ⟨m, eq, low, high⟩ := exists_units hp pos fixed
  have unit : 0 < ulp p q := ulp_pos
  have start : (2 : ℚ) ^ Int.log 2 q = 2 ^ (p - 1) * ulp p q := by
    simpa using two_zpow_eq p q 0 (by omega)
  have stop : (2 : ℚ) ^ (Int.log 2 q + 1) = 2 ^ p * ulp p q := by
    simpa using two_zpow_eq p q 1 (by omega)
  have gap : q / 2 ^ (p + 1) < ulp p q / 2 := by
    have lt := lt_two_zpow_log q
    rw [stop] at lt
    rw [div_lt_iff₀ (by positivity), pow_succ]
    linarith
  obtain ⟨below, above⟩ := abs_lt.1 near
  have small : q / 2 ^ (p + 1) ≤ q / 2 := by
    refine div_le_div_of_nonneg_left pos.le (by norm_num) ?_
    calc (2 : ℚ) = 2 ^ 1 := (pow_one 2).symm
      _ ≤ 2 ^ (p + 1) := pow_le_pow_right₀ (by norm_num) (by omega)
  have posR : 0 < r := by linarith
  rw [roundTo_of_pos posR]
  rcases lt_trichotomy (Int.log 2 r) (Int.log 2 q) with lt | same | gt
  · -- `q` is the power of two that `r` falls short of, and the unit below it is half as large
    have short : r < 2 ^ (p - 1) * ulp p q := by
      rw [← start]
      exact (lt_two_zpow_log r).trans_le (zpow_le_zpow_right₀ (by norm_num) lt)
    have power : m = 2 ^ (p - 1) := by
      have lt : (m : ℚ) * ulp p q < (2 ^ (p - 1) + 1) * ulp p q := by linarith
      have lt : (m : ℚ) < 2 ^ (p - 1) + 1 := lt_of_mul_lt_mul_right lt unit.le
      have lt : m < 2 ^ (p - 1) + 1 := by exact_mod_cast lt
      omega
    have whole : 2 ^ (p - 1) * ulp p q = q := by
      rw [power] at eq
      push_cast at eq
      exact eq.symm
    have double : (2 : ℚ) ^ p = 2 * 2 ^ (p - 1) := by
      rw [← pow_succ', Nat.sub_add_cancel hp]
    have log : Int.log 2 r = Int.log 2 q - 1 := by
      have half : (2 : ℚ) ^ (Int.log 2 q - 1) ≤ r := by
        rw [zpow_sub₀ (by norm_num), zpow_one, start, whole]
        linarith
      have le := (Int.zpow_le_iff_le_log (b := 2) (by decide) posR).1 (by exact_mod_cast half)
      omega
    have units : ulp p r = ulp p q / 2 := by
      have shift : Int.log 2 q - 1 - p + 1 = Int.log 2 q - p + 1 - 1 := by ring
      unfold ulp
      rw [log, shift, zpow_sub_one₀ (by norm_num)]
      rfl
    have scaled : ((2 ^ p : ℤ) : ℚ) * ulp p r = q := by
      push_cast
      calc (2 : ℚ) ^ p * ulp p r = 2 * 2 ^ (p - 1) * (ulp p q / 2) := by rw [double, units]
        _ = 2 ^ (p - 1) * ulp p q := by ring
        _ = q := whole
    have quarter : q / 2 ^ (p + 1) = ulp p r / 2 := by
      rw [units, div_eq_iff (by positivity), pow_succ, double]
      linear_combination -whole
    rw [roundPos_of_near (m := 2 ^ p), scaled]
    rw [scaled, ← quarter]
    exact near
  · have units : ulp p r = ulp p q := by
      unfold ulp
      rw [same]
    rw [roundPos_of_near (m := m), units, ← eq]
    rw [units, ← eq]
    exact near.trans gap
  · have far : 2 ^ p * ulp p q ≤ r := by
      rw [← stop]
      exact (zpow_le_zpow_right₀ (by norm_num) gt).trans (two_zpow_log_le posR)
    have next : ((m : ℚ) + 1) * ulp p q ≤ 2 ^ p * ulp p q := by
      refine mul_le_mul_of_nonneg_right ?_ unit.le
      exact_mod_cast high
    linarith

end Infra.Rounding
