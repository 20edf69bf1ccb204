import Mathlib.Tactic.Linarith
import Pokeage.Game.Data.Monsters
import Pokeage.Game.Exact
import Pokeage.Game.Monster
import Pokeage.Game.Rng
import Pokeage.Infra.Interpolation

/-!
# Growth

With exact arithmetic a stat runs from its base at level one to its target at level fifty, up or down,
and a draw of the generator stays within its bounds.
-/

namespace Pokeage.Game

open Infra.Interpolation

variable {fl : Floats}

/-! ## Stats -/

/-- The levels gone of the span, which ends at level fifty. -/
theorem gone_mono {l l' : ℤ} (le : l ≤ l') :
    ((l - 1 : ℤ) : ℚ) / growthSpan ≤ ((l' - 1 : ℤ) : ℚ) / growthSpan := by
  have levels : ((l - 1 : ℤ) : ℚ) ≤ ((l' - 1 : ℤ) : ℚ) := Int.cast_le.2 (by omega)
  exact div_le_div_of_nonneg_right levels (by norm_num [growthSpan])

theorem gone_nonpos {level : ℤ} (start : level ≤ 1) : ((level - 1 : ℤ) : ℚ) / growthSpan ≤ 0 := by
  have gone := gone_mono start
  rwa [sub_self, Int.cast_zero, zero_div] at gone

theorem one_le_gone {level : ℤ} (grown : 50 ≤ level) : 1 ≤ ((level - 1 : ℤ) : ℚ) / growthSpan := by
  have gone := gone_mono grown
  refine le_trans ?_ gone
  norm_num [growthSpan]

/-- The part of the way from base to target that a level has gone. -/
def growth (level : ℤ) : ℚ := min 1 (max 0 (((level - 1 : ℤ) : ℚ) / growthSpan))

theorem interpStat_exact (exact : fl.Exact) (base target level : ℤ) :
    interpStat fl base target level = ⌊(base : ℚ) + (target - base : ℤ) * growth level⌋ := by
  unfold interpStat growth
  simp only [exact.round]

/-- A stat is between base and target by the levels gone of the span. -/
theorem interpStat_between (exact : fl.Exact) (base target level : ℤ) :
    interpStat fl base target level = between base target (((level - 1 : ℤ) : ℚ) / growthSpan) :=
  interpStat_exact exact base target level

/-- A stat does not sink from a level to a later one, however the machine rounds in order. -/
theorem interpStat_mono (ordered : fl.Ordered) {base target : ℤ} (grows : base ≤ target) {l l' : ℤ}
    (le : l ≤ l') : interpStat fl base target l ≤ interpStat fl base target l' := by
  have diff : (0 : ℚ) ≤ (target - base : ℤ) := Int.cast_nonneg (by omega)
  have way := ordered.mono (gone_mono le)
  have part := clamp_mono way
  have gain := ordered.mono (mul_le_mul_of_nonneg_left part diff)
  exact Int.floor_le_floor (ordered.mono (add_le_add_right gain _))

theorem interpStat_nonneg (ordered : fl.Ordered) {base target : ℤ} (nonneg : 0 ≤ base)
    (grows : base ≤ target) (level : ℤ) : 0 ≤ interpStat fl base target level := by
  have start : (0 : ℚ) ≤ base := Int.cast_nonneg nonneg
  have diff : (0 : ℚ) ≤ (target - base : ℤ) := Int.cast_nonneg (by omega)
  have part := clamp_nonneg (fl (((level - 1 : ℤ) : ℚ) / growthSpan))
  have gain := ordered.nonneg (mul_nonneg diff part)
  exact Int.floor_nonneg.2 (ordered.nonneg (add_nonneg start gain))

theorem base_le_interpStat (exact : fl.Exact) {base target : ℤ} (grows : base ≤ target)
    (level : ℤ) : base ≤ interpStat fl base target level := by
  have ends := between_mem base target (((level - 1 : ℤ) : ℚ) / growthSpan)
  rw [min_eq_left grows] at ends
  rw [interpStat_between exact]
  exact ends.1

/-! ### A block of stats -/

/-- One of the four stats. -/
inductive Stat where
  | hp
  | atk
  | defense
  | spd
  deriving DecidableEq, Repr

/-- The value of a stat. -/
def Stats.get (stats : Stats) : Stat → ℤ
  | .hp => stats.hp
  | .atk => stats.atk
  | .defense => stats.defense
  | .spd => stats.spd

/-- Every stat of a block is interpolated alike. -/
theorem statsAtLevel_get (template : MonsterTemplate) (level : ℤ) (stat : Stat) :
    (statsAtLevel fl template level).get stat =
      interpStat fl (template.base.get stat) ((targetStatsFor template).get stat) level := by
  cases stat <;> rfl

/-- **Growth of a stat.** It starts at the base, ends at the target and goes one way only. -/
theorem statsAtLevel_growth (exact : fl.Exact) (template : MonsterTemplate) (stat : Stat) {l l' : ℤ}
    (le : l ≤ l') :
    let base := template.base.get stat
    let target := (targetStatsFor template).get stat
    let at_ (level : ℤ) := (statsAtLevel fl template level).get stat
    (min base target ≤ at_ l ∧ at_ l ≤ max base target) ∧
      (l ≤ 1 → at_ l = base) ∧
      (50 ≤ l → at_ l = target) ∧
      (base ≤ target → at_ l ≤ at_ l') ∧
      (target < base → at_ l' ≤ at_ l) := by
  intro base target at_
  have interpolated (level : ℤ) :
      at_ level = between base target (((level - 1 : ℤ) : ℚ) / growthSpan) :=
    (statsAtLevel_get template level stat).trans (interpStat_between exact base target level)
  rw [interpolated, interpolated]
  refine ⟨between_mem base target _, ?_, ?_, ?_, ?_⟩
  · intro start
    exact between_of_nonpos (gone_nonpos start)
  · intro grown
    exact between_of_one_le (one_le_gone grown)
  · intro rises
    exact between_mono rises (gone_mono le)
  · intro falls
    exact between_anti falls.le (gone_mono le)

/-- The first of the sample species, from level five to level twenty. -/
theorem statsAtLevel_growth_first :
    let first := sampleMonsters.head (List.cons_ne_nil _ _)
    (statsAtLevel exactFloats first 5).hp ≤ (statsAtLevel exactFloats first 20).hp := by
  have le : (5 : ℤ) ≤ 20 := by decide
  obtain ⟨-, -, -, rises, -⟩ := statsAtLevel_growth exactFloats_exact
    (sampleMonsters.head (List.cons_ne_nil _ _)) .hp le
  exact rises (by decide)

/-! ## Draws -/

namespace Rng

theorem next_nonneg (r : Rng) : 0 ≤ r.next.1 := div_nonneg (Nat.cast_nonneg _) (by norm_num)

theorem next_le (r : Rng) : r.next.1 ≤ 1 - 1 / 2 ^ 32 := by
  unfold next
  dsimp only
  generalize (_ ^^^ _ : UInt32) = t
  have below : (t.toNat : ℚ) + 1 ≤ 4294967296 := by exact_mod_cast UInt32.toNat_lt t
  rw [div_le_iff₀ (by norm_num)]
  linarith

/-- A draw is not below the lower bound. -/
theorem le_int (ordered : fl.Ordered) (r : Rng) (a b : ℤ) : min a b ≤ (r.int fl a b).1 := by
  have lower : (if b < a then b else a) = min a b := by
    split_ifs <;> omega
  have upper : (if b < a then a else b) = max a b := by
    split_ifs <;> omega
  unfold int
  dsimp only
  rw [lower, upper]
  have width : (0 : ℚ) ≤ ((max a b : ℤ) : ℚ) - ((min a b : ℤ) : ℚ) + 1 := by
    have ordered : ((min a b : ℤ) : ℚ) ≤ ((max a b : ℤ) : ℚ) := Int.cast_le.2 min_le_max
    linarith
  have part := Int.floor_nonneg.2 (ordered.nonneg (mul_nonneg r.next_nonneg width))
  omega

/-- A draw is within the bounds. -/
theorem int_mem (parts : fl.Parts) (r : Rng) (a b : ℤ) :
    min a b ≤ (r.int fl a b).1 ∧ (r.int fl a b).1 ≤ max a b := by
  have lower : (if b < a then b else a) = min a b := by
    split_ifs <;> omega
  have upper : (if b < a then a else b) = max a b := by
    split_ifs <;> omega
  unfold int
  dsimp only
  rw [lower, upper]
  have ordered : min a b ≤ max a b := min_le_max
  generalize min a b = lo at *
  generalize max a b = hi at *
  have width : ((hi : ℚ) - lo + 1) = ((hi - lo + 1 : ℤ) : ℚ) := by push_cast; rfl
  obtain ⟨nonneg, below⟩ := parts r.next.1 (hi - lo + 1) r.next_nonneg r.next_le (by omega)
  rw [width]
  have floor_nonneg := Int.floor_nonneg.2 nonneg
  have floor_lt := Int.floor_lt.2 below
  omega

end Rng

end Pokeage.Game
