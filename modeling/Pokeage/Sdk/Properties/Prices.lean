import Mathlib.Tactic.IntervalCases
import Pokeage.Game.Doubles
import Pokeage.Sdk.Client

/-!
# The price model

In doubles, the price of a card never falls as its tier, its level or its stage rises
(`marketPriceSol_mono`), although the two scarce tiers leave the stage out.
-/

namespace Pokeage.Game

open Infra.Rounding

/-! ## Multipliers -/

/-- The table of the levels, read out. -/
theorem levelMultiplier_eq (level : ℤ) :
    levelMultiplier level =
      if level ≤ 20 then 1 else if level ≤ 40 then 1.5 else if level ≤ 60 then 2.5
      else if level ≤ 80 then 4 else if level ≤ 99 then 6 else 10 := by
  unfold levelMultiplier levelPriceMult
  simp only [List.find?_cons, List.find?_nil]
  split_ifs <;> simp only [*, decide_true, decide_false]
  -- the last band and the levels past it
  cases decide (level ≤ 100) <;> rfl

/-- The table of the stages, read out. -/
theorem stageMultiplier_eq (stage : ℤ) :
    stageMultiplier stage = if stage ≤ 0 then 1 else if stage ≤ 1 then 2 else 4 := by
  rcases lt_or_ge stage 0 with before | from_first
  · have outside : ¬0 ≤ min stage ((stagePriceMult.length : ℤ) - 1) := by omega
    unfold stageMultiplier Rng.at?
    rw [if_neg outside, if_pos before.le]
  · rcases lt_or_ge stage 2 with below | last
    · interval_cases stage <;> norm_num [stageMultiplier, stagePriceMult, Rng.at?, orElse]
    · have clamped : min stage ((stagePriceMult.length : ℤ) - 1) = 2 := by
        show min stage 2 = 2
        omega
      unfold stageMultiplier
      rw [clamped, if_neg (by omega), if_neg (by omega)]
      show orElse 4 1 = (4 : ℚ)
      norm_num [orElse]

/-- A higher level does not lower a price. -/
theorem levelMultiplier_mono {l l' : ℤ} (le : l ≤ l') : levelMultiplier l ≤ levelMultiplier l' := by
  rw [levelMultiplier_eq, levelMultiplier_eq]
  split_ifs <;> first | omega | norm_num

theorem one_le_levelMultiplier (level : ℤ) : 1 ≤ levelMultiplier level := by
  rw [levelMultiplier_eq]
  split_ifs <;> norm_num

/-- Nor does a later stage. -/
theorem stageMultiplier_mono {s s' : ℤ} (le : s ≤ s') : stageMultiplier s ≤ stageMultiplier s' := by
  rw [stageMultiplier_eq, stageMultiplier_eq]
  split_ifs <;> first | omega | norm_num

/-- A stage lifts a price to four times at most. -/
theorem stageMultiplier_mem (stage : ℤ) : 1 ≤ stageMultiplier stage ∧ stageMultiplier stage ≤ 4 := by
  rw [stageMultiplier_eq]
  split_ifs <;> norm_num

/-! ## Tiers -/

/-- Whatever the code, a tier is read: the one at the nearest position. -/
theorem tierFromCode_spec (code : ℤ) :
    ∃ tier, tierFromCode code = some tier ∧ tierToCode tier = min (max code 0) 5 := by
  unfold tierFromCode
  show ∃ tier, Rng.at? tierOrder (min (max code 0) 5) = some tier ∧ tierToCode tier = min (max code 0) 5
  have low : 0 ≤ min (max code 0) 5 := by omega
  have high : min (max code 0) 5 ≤ 5 := by omega
  generalize min (max code 0) 5 = position at low high ⊢
  interval_cases position
  · exact ⟨.common, rfl, rfl⟩
  · exact ⟨.uncommon, rfl, rfl⟩
  · exact ⟨.rare, rfl, rfl⟩
  · exact ⟨.holo, rfl, rfl⟩
  · exact ⟨.ultra, rfl, rfl⟩
  · exact ⟨.secret, rfl, rfl⟩

variable (pow : ℚ → ℚ → ℚ)

/-- Base prices rise with the tier. -/
theorem tierBasePriceSol_mono {t t' : RarityTier} (le : tierToCode t ≤ tierToCode t') :
    tierBasePriceSol (doubleFloats pow) t ≤ tierBasePriceSol (doubleFloats pow) t' := by
  refine roundTo_mono (by decide) ?_
  revert le
  cases t <;> cases t' <;>
    first | (intro; norm_num [tierBasePriceTable]; done) | (intro le; exact absurd le (by decide))

/-- The dearest tier that the stage lifts stays below the cheapest that it does not: even four times its
price is less. -/
theorem lifted_le_scarce {b m s : ℚ} (base : b ≤ tierBasePriceSol (doubleFloats pow) .holo)
    (nonneg : 0 ≤ b) (mult : 1 ≤ m) (stage : 0 ≤ s) (most : s ≤ 4) :
    roundTo 53 (b * m) * s ≤ roundTo 53 (3 * m) := by
  have third : tierBasePriceSol (doubleFloats pow) .holo ≤ 0.4 :=
    (roundTo_le (by norm_num [tierBasePriceTable])).trans (by norm_num [tierBasePriceTable])
  have scaled : 0 ≤ b * m := mul_nonneg nonneg (by linarith)
  have below : roundTo 53 (b * m) ≤ 0.5 * m := by
    calc roundTo 53 (b * m) ≤ b * m * (1 + 1 / 2 ^ 53) := roundTo_le scaled
      _ ≤ 0.4 * m * (1 + 1 / 2 ^ 53) := by
        refine mul_le_mul_of_nonneg_right ?_ (by norm_num)
        exact mul_le_mul_of_nonneg_right (base.trans third) (by linarith)
      _ = (0.4 * (1 + 1 / 2 ^ 53)) * m := by ring
      _ ≤ 0.5 * m := mul_le_mul_of_nonneg_right (by norm_num) (by linarith)
  have above : 2 * m ≤ roundTo 53 (3 * m) := by
    have near := (abs_le.1 (roundTo_sub_le (p := 53) (q := 3 * m) (by linarith))).1
    have slack : 3 * m / 2 ^ 53 ≤ m := by
      rw [div_le_iff₀ (by norm_num)]
      linarith
    linarith
  calc roundTo 53 (b * m) * s ≤ 0.5 * m * s := mul_le_mul_of_nonneg_right below stage
    _ ≤ 0.5 * m * 4 := mul_le_mul_of_nonneg_left most (by linarith)
    _ = 2 * m := by ring
    _ ≤ roundTo 53 (3 * m) := above

/-! ## Prices -/

theorem tierBasePriceSol_pos (t : RarityTier) : 0 < tierBasePriceSol (doubleFloats pow) t := by
  refine roundTo_pos (by decide) ?_
  cases t <;> norm_num [tierBasePriceTable]

theorem cardPriceSol_pos (t : RarityTier) (level stage : ℤ) :
    0 < cardPriceSol (doubleFloats pow) t level stage := by
  have mult := one_le_levelMultiplier level
  have lift := (stageMultiplier_mem stage).1
  have base := tierBasePriceSol_pos pow t
  refine roundTo_pos (by decide) (mul_pos (roundTo_pos (by decide) (mul_pos base (by linarith))) ?_)
  split_ifs <;> linarith

theorem cardPriceSol_mono {t t' : RarityTier} {level level' stage stage' : ℤ}
    (tier : tierToCode t ≤ tierToCode t') (levels : level ≤ level') (stages : stage ≤ stage') :
    cardPriceSol (doubleFloats pow) t level stage ≤ cardPriceSol (doubleFloats pow) t' level' stage' := by
  have mult := levelMultiplier_mono levels
  have one := one_le_levelMultiplier level
  have lift := stageMultiplier_mono stages
  obtain ⟨low, high⟩ := stageMultiplier_mem stage
  have base := tierBasePriceSol_mono pow tier
  have nonneg := (tierBasePriceSol_pos pow t).le
  have scaled : roundTo 53 (tierBasePriceSol (doubleFloats pow) t * levelMultiplier level) ≤
      roundTo 53 (tierBasePriceSol (doubleFloats pow) t' * levelMultiplier level') :=
    roundTo_mono (by decide) (mul_le_mul base mult (by linarith) (nonneg.trans base))
  have some_ : 0 ≤ roundTo 53 (tierBasePriceSol (doubleFloats pow) t' * levelMultiplier level') :=
    roundTo_nonneg (by decide) (mul_nonneg (nonneg.trans base) (by linarith))
  refine roundTo_mono (by decide) ?_
  by_cases scarce : t = .ultra ∨ t = .secret
  · -- so is every tier above
    have scarce' : t' = .ultra ∨ t' = .secret := by
      rcases scarce with rfl | rfl <;> cases t' <;>
        first | exact .inl rfl | exact .inr rfl | exact absurd tier (by decide)
    rw [if_pos scarce, if_pos scarce', mul_one, mul_one]
    exact scaled
  · rw [if_neg scarce]
    by_cases scarce' : t' = .ultra ∨ t' = .secret
    · rw [if_pos scarce', mul_one]
      have rank : tierToCode t ≤ tierToCode .holo := by
        cases t <;> first | decide | exact absurd (.inl rfl) scarce | exact absurd (.inr rfl) scarce
      have cheap := tierBasePriceSol_mono pow rank
      have three : 3 ≤ tierBasePriceSol (doubleFloats pow) t' := by
        calc (3 : ℚ) = roundTo 53 (3 : ℕ) := (roundTo_natCast 3 (by norm_num)).symm
          _ ≤ roundTo 53 (tierBasePriceTable t') := by
            refine roundTo_mono (by decide) ?_
            rcases scarce' with rfl | rfl <;> norm_num [tierBasePriceTable]
      refine (lifted_le_scarce pow cheap nonneg one (by linarith) high).trans ?_
      exact roundTo_mono (by decide) (mul_le_mul three mult (by linarith) (nonneg.trans base))
    · rw [if_neg scarce']
      exact mul_le_mul scaled lift (by linarith) some_

end Pokeage.Game

namespace Pokeage.Sdk

open Game (doubleFloats)

/-- **No price falls.** Whatever the tier code, level and stage the client is asked about, it has a
positive price, and a price of no lower tier code, level and stage is no lower. -/
theorem marketPriceSol_mono (pow : ℚ → ℚ → ℚ) {code code' level level' stage stage' : ℤ}
    (codes : code ≤ code') (levels : level ≤ level') (stages : stage ≤ stage') :
    ∃ price price', PokeageClient.marketPriceSol (doubleFloats pow) code level stage = some price ∧
      PokeageClient.marketPriceSol (doubleFloats pow) code' level' stage' = some price' ∧
      0 < price ∧ price ≤ price' := by
  obtain ⟨t, tier, position⟩ := Game.tierFromCode_spec code
  obtain ⟨t', tier', position'⟩ := Game.tierFromCode_spec code'
  have rank : Game.tierToCode t ≤ Game.tierToCode t' := by omega
  refine ⟨_, _, ?_, ?_, Game.cardPriceSol_pos pow t level stage,
    Game.cardPriceSol_mono pow rank levels stages⟩
  · unfold PokeageClient.marketPriceSol
    rw [tier]
    rfl
  · unfold PokeageClient.marketPriceSol
    rw [tier']
    rfl

/-- A holo card of level 99 in its last stage, and an ultra card of the next level. -/
theorem marketPriceSol_mono_holo :
    ∃ price price', PokeageClient.marketPriceSol (doubleFloats fun _ _ => 1) 3 99 2 = some price ∧
      PokeageClient.marketPriceSol (doubleFloats fun _ _ => 1) 4 100 2 = some price' ∧
      0 < price ∧ price ≤ price' :=
  marketPriceSol_mono _ (by decide) (by decide) (by decide)

end Pokeage.Sdk
