import Mathlib.Data.Nat.Basic
import Mathlib.Tactic.NormNum
import Pokeage.Infra.Checked
import Pokeage.Program.Errors

/-!
# Economy constants and basis points

`constants.rs`. Amounts are natural numbers; the widths of the source (`u64`, `u128`) are explicit
bounds in the checked operations, which fail with `MathOverflow` where the source does.
-/

namespace Pokeage

open Infra

/-- Whole tokens in base units; $PAGE has 6 decimals. -/
def pokeage (n : ℕ) : ℕ := n * 1000000

/-- Deploying an agent, once per player. -/
def deployCost : ℕ := pokeage 1000
/-- Catching a common monster. -/
def catchCommon : ℕ := pokeage 10
/-- Catching a rare one. -/
def catchRare : ℕ := pokeage 100
/-- Catching a legendary. -/
def catchLegendary : ℕ := pokeage 1000
/-- Challenging a gym. -/
def gymCost : ℕ := pokeage 50
/-- Forcing an evolution. -/
def forceEvolveCost : ℕ := pokeage 75000

/-- The share of a sink that is burned. -/
def burnBps : ℕ := 7000
/-- The share of a sink that goes to the pool. -/
def poolBps : ℕ := 3000
/-- The share of the market fee that goes to the pool. -/
def poolShareBps : ℕ := 6000
/-- The share of the floor price that an instant sell pays. -/
def instantSellBps : ℕ := 5000
/-- Basis points in a whole. -/
def bpsDenom : ℕ := 10000

/-- The highest card tier. -/
def maxTier : ℕ := 5
/-- How many badges there are. -/
def badgeCount : ℕ := 12

/-! ## Checked `u64` arithmetic -/

/-- `checked_add` with `MathOverflow`. -/
def checkedAdd (a b : ℕ) : Result ℕ := do
  require (a + b < 2 ^ 64) (.pokeage .mathOverflow)
  return a + b

/-- `checked_sub` with `MathOverflow`. -/
def checkedSub (a b : ℕ) : Result ℕ := do
  require (b ≤ a) (.pokeage .mathOverflow)
  return a - b

@[simp] theorem checkedAdd_eq_ok {a b c : ℕ} :
    checkedAdd a b = .ok c ↔ a + b < 2 ^ 64 ∧ a + b = c := by
  simp only [checkedAdd, bind_eq_ok, require_eq_ok, exists_const, pure_eq_ok]

@[simp] theorem checkedSub_eq_ok {a b c : ℕ} :
    checkedSub a b = .ok c ↔ b ≤ a ∧ a - b = c := by
  simp only [checkedSub, bind_eq_ok, require_eq_ok, exists_const, pure_eq_ok]

/-- `amount * bps / 10000` in `u128` space, narrowed back to `u64`. -/
def bpsOf (amount bps : ℕ) : Result ℕ := do
  require (amount * bps < 2 ^ 128) (.pokeage .mathOverflow)
  let v := amount * bps / bpsDenom
  require (v < 2 ^ 64) (.pokeage .mathOverflow)
  return v

/-- The value of `bpsOf` where it succeeds. -/
def bps (amount rate : ℕ) : ℕ := amount * rate / bpsDenom

theorem bpsOf_ok {amount rate v : ℕ} (h : bpsOf amount rate = .ok v) : v = bps amount rate := by
  simp only [bpsOf, bind_eq_ok, require_eq_ok, exists_const, pure_eq_ok] at h
  exact h.2.2.symm

/-- Every step of `bpsOf` has the same error. -/
theorem bpsOf_eq_mulDiv (amount rate : ℕ) :
    bpsOf amount rate = Checked.mulDiv 128 64 (.pokeage .mathOverflow) (.pokeage .mathOverflow)
      (.pokeage .mathOverflow) amount rate bpsDenom :=
  (Checked.mulDiv_of_ne_zero (by decide)).symm

/-- A share of at most the whole is at most the amount. -/
theorem bps_le {rate : ℕ} (h : rate ≤ 10000) (amount : ℕ) : bps amount rate ≤ amount :=
  Checked.share_le h amount

/-- A share of a `u64` amount of at most the whole never overflows. -/
theorem bpsOf_of_le {amount rate : ℕ} (ha : amount < 2 ^ 64) (hr : rate ≤ 10000) :
    bpsOf amount rate = .ok (bps amount rate) := by
  rw [bpsOf_eq_mulDiv]
  exact Checked.mulDiv_of_le ha hr (by decide) (by decide) (by decide)

/-! ## Tables -/

/-- Lamport mint fee for a tier code. Rejects out-of-range tiers. -/
def mintFeeForTier (tier : ℕ) : Result ℕ :=
  match tier with
  | 0 => .ok 1000000
  | 1 => .ok 3000000
  | 2 => .ok 10000000
  | 3 => .ok 50000000
  | 4 => .ok 200000000
  | 5 => .ok 1000000000
  | _ => .error (.pokeage .invalidTier)

/-- Token sink cost for a catch rarity code. -/
def catchCostForRarity (rarity : ℕ) : Result ℕ :=
  match rarity with
  | 0 => .ok catchCommon
  | 1 => .ok catchRare
  | 2 => .ok catchLegendary
  | _ => .error (.pokeage .invalidRarity)

/-- Every tier that has a fee is at most `maxTier`. -/
theorem mintFeeForTier_ok {tier fee : ℕ} (h : mintFeeForTier tier = .ok fee) :
    tier ≤ maxTier ∧ 1000000 ≤ fee := by
  unfold mintFeeForTier at h
  split at h <;> first | (cases h; simp [maxTier]) | cases h

end Pokeage
