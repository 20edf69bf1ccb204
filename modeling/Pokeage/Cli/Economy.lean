import Mathlib.Algebra.Group.Nat.Defs
import Pokeage.Infra.Checked

/-!
# The command line client's economy

`economy.rs`, and the capacity that `commands/pool.rs` prints. A `u64` that is computed is a natural
number whose bound is in the checked operations. How the share of deploying users, a float, comes to
whole units is a parameter.
-/

namespace Pokeage.Cli.Economy

open Infra

/-! ## Constants -/

/-- Base units of a token of six decimals. -/
def onePage : ℕ := 1000000

/-- So many whole tokens in base units. -/
def pokeage (n : ℕ) : ℕ := n * onePage

/-- `DEPLOY_COST`, paid once by an agent. -/
def deployCost : ℕ := pokeage 1000
/-- `CATCH_COMMON`. -/
def catchCommon : ℕ := pokeage 10
/-- `CATCH_RARE`. -/
def catchRare : ℕ := pokeage 100
/-- `CATCH_LEGENDARY`. -/
def catchLegendary : ℕ := pokeage 1000
/-- `GYM_COST`. -/
def gymCost : ℕ := pokeage 50
/-- `FORCE_EVOLVE_COST`. -/
def forceEvolveCost : ℕ := pokeage 75000

/-- `BURN_BPS`, the part of a sink that is burned. -/
def burnBps : ℕ := 7000
/-- `INSTANT_SELL_BPS`, the part of the floor that a sale pays. -/
def instantSellBps : ℕ := 5000
/-- `BPS_DENOM`, the whole in basis points. -/
def bpsDenom : ℕ := 10000

/-! ## Checked arithmetic -/

/-- The errors of the projection, with their messages. -/
inductive CliError where
  | input (msg : String)
  | math (msg : String)
  deriving DecidableEq, Repr

/-- `checked_add` on `u64`, with the message of its failure. -/
def checkedAdd (a b : ℕ) (msg : String) : Except CliError ℕ := do
  require (a + b < 2 ^ 64) (.math msg)
  return a + b

/-- `checked_sub` on `u64`. -/
def checkedSub (a b : ℕ) (msg : String) : Except CliError ℕ := do
  require (b ≤ a) (.math msg)
  return a - b

/-- `checked_mul` on `u64`. -/
def checkedMul (a b : ℕ) (msg : String) : Except CliError ℕ := do
  require (a * b < 2 ^ 64) (.math msg)
  return a * b

@[simp] theorem checkedAdd_eq_ok {a b c : ℕ} {msg : String} :
    checkedAdd a b msg = .ok c ↔ a + b < 2 ^ 64 ∧ a + b = c := by
  simp only [checkedAdd, bind_eq_ok, require_eq_ok, exists_const, pure_eq_ok]

@[simp] theorem checkedSub_eq_ok {a b c : ℕ} {msg : String} :
    checkedSub a b msg = .ok c ↔ b ≤ a ∧ a - b = c := by
  simp only [checkedSub, bind_eq_ok, require_eq_ok, exists_const, pure_eq_ok]

@[simp] theorem checkedMul_eq_ok {a b c : ℕ} {msg : String} :
    checkedMul a b msg = .ok c ↔ a * b < 2 ^ 64 ∧ a * b = c := by
  simp only [checkedMul, bind_eq_ok, require_eq_ok, exists_const, pure_eq_ok]

/-- `amount * bps / 10000` in `u128` space, narrowed back to `u64`. -/
def bpsOf (amount bps : ℕ) : Except CliError ℕ := do
  require (amount * bps < 2 ^ 128) (.math "bps mul overflow")
  require (bpsDenom ≠ 0) (.math "bps div by zero")
  let v := amount * bps / bpsDenom
  require (v < 2 ^ 64) (.math "bps result exceeds u64")
  return v

/-- The steps of `bpsOf`, each with its message. -/
theorem bpsOf_eq_mulDiv (amount rate : ℕ) :
    bpsOf amount rate = Checked.mulDiv 128 64 (.math "bps mul overflow") (.math "bps div by zero")
      (.math "bps result exceeds u64") amount rate bpsDenom :=
  (Checked.mulDiv_of_ne_zero (by decide)).symm

/-- A share of a `u64` amount of at most the whole never overflows. -/
theorem bpsOf_of_le {amount rate : ℕ} (fits : amount < 2 ^ 64) (part : rate ≤ bpsDenom) :
    bpsOf amount rate = .ok (amount * rate / bpsDenom) := by
  rw [bpsOf_eq_mulDiv]
  exact Checked.mulDiv_of_le fits part (by decide) (by decide) (by decide)

/-- Burn and pool part of a sink. The pool part is the remainder. -/
def splitSink (amount : ℕ) : Except CliError (ℕ × ℕ) := do
  let burn ← bpsOf amount burnBps
  let pool ← checkedSub amount burn "sink underflow"
  return (burn, pool)

/-- A sink of a `u64` amount splits into seven tenths, rounded down, and the rest. -/
theorem splitSink_ok {amount : ℕ} (fits : amount < 2 ^ 64) :
    splitSink amount = .ok (amount * 7 / 10, amount - amount * 7 / 10) := by
  have burn : bpsOf amount burnBps = .ok (amount * 7 / 10) := by
    rw [bpsOf_of_le fits (by decide), burnBps, bpsDenom]
    congr 1
    omega
  simp only [splitSink, bind_eq_ok, checkedSub_eq_ok, pure_eq_ok]
  exact ⟨_, burn, _, ⟨by omega, rfl⟩, rfl⟩

/-! ## The buyback pool -/

/-- What a sale pays at this floor. -/
def instantSellQuote (floorPrice : ℕ) : Except CliError ℕ := bpsOf floorPrice instantSellBps

/-- How many instant sells the pool can cover, unbounded at a quote of zero. -/
def capacity (totalLamports floorPrice : ℕ) : Except CliError (Option ℕ) := do
  let quote ← instantSellQuote floorPrice
  return if 0 < quote then some (totalLamports / quote) else none

/-! ## The projection -/

/-- What an active user does in a day. -/
structure DailyProfile (F64 : Type) where
  deployShare : F64
  catchesCommon : UInt32
  catchesRare : UInt32
  catchesLegendary : UInt32
  gymRuns : UInt32
  forceEvolvesPer1000 : UInt32

/-- One row of the projection, in base units. -/
structure ProjectionDay where
  day : ℕ
  dailySink : ℕ
  dailyBurn : ℕ
  dailyPool : ℕ
  cumBurn : ℕ
  cumPool : ℕ
  deriving DecidableEq, Repr

/-- The projection with its totals. -/
structure Projection where
  days : UInt32
  dailyActive : UInt64
  rows : List ProjectionDay
  totalSink : ℕ
  totalBurn : ℕ
  totalPool : ℕ
  deriving DecidableEq, Repr

section

variable {F64 : Type} (deployUnits : F64 → UInt64)

/-- What an active user spends in a day. `deployUnits` is `(DEPLOY_COST as f64 * share).round() as u64`
of the share of users that deploy. -/
def dailySinkPerUser (p : DailyProfile F64) : Except CliError ℕ := do
  let sink ← checkedAdd 0 (deployUnits p.deployShare).toNat "deploy add overflow"
  let common ← checkedMul catchCommon p.catchesCommon.toNat "common catch overflow"
  let rare ← checkedMul catchRare p.catchesRare.toNat "rare catch overflow"
  let legendary ← checkedMul catchLegendary p.catchesLegendary.toNat "legendary catch overflow"
  let gym ← checkedMul gymCost p.gymRuns.toNat "gym overflow"
  let evolve ← checkedMul forceEvolveCost p.forceEvolvesPer1000.toNat "evolve overflow"
  -- evolves are counted per thousand users
  let evolve := evolve / 1000
  [common, rare, legendary, gym, evolve].foldlM
    (fun sink part => checkedAdd sink part "sink add overflow") sink

/-- What the loop of `project` has accrued. -/
structure Accrued where
  cumBurn : ℕ
  cumPool : ℕ
  rows : List ProjectionDay
  deriving DecidableEq, Repr

/-- One day more. -/
def accrueDay (dailySink dailyBurn dailyPool : ℕ) (acc : Accrued) (day : ℕ) :
    Except CliError Accrued := do
  let cumBurn ← checkedAdd acc.cumBurn dailyBurn "cum burn overflow"
  let cumPool ← checkedAdd acc.cumPool dailyPool "cum pool overflow"
  return ⟨cumBurn, cumPool,
    acc.rows ++ [⟨day, dailySink, dailyBurn, dailyPool, cumBurn, cumPool⟩]⟩

/-- `for day in 1..=days`. -/
def accrue (dailySink dailyBurn dailyPool days : ℕ) : Except CliError Accrued :=
  (List.range' 1 days).foldlM (accrueDay dailySink dailyBurn dailyPool) ⟨0, 0, []⟩

/-- Burn and pool accrual over so many days of one and the same activity. -/
def project (days : UInt32) (dailyActive : UInt64) (profile : DailyProfile F64) :
    Except CliError Projection := do
  require (days ≠ 0) (.input "days must be at least 1")
  let perUser ← dailySinkPerUser deployUnits profile
  let dailySink ← checkedMul perUser dailyActive.toNat "daily sink overflow"
  let (dailyBurn, dailyPool) ← splitSink dailySink
  let acc ← accrue dailySink dailyBurn dailyPool days.toNat
  let totalSink ← checkedMul dailySink days.toNat "total sink overflow"
  return ⟨days, dailyActive, acc.rows, totalSink, acc.cumBurn, acc.cumPool⟩

end

end Pokeage.Cli.Economy
