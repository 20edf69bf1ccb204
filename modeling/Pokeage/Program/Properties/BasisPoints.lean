import Pokeage.Cli.Economy
import Pokeage.Program.Shared

/-!
# Basis points in the program and in the client

Each crate has a `bps_of` and a sink split of its own. They agree on every `u64`, in the value and in
when there is none. A share is rounded down, so what is charged in parts burns no more than one charge
of the total, and less than one base unit less for each part.
-/

namespace Pokeage

open Infra

/-! ## Shares -/

/-- What either `bps_of` makes of an amount and a rate. -/
structure SharesAlike (amount rate : ℕ) : Prop where
  /-- The `u128` product and quotient of either `bps_of` are there. -/
  product : Checked.mul 128 amount rate = some (amount * rate)
  quotient : Checked.div (amount * rate) 10000 = some (amount * rate / 10000)
  programSteps : bpsOf amount rate =
    Checked.mulDiv 128 64 (.pokeage .mathOverflow) (.pokeage .mathOverflow)
      (.pokeage .mathOverflow) amount rate 10000
  clientSteps : Cli.Economy.bpsOf amount rate =
    Checked.mulDiv 128 64 (.math "bps mul overflow") (.math "bps div by zero")
      (.math "bps result exceeds u64") amount rate 10000
  program : bpsOf amount rate = if amount * rate / 10000 < 2 ^ 64
    then .ok (amount * rate / 10000) else .error (.pokeage .mathOverflow)
  client : Cli.Economy.bpsOf amount rate = if amount * rate / 10000 < 2 ^ 64
    then .ok (amount * rate / 10000) else .error (.math "bps result exceeds u64")
  part : rate ≤ 10000 → amount * rate / 10000 ≤ amount

/-- Both crates compute every share alike. -/
theorem sharesAlike {amount rate : ℕ} (ha : amount < 2 ^ 64) (hr : rate < 2 ^ 64) :
    SharesAlike amount rate where
  product := Checked.mul_of_lt (Checked.product_lt ha hr (by decide))
  quotient := Checked.div_of_ne_zero (by decide)
  programSteps := bpsOf_eq_mulDiv amount rate
  clientSteps := Cli.Economy.bpsOf_eq_mulDiv amount rate
  program := by
    rw [bpsOf_eq_mulDiv]
    exact Checked.mulDiv_eq ha hr (by decide) (by decide)
  client := by
    rw [Cli.Economy.bpsOf_eq_mulDiv]
    exact Checked.mulDiv_eq ha hr (by decide) (by decide)
  part := fun whole => Checked.share_le whole amount

/-! ## Splits -/

/-- The split of a total, by the program and by the client. -/
def sinkSplit (total : ℕ) : SinkSplit where
  burned := bps total burnBps
  toPool := total - bps total burnBps

/-- The pair that the client returns. -/
def SinkSplit.pair (split : SinkSplit) : ℕ × ℕ := (split.burned, split.toPool)

/-- Nothing is lost in a split. -/
theorem sinkSplit_sum (total : ℕ) : (sinkSplit total).burned + (sinkSplit total).toPool = total :=
  Nat.add_sub_of_le (bps_le (by decide) total)

/-- The client's split of an amount. -/
theorem splitSink_of_lt {total : ℕ} (fits : total < 2 ^ 64) :
    Cli.Economy.splitSink total = .ok (sinkSplit total).pair := by
  have seventy : bps total burnBps = total * 7 / 10 := by
    unfold bps burnBps bpsDenom
    omega
  unfold sinkSplit SinkSplit.pair
  rw [seventy]
  exact Cli.Economy.splitSink_ok fits

/-! ### Charges -/

section

variable (charges : List UInt64)

theorem mapM_computeSplit : charges.mapM (fun c => computeSplit c.toNat) =
    .ok (charges.map fun c => sinkSplit c.toNat) := by
  have each : (fun c : UInt64 => computeSplit c.toNat) = fun c => pure (sinkSplit c.toNat) := by
    funext c
    exact computeSplit_of_lt c.toNat_lt
  rw [each]
  exact List.mapM_pure

theorem mapM_splitSink : charges.mapM (fun c => Cli.Economy.splitSink c.toNat) =
    .ok ((charges.map fun c => sinkSplit c.toNat).map SinkSplit.pair) := by
  have each : (fun c : UInt64 => Cli.Economy.splitSink c.toNat) =
      fun c => pure (sinkSplit c.toNat).pair := by
    funext c
    exact splitSink_of_lt c.toNat_lt
  rw [each, List.map_map]
  exact List.mapM_pure

/-- What the charges burn is the sum of their shares. -/
theorem burned_charges : ((charges.map fun c => sinkSplit c.toNat).map SinkSplit.burned).sum =
    ((charges.map UInt64.toNat).map fun a => a * burnBps / bpsDenom).sum := by
  rw [List.map_map, List.map_map]
  rfl

end

/-- A split of a total that both crates make, against the total charged in parts. -/
structure SplitsAlike (total : ℕ) (split : SinkSplit) : Prop where
  program : computeSplit total = .ok split
  client : Cli.Economy.splitSink total = .ok split.pair
  sum : split.burned + split.toPool = total
  charges : ∀ charges : List UInt64, charges ≠ [] → (charges.map UInt64.toNat).sum = total →
    ∃ parts, charges.mapM (fun c => computeSplit c.toNat) = .ok parts ∧
      charges.mapM (fun c => Cli.Economy.splitSink c.toNat) = .ok (parts.map SinkSplit.pair) ∧
      (parts.map SinkSplit.burned).sum ≤ split.burned ∧
      split.burned < (parts.map SinkSplit.burned).sum + charges.length

/-- Both crates split every amount alike. -/
theorem splitsAlike {total : ℕ} (fits : total < 2 ^ 64) : SplitsAlike total (sinkSplit total) where
  program := computeSplit_of_lt fits
  client := splitSink_of_lt fits
  sum := sinkSplit_sum total
  charges := by
    intro charges some_ sums
    subst sums
    refine ⟨_, mapM_computeSplit charges, mapM_splitSink charges, ?_, ?_⟩
    · rw [burned_charges]
      exact Checked.sum_share_le burnBps bpsDenom _
    · have parts : charges.map UInt64.toNat ≠ [] := fun none_ => some_ (List.map_eq_nil_iff.1 none_)
      have lost := Checked.share_sum_lt (by decide : 0 < bpsDenom) burnBps parts
      rw [List.length_map] at lost
      rw [burned_charges]
      exact lost

/-- **Basis-point arithmetic.** Both `bps_of` are the floor of the share wherever it is a `u64`, and
both split every `u64` total alike. -/
theorem bps_exact (amount rate total : UInt64) :
    SharesAlike amount.toNat rate.toNat ∧ ∃ split, SplitsAlike total.toNat split :=
  ⟨sharesAlike amount.toNat_lt rate.toNat_lt, _, splitsAlike total.toNat_lt⟩

end Pokeage
