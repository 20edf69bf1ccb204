import Pokeage.Cli.Economy
import Pokeage.Game.Doubles
import Pokeage.Program.Effect
import Pokeage.Program.Opening
import Pokeage.Sdk.Client
import Pokeage.Sdk.Properties.Calls
import Pokeage.Sdk.Properties.Layouts

/-!
# Quotes against charges

The program computes fees and payouts in checked integers, the command line client in integers of its
own, and the engine, on which the SDK's client builds, in doubles. `quotes_met` says that over any run
the three amounts are one.
-/

namespace Pokeage.Sdk

open Infra Infra.Machine Infra.Balance Infra.Borsh Infra.Rounding
open Game (doubleFloats)
open Layout (Discriminator account)

variable {PublicKey : Type}

/-! ## The quote in doubles -/

/-- While the product of floor and share has 53 bits, nothing is lost: product and quotient round to
what the integers say. -/
theorem instantSellQuote_double (pow : ℚ → ℚ → ℚ) {floor : ℕ} (bits : floor * 5000 < 2 ^ 53) :
    Game.instantSellQuote (doubleFloats pow) (doubleFloats pow floor) =
      (bps floor Pokeage.instantSellBps : ℕ) := by
  have exact : roundTo 53 (floor : ℚ) = floor := roundTo_natCast floor (by omega)
  have product : roundTo 53 ((floor : ℚ) * (5000 : ℤ)) = (floor * 5000 : ℕ) := by
    rw [← roundTo_natCast (p := 53) (floor * 5000) bits]
    push_cast
    rfl
  show ⌊roundTo 53 (roundTo 53 (roundTo 53 (floor : ℚ) * (5000 : ℤ)) / (10000 : ℤ))⌋ = _
  have whole : ((10000 : ℤ) : ℚ) = ((10000 : ℕ) : ℚ) := by norm_num
  rw [exact, product, whole]
  exact floor_roundTo_div (by decide) (by decide) bits

/-- The fee of a tier that has one is the one quoted. -/
theorem mintFee_of_ok {tier fee : ℕ} (h : mintFeeForTier tier = .ok fee) :
    PokeageClient.mintFee tier = some (fee : ℤ) := by
  unfold mintFeeForTier at h
  split at h <;> cases h <;> rfl

/-! ## Reading the pool -/

/-- The account type of the program with the numbers of the pool. -/
structure PoolHolds (L : Layout.BuybackPool) (p : BuybackPool) : Prop where
  totalLamports : L.totalLamports.toNat = p.totalLamports
  lifetimeIn : L.lifetimeIn.toNat = p.lifetimeIn
  lifetimeOut : L.lifetimeOut.toNat = p.lifetimeOut
  floorPrice : L.floorPrice.toNat = p.floorPrice
  instantSellEnabled : L.instantSellEnabled = p.instantSellEnabled
  bump : L.bump.toNat = p.bump

/-- What the SDK's client quotes is the engine's quote at the floor in the account. -/
theorem instantSellPayout_eq (web3 : Web3 PublicKey) (pow : ℚ → ℚ → ℚ) {connection : Connection PublicKey}
    {disc : Discriminator} {L : Layout.BuybackPool}
    (answer : connection (poolPda web3).1 = some (account disc L.serialize)) :
    PokeageClient.instantSellPayout web3 (doubleFloats pow) connection =
      .ok (Game.instantSellQuote (doubleFloats pow) (doubleFloats pow L.floorPrice.toNat)) := by
  obtain ⟨a, reads, shows⟩ := reads_pool disc L
  have decoded : decodePool (account disc L.serialize) = .ok a := run_of_reads reads
  unfold PokeageClient.instantSellPayout getPool fetch
  rw [answer]
  dsimp only
  rw [decoded]
  show Except.ok (Game.instantSellQuote (doubleFloats pow) (doubleFloats pow (a.floorPrice : ℤ))) = _
  rw [shows.floorPrice]
  rfl

/-! ## Over a run -/

/-- What a step takes for a card or pays for one, against the quotes taken right before it: the mint fee
by tier, and the payout from the bytes of the pool's account. -/
def Quoted (web3 : Web3 PublicKey) (pow : ℚ → ℚ → ℚ) (d : Step) : Prop :=
  match d.act with
  | .program _ (.mintCard a tier _ _) =>
    ∃ fee cut rest : ℕ, PokeageClient.mintFee tier.toNat = some (fee : ℤ) ∧ cut + rest = fee ∧
      d.after.events = .cardMinted a.cardMint tier.toNat fee :: d.before.events ∧
      d.after.lamports =
        move (move d.before.lamports a.payer a.buybackVault cut) a.payer a.treasury rest
  | .program _ (.instantSell a) =>
    ∀ (connection : Connection PublicKey) (disc : Discriminator) (L : Layout.BuybackPool),
      connection (poolPda web3).1 = some (account disc L.serialize) →
      (∃ p, d.before.pool = some p ∧ PoolHolds L p) →
      ∃ paid : ℕ, d.after.events = .instantSold a.seller paid :: d.before.events ∧
        d.after.lamports = move d.before.lamports a.buybackVault a.seller paid ∧
        (∃ pool, Cli.decodeAccount Cli.BuybackPool.deserialize (account disc L.serialize) = .ok pool ∧
          Cli.Economy.instantSellQuote pool.floorPrice.toNat = .ok paid) ∧
        (L.floorPrice.toNat * 5000 < 2 ^ 53 →
          PokeageClient.instantSellPayout web3 (doubleFloats pow) connection = .ok (paid : ℤ))
  | _ => True

theorem step_quoted (web3 : Web3 PublicKey) (pow : ℚ → ℚ → ℚ) {s s' : Chain} {a : Action}
    (h : step s a = .ok s') : Quoted web3 pow ⟨s, a, s'⟩ := by
  cases step_effect h with
  | @sink _ ix _ _ _ _ _ _ _ _ charge _ =>
    -- a sink is neither of the two
    cases ix with
    | mintCard => cases charge
    | instantSell => cases charge
    | _ => trivial
  | mintCard ok =>
    have half (fee : ℕ) := Nat.add_sub_of_le (bps_le (show 5000 ≤ 10000 by decide) fee)
    refine ⟨_, _, _, mintFee_of_ok ok.fee_eq, half _, ?_, ?_⟩
    · rw [ok.after]
    · rw [ok.after]
  | @instantSell _ _ _ p _ _ _ ok =>
    rintro connection disc L answer ⟨p', pool, holds⟩
    obtain rfl : p = p' := Option.some.inj (ok.pool.symm.trans pool)
    have floor : payout p = bps L.floorPrice.toNat Pokeage.instantSellBps :=
      congrArg (bps · Pokeage.instantSellBps) holds.floorPrice.symm
    refine ⟨payout p, ?_, ?_, ?_, ?_⟩
    · rw [ok.after]
    · rw [ok.after]
    · refine ⟨_, Cli.decodeAccount_of_parses (parses_pool L) disc.length_eq, ?_⟩
      rw [floor]
      exact Cli.Economy.bpsOf_of_le L.floorPrice.toNat_lt (by decide)
    · intro bits
      rw [instantSellPayout_eq web3 pow answer, instantSellQuote_double pow bits, floor]
  | _ => trivial

/-- **Quotes are charges.** Over any run, each card that is minted costs what the client quotes for its
tier. Each instant sell pays what the command line client quotes from the bytes of the pool's account
before it, and, for floors of up to 2⁵³ / 5000 lamports, what the SDK computes in doubles. -/
theorem quotes_met (web3 : Web3 PublicKey) (pow : ℚ → ℚ → ℚ) (s : Chain) (as : List Action) :
    ∀ d ∈ trace step s as, Quoted web3 pow d :=
  fun _ mem => step_quoted web3 pow (step_of_mem_trace step mem)

/-- The pool's account once half a SOL is in it and the gate stands open at a floor of a tenth. -/
def fundedPool : Layout.BuybackPool := ⟨500000000, 500000000, 0, 100000000, true, 255⟩

/-- On the standard chain a card is minted, the gate opened and one unit sold: both clients have quoted
what is paid from the bytes of the pool's account. -/
theorem quotes_met_sale :
    let before := Machine.run step Chain.standard (openCard 8 12 6 1 ++ openBuyback)
    let after := Machine.run step Chain.standard (openCard 8 12 6 1 ++ openBuyback ++ [sellOnStandard 8 12 6])
    let data := account ⟨List.replicate 8 0, rfl⟩ fundedPool.serialize
    ∃ paid : ℕ, after.events = .instantSold (.key 6) paid :: before.events ∧
      (∃ pool, Cli.decodeAccount Cli.BuybackPool.deserialize data = .ok pool ∧
        Cli.Economy.instantSellQuote pool.floorPrice.toNat = .ok paid) ∧
      PokeageClient.instantSellPayout sampleWeb3 (doubleFloats fun _ _ => 1) (fun _ => some data) =
        .ok (paid : ℤ) := by
  intro before after data
  have pool : before.pool = some ⟨500000000, 500000000, 0, 100000000, true, 255⟩ := by decide +kernel
  have holds : PoolHolds fundedPool ⟨500000000, 500000000, 0, 100000000, true, 255⟩ :=
    ⟨rfl, rfl, rfl, rfl, rfl, rfl⟩
  have quoted : Quoted sampleWeb3 (fun _ _ => 1) ⟨before, sellOnStandard 8 12 6, after⟩ :=
    quotes_met sampleWeb3 (fun _ _ => 1) Chain.standard _ _ (mem_trace_concat (by decide +kernel))
  obtain ⟨paid, event, -, client, sdk⟩ :=
    quoted (fun _ => some data) _ fundedPool rfl ⟨_, pool, holds⟩
  exact ⟨paid, event, client, sdk (by decide)⟩

end Pokeage.Sdk
