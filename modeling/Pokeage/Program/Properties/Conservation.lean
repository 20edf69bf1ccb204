import Pokeage.Program.Effect
import Pokeage.Program.Opening

/-!
# Conservation of lamports

What an instruction pays is a list of transfers between the keys its accounts name (`payments`), and
what it closes one more (`closings`). The keys may coincide: a transfer reads the balance of its
destination after it has written that of its source. `step_moves` says that an instruction makes these
transfers and no others.
-/

namespace Pokeage

open Infra Infra.Balance Infra.Machine

/-! ## The transfers of an instruction -/

/-- The payments of a purchase: the seller's net, the pool's share of the fee and the rest of it. -/
def BuyCard.payments (a : BuyCard) (c : Config) (l : Listing) : List (Transfer Pubkey) :=
  [⟨a.buyer, a.seller, l.price - tradeFee c l⟩, ⟨a.buyer, a.buybackVault, tradePoolCut c l⟩,
    ⟨a.buyer, a.treasury, tradeBurnCut c l⟩]

/-- What the roles of an instruction send to each other. -/
def Instruction.payments (s : Chain) : Instruction → List (Transfer Pubkey)
  | .mintCard a tier _ _ =>
    match mintFeeForTier tier.toNat with
    | .ok fee => [⟨a.payer, a.buybackVault, bps fee 5000⟩, ⟨a.payer, a.treasury, fee - bps fee 5000⟩]
    | .error _ => []
  | .listCard a _ _ _ _ =>
    match s.config with
    | some c => [⟨a.seller, a.buybackVault, c.listingFee⟩]
    | none => []
  | .buyCard a =>
    match s.config, s.listings.get a.cardMint with
    | some c, some l => a.payments c l
    | _, _ => []
  | .instantSell a =>
    match s.pool with
    | some p => [⟨a.buybackVault, a.seller, payout p⟩]
    | none => []
  | .withdrawTreasury a amount => [⟨a.treasury, a.authority, amount.toNat⟩]
  | _ => []

/-- All that an escrow account holds, and then all that a listing does. -/
def closing (l : Pubkey → ℕ) (escrow listing dst : Pubkey) : List (Transfer Pubkey) :=
  [⟨escrow, dst, l escrow⟩, ⟨listing, dst, sweep l escrow dst listing⟩]

theorem covered_closing (l : Pubkey → ℕ) (escrow listing dst : Pubkey) :
    Covered l (closing l escrow listing dst) := ⟨le_rfl, le_rfl, trivial⟩

/-- What an instruction that closes a listing sends to the seller, given the lamports before. -/
def Instruction.closings (l : Pubkey → ℕ) : Instruction → List (Transfer Pubkey)
  | .cancelListing a => closing l a.escrowCard (.listing a.cardMint) a.seller
  | .buyCard a => closing l a.escrowCard (.listing a.cardMint) a.seller
  | _ => []

/-- All transfers of an instruction. -/
def Instruction.transfers (s : Chain) (ix : Instruction) : List (Transfer Pubkey) :=
  ix.payments s ++ ix.closings (moves s.lamports (ix.payments s))

/-! ## What a step moves -/

variable {s s' : Chain} {tx : Tx} {ix : Instruction}

/-- **A successful instruction makes its transfers**, each covered when its turn comes. -/
theorem step_moves (h : step s (.program tx ix) = .ok s') :
    Covered s.lamports (ix.transfers s) ∧ s'.lamports = moves s.lamports (ix.transfers s) := by
  unfold Instruction.transfers
  cases step_effect h with
  | mintCard ok =>
    have payments := ok.fee_eq
    simp only [Instruction.payments, payments]
    rw [ok.after]
    exact ⟨⟨ok.covered, ok.coveredRest, trivial⟩, rfl⟩
  | listCard ok =>
    simp only [Instruction.payments, ok.config]
    rw [ok.after]
    exact ⟨⟨ok.covered, trivial⟩, rfl⟩
  | cancelListing ok =>
    rw [ok.after]
    exact ⟨covered_closing _ _ _ _, rfl⟩
  | buyCard ok =>
    simp only [Instruction.payments, ok.config, ok.listing]
    rw [ok.after, covered_append, moves_append]
    exact ⟨⟨⟨ok.coveredNet, ok.coveredPool, ok.coveredBurn, trivial⟩, covered_closing _ _ _ _⟩, rfl⟩
  | instantSell ok =>
    simp only [Instruction.payments, ok.pool]
    rw [ok.after]
    exact ⟨⟨ok.covered, trivial⟩, rfl⟩
  | withdrawTreasury admin treasury covered after =>
    rw [after]
    exact ⟨⟨covered, trivial⟩, rfl⟩
  | @sink _ _ _ _ _ _ _ _ _ _ hix ok =>
    obtain ⟨ev, rfl⟩ := ok.after
    have none : ix.transfers s = [] := by
      cases ix <;> first | rfl | cases hix
    unfold Instruction.transfers at none
    rw [none]
    exact ⟨trivial, rfl⟩
  | initializeProgram ok =>
    rw [ok.after]
    exact ⟨trivial, rfl⟩
  | updateFloor _ _ after =>
    rw [after]
    exact ⟨trivial, rfl⟩
  | setInstantSell _ _ _ after =>
    rw [after]
    exact ⟨trivial, rfl⟩
  | setPause _ after =>
    rw [after]
    exact ⟨trivial, rfl⟩

/-- **Lamports are conserved, whichever roles share a key.** A successful instruction changes each key's
balance by the net of what it pays and is paid, apart from what closed accounts give back, and leaves
the sum over all keys that take part. -/
theorem lamports_conserved (h : step s (.program tx ix) = .ok s') :
    let paid := ix.payments s
    let closed := ix.closings (moves s.lamports paid)
    (∀ k, s'.lamports k + sent paid k + sent closed k =
      s.lamports k + received paid k + received closed k) ∧
    ∀ S : Finset Pubkey, (∀ t ∈ paid ++ closed, t.src ∈ S ∧ t.dst ∈ S) →
      ∑ k ∈ S, s'.lamports k = ∑ k ∈ S, s.lamports k := by
  obtain ⟨covered, after⟩ := step_moves h
  intro paid closed
  rw [after]
  refine ⟨?_, fun S within => sum_moves covered within⟩
  intro k
  have net : moves s.lamports (ix.transfers s) k + sent (paid ++ closed) k =
      s.lamports k + received (paid ++ closed) k := moves_net covered k
  rw [sent_append, received_append] at net
  omega

/-- User 6 has listed a card. -/
def listOwnCard : Chain :=
  run step .standard (openCard 8 12 6 1 ++ [listOnStandard 8 12 6 1000000])

/-- He buys it himself: he sends the price and receives it less the fee. -/
theorem lamports_conserved_ownCard :
    (exec step listOwnCard (buyOnStandard 8 6 6 (.key 3))).lamports (.key 6) + 1000000 =
      listOwnCard.lamports (.key 6) + 950000 := by
  have hok : (step listOwnCard (buyOnStandard 8 6 6 (.key 3))).isOk := by decide +kernel
  have net := (lamports_conserved (step_exec hok)).1 (.key 6)
  have paid : (Instruction.buyCard (buyAccounts 8 6 6 (.key 3))).payments listOwnCard =
      [⟨.key 6, .key 6, 950000⟩, ⟨.key 6, .key 4, 30000⟩, ⟨.key 6, .key 3, 20000⟩] := by
    decide +kernel
  have closed : (Instruction.buyCard (buyAccounts 8 6 6 (.key 3))).closings
      (moves listOwnCard.lamports [⟨.key 6, .key 6, 950000⟩, ⟨.key 6, .key 4, 30000⟩,
        ⟨.key 6, .key 3, 20000⟩]) =
      [⟨.ata (.listing (.key 8)) (.key 8), .key 6, 0⟩, ⟨.listing (.key 8), .key 6, 0⟩] := by
    decide +kernel
  rw [paid, closed] at net
  exact net

end Pokeage
