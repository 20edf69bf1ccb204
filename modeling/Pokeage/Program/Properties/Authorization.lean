import Pokeage.Program.Properties.Custody

/-!
# What an instruction can do to someone who did not sign it

`Spared` is the frame around an address `x` that did not sign: lamports and token balances only grow,
the player record stays, and a listing goes only by being bought, for its price less the fee. The one
account that an instruction empties without its signature is the escrow account that a cancelled or
bought listing closes. `AdminKept` is the frame around the authority's settings.
-/

namespace Pokeage

open Infra Infra.Balance Infra.Machine

/-- The escrow account an instruction closes. -/
def Instruction.closes : Instruction → Option Pubkey
  | .cancelListing a => some a.escrowCard
  | .buyCard a => some a.escrowCard
  | _ => none

/-- The sale of `x`'s listing `l` of the mint `m` credited it with the price less the fee, before it
was given what the two closed accounts held. -/
def SoldFor (s s' : Chain) (ix : Instruction) (x m : Pubkey) (l : Listing) : Prop :=
  ∃ a c paid, ix = .buyCard a ∧ a.cardMint = m ∧ s.config = some c ∧
    paid x = s.lamports x + (l.price - bps l.price c.marketFeeBps) ∧
    s'.lamports = closedLamports paid a.escrowCard (.listing m) x

/-- What an instruction leaves an address `x` that did not sign it. -/
structure Spared (s s' : Chain) (ix : Instruction) (x : Pubkey) : Prop where
  lamports : ix.closes ≠ some x → s.lamports x ≤ s'.lamports x
  tokens : ∀ k t, s.tokens.get k = some t → t.owner = x →
    ∃ t', s'.tokens.get k = some t' ∧ t'.owner = x ∧ t'.mint = t.mint ∧ t.amount ≤ t'.amount
  player : s'.players.get x = s.players.get x
  listing : ∀ m l, s.listings.get m = some l → l.seller = x →
    s'.listings.get m = some l ∨ SoldFor s s' ix x m l

/-- The settings only the authority may change. -/
structure AdminKept (c c' : Config) (p p' : BuybackPool) : Prop where
  rates : c'.rates = c.rates
  paused : c'.paused = c.paused
  floorPrice : p'.floorPrice = p.floorPrice
  enabled : p'.instantSellEnabled = p.instantSellEnabled

section Frame

variable {s s' : Chain} {tx : Tx} {ix : Instruction} {x : Pubkey} {c : Config}

/-- Lamports of an address that did not sign. The paying roles are all taken by signers, the vault,
the treasury or the accounts being closed. -/
theorem step_lamports_le (h : step s (.program tx ix) = .ok s') (hc : s.config = some c)
    (hs : x ∉ tx.signers) (hpda : x.isPda = false) (hv : x ≠ c.buybackVault)
    (ht : x ≠ c.treasury) (hclose : ix.closes ≠ some x) : s.lamports x ≤ s'.lamports x := by
  have hlisting : ∀ m, x ≠ .listing m := by rintro m rfl; cases hpda
  cases step_effect h with
  | mintCard ok =>
    have hp := ne_of_mem_of_not_mem ok.signed hs
    rw [ok.after]
    exact le_trans (le_move hp.symm) (le_move hp.symm)
  | listCard ok =>
    have hp := ne_of_mem_of_not_mem ok.signed hs
    rw [ok.after]
    exact le_move hp.symm
  | @cancelListing _ a _ _ _ _ ok =>
    have hesc : x ≠ a.escrowCard := by rintro rfl; exact hclose rfl
    rw [ok.after]
    exact le_trans (le_sweep hesc) (le_sweep (hlisting _))
  | @buyCard _ a _ _ _ _ _ _ ok =>
    have hp := ne_of_mem_of_not_mem ok.signed hs
    have hesc : x ≠ a.escrowCard := by rintro rfl; exact hclose rfl
    rw [ok.after]
    refine le_trans ?_ (le_trans (le_sweep hesc) (le_sweep (hlisting _)))
    exact le_trans (le_move hp.symm) (le_trans (le_move hp.symm) (le_move hp.symm))
  | instantSell ok =>
    obtain rfl := Option.some.inj (hc.symm.trans ok.config)
    rw [ok.after]
    exact le_move (by rw [ok.vault]; exact hv)
  | withdrawTreasury admin treasury _ after =>
    obtain rfl := Option.some.inj (hc.symm.trans admin.config)
    rw [after]
    exact le_move (by rw [treasury]; exact ht)
  | sink _ ok => obtain ⟨ev, rfl⟩ := ok.after; exact le_rfl
  | initializeProgram ok => rw [ok.after]
  | updateFloor _ _ after => rw [after]
  | setInstantSell _ _ _ after => rw [after]
  | setPause _ after => rw [after]

/-- A sink writes the record of its signer alone. -/
theorem step_player (h : step s (.program tx ix) = .ok s') (hs : x ∉ tx.signers) :
    s'.players.get x = s.players.get x := by
  rcases step_players h with same | ⟨_, _, a, cost, c, m, f, t, ps, this, -, ok⟩
  · rw [same]
  · cases this
    have hp := ne_of_mem_of_not_mem ok.signed hs
    obtain ⟨ev, rfl⟩ := ok.after
    exact Store.get_set_ne _ _ hp.symm

/-- A listing goes by its seller's signature or by being bought. -/
theorem step_listing_sold {m : Pubkey} {l : Listing} (h : step s (.program tx ix) = .ok s')
    (hc : s.config = some c) (hs : x ∉ tx.signers) (hv : x ≠ c.buybackVault) (ht : x ≠ c.treasury)
    (hl : s.listings.get m = some l) (hx : l.seller = x) :
    s'.listings.get m = some l ∨ SoldFor s s' ix x m l := by
  cases step_effect h with
  | @listCard _ a _ _ _ _ _ _ _ _ _ _ ok =>
    refine Or.inl ?_
    rw [ok.after]
    refine (Store.get_set_ne _ _ ?_).trans hl
    rintro rfl
    rw [ok.fresh] at hl
    cases hl
  | @cancelListing _ a l' _ _ _ ok =>
    refine Or.inl ?_
    rw [ok.after]
    refine (Store.get_erase_ne _ ?_).trans hl
    rintro rfl
    rw [ok.listing] at hl
    cases hl
    exact hs (by rw [← hx, ok.seller]; exact ok.signed)
  | @buyCard _ a c' p l' f t _ ok =>
    by_cases hm : m = a.cardMint
    · subst hm
      obtain rfl := Option.some.inj (hc.symm.trans ok.config)
      obtain rfl := Option.some.inj (hl.symm.trans ok.listing)
      have hseller : a.seller = x := ok.seller.trans hx
      have hp := ne_of_mem_of_not_mem ok.signed hs
      refine Or.inr ⟨a, c, paidLamports s a c l, rfl, rfl, hc, ?_, ?_⟩
      · unfold paidLamports
        rw [move_of_ne hp.symm (by rw [ok.treasury]; exact ht),
          move_of_ne hp.symm (by rw [ok.vault]; exact hv), hseller, move_dst hp]
        rfl
      · rw [ok.after, hseller]
    · refine Or.inl ?_
      rw [ok.after]
      exact (Store.get_erase_ne _ hm).trans hl
  | sink _ ok => obtain ⟨ev, rfl⟩ := ok.after; exact Or.inl hl
  | initializeProgram ok => exact Or.inl (by rw [ok.after]; exact hl)
  | mintCard ok => exact Or.inl (by rw [ok.after]; exact hl)
  | instantSell ok => exact Or.inl (by rw [ok.after]; exact hl)
  | updateFloor _ _ after => exact Or.inl (by rw [after]; exact hl)
  | setInstantSell _ _ _ after => exact Or.inl (by rw [after]; exact hl)
  | withdrawTreasury _ _ _ after => exact Or.inl (by rw [after]; exact hl)
  | setPause _ after => exact Or.inl (by rw [after]; exact hl)

/-- Without the authority's signature the settings stay. -/
theorem step_adminKept {p : BuybackPool} (h : step s (.program tx ix) = .ok s')
    (hc : s.config = some c) (hp : s.pool = some p) (ha : c.authority ∉ tx.signers) :
    ∃ c' p', s'.config = some c' ∧ s'.pool = some p' ∧ AdminKept c c' p p' := by
  have hsigned : ∀ {authority c₁}, AdminOk s tx authority c₁ → False := by
    intro authority c₁ admin
    obtain rfl := Option.some.inj (hc.symm.trans admin.config)
    exact ha (by rw [admin.authority]; exact admin.signed)
  cases step_effect h with
  | initializeProgram ok =>
    rw [ok.config] at hc
    cases hc
  | sink _ ok =>
    obtain rfl := Option.some.inj (hc.symm.trans ok.config)
    obtain ⟨ev, rfl⟩ := ok.after
    exact ⟨_, p, rfl, hp, ⟨rfl, rfl, rfl, rfl⟩⟩
  | mintCard ok =>
    obtain rfl := Option.some.inj (hc.symm.trans ok.config)
    obtain rfl := Option.some.inj (hp.symm.trans ok.pool)
    obtain rfl := ok.after
    exact ⟨_, _, rfl, rfl, ⟨rfl, rfl, rfl, rfl⟩⟩
  | listCard ok =>
    obtain rfl := Option.some.inj (hp.symm.trans ok.pool)
    obtain rfl := ok.after
    exact ⟨c, _, hc, rfl, ⟨rfl, rfl, rfl, rfl⟩⟩
  | cancelListing ok =>
    obtain rfl := ok.after
    exact ⟨c, p, hc, hp, ⟨rfl, rfl, rfl, rfl⟩⟩
  | buyCard ok =>
    obtain rfl := Option.some.inj (hp.symm.trans ok.pool)
    obtain rfl := ok.after
    exact ⟨c, _, hc, rfl, ⟨rfl, rfl, rfl, rfl⟩⟩
  | instantSell ok =>
    obtain rfl := Option.some.inj (hp.symm.trans ok.pool)
    obtain rfl := ok.after
    exact ⟨c, _, hc, rfl, ⟨rfl, rfl, rfl, rfl⟩⟩
  | updateFloor admin _ _ => exact (hsigned admin).elim
  | setInstantSell admin _ _ _ => exact (hsigned admin).elim
  | withdrawTreasury admin _ _ _ => exact (hsigned admin).elim
  | setPause admin _ => exact (hsigned admin).elim

end Frame

/-- **Authorization.** An instruction spares every address that did not sign it and is neither one of
the program's own, nor the vault, nor the treasury; and it keeps the settings unless the authority
signed. -/
theorem authorization (s s' : Chain) (hr : Reachable s) (tx : Tx) (ix : Instruction)
    (h : step s (.program tx ix) = .ok s') :
    ∃ c p, s.config = some c ∧ s.pool = some p ∧
      (∀ x, x ∉ tx.signers → x.isPda = false → x ≠ c.buybackVault → x ≠ c.treasury →
        Spared s s' ix x) ∧
      (c.authority ∉ tx.signers →
        ∃ c' p', s'.config = some c' ∧ s'.pool = some p' ∧ AdminKept c c' p p') := by
  obtain ⟨c, p, hl⟩ := hr.live
  refine ⟨c, p, hl.config, hl.pool, ?_, step_adminKept h hl.config hl.pool⟩
  intro x hs hpda hv ht
  refine ⟨step_lamports_le h hl.config hs hpda hv ht, ?_, step_player h hs,
    fun m l => step_listing_sold h hl.config hs hv ht⟩
  rintro k t hk rfl
  have hrel : (Action.program tx ix).releases ≠ some t.owner := by
    intro he
    cases ix <;> first | cases he | (rw [← Option.some.inj he] at hpda; cases hpda)
  obtain ⟨t', ht', hm, ho, hn⟩ := step_kept h hk hs hrel
  exact ⟨t', ht', ho, hm, hn⟩

/-- A mint of two units: one is listed, the other moved into account 13 of the listing, which also
holds five lamports. -/
def escrowBeside : List Action :=
  openCard 8 12 6 2 ++
  [listOnStandard 8 12 6 1000,
   .external (.by [13] 0) (.createTokenAccount (.key 13) (.key 8) (.listing (.key 8))),
   .external (.by [6] 0) (.tokenTransfer (.key 12) (.key 8) (.key 13) (.key 6) 1),
   .external (.by [7] 0) (.systemTransfer (.key 7) (.key 13) 5)]

/-- Cancelling out of account 13 closes it, and its lamports go to the seller without its signature. -/
theorem not_spared_escrow : ∃ s s' tx ix c, Reachable s ∧ step s (.program tx ix) = .ok s' ∧
    s.config = some c ∧ Pubkey.key 13 ∉ tx.signers ∧ (Pubkey.key 13).isPda = false ∧
    Pubkey.key 13 ≠ c.buybackVault ∧ Pubkey.key 13 ≠ c.treasury ∧
    s.lamports (.key 13) = 5 ∧ s'.lamports (.key 13) = 0 := by
  have hreach := Chain.initialized_standard.reachable.run escrowBeside
  obtain ⟨c, p, hl⟩ := hreach.live
  have hkeys : (run step .standard escrowBeside).config.map
      (fun c => (c.buybackVault, c.treasury)) = some (.key 4, .key 3) := by decide +kernel
  rw [hl.config] at hkeys
  obtain ⟨hv, ht⟩ := Prod.mk.inj (Option.some.inj hkeys)
  have hstep : step (run step .standard escrowBeside) (cancelOnStandard 8 12 6 (.key 13)) = .ok _ :=
    step_exec (by decide +kernel)
  refine ⟨_, _, _, _, c, hreach, hstep, hl.config, by decide, rfl, ?_, ?_, ?_, ?_⟩
  · rw [hv]; decide
  · rw [ht]; decide
  · decide +kernel
  · decide +kernel

/-- The same cancellation, seen by everyone. -/
theorem authorization_cancel :
    ∃ c p, (run step .standard escrowBeside).config = some c ∧
      (run step .standard escrowBeside).pool = some p ∧
      (∀ x, x ∉ [Pubkey.key 6] → x.isPda = false → x ≠ c.buybackVault → x ≠ c.treasury →
        Spared (run step .standard escrowBeside)
          (exec step (run step .standard escrowBeside) (cancelOnStandard 8 12 6 (.key 13)))
          (.cancelListing
            { seller := .key 6, listing := .listing (.key 8), cardMint := .key 8,
              sellerCard := .key 12, escrowCard := .key 13 }) x) ∧
      (c.authority ∉ [Pubkey.key 6] → ∃ c' p',
        (exec step (run step .standard escrowBeside)
          (cancelOnStandard 8 12 6 (.key 13))).config = some c' ∧
        (exec step (run step .standard escrowBeside)
          (cancelOnStandard 8 12 6 (.key 13))).pool = some p' ∧ AdminKept c c' p p') :=
  authorization _ _ (Chain.initialized_standard.reachable.run _) (.by [6] 0) _
    (step_exec (by decide +kernel))

end Pokeage
