import Pokeage.Program.Properties.Escrow

/-!
# Getting a listed card back

`cancel_listing` moves exactly one unit out of the escrow account and then closes it, and the token
program closes only empty accounts. Everything else the instruction needs holds in every reachable
state, so whether a listing can be cancelled comes down to what its escrow account holds.
-/

namespace Pokeage

open Infra Infra.Balance Infra.Machine

/-- The accounts of a cancellation out of the escrow account that `list_card` opened. -/
def cancelAccounts (m : Pubkey) (l : Listing) (sellerCard : Pubkey) : CancelListing where
  seller := l.seller
  listing := .listing m
  cardMint := m
  sellerCard := sellerCard
  escrowCard := .ata (.listing m) m

section Recover

variable {s : Chain} {tx : Tx} {m k : Pubkey} {l : Listing} {f t : TokenAccount}

/-- A unit more fits wherever the supply does. -/
theorem credit_fits {j : Pubkey} {M : Mint} (hb : TokenBooks s.mints s.tokens)
    (hM : s.mints.get m = some M) (ht : s.tokens.get j = some t) (hf : s.tokens.get k = some f)
    (hjk : j ≠ k) (htm : t.mint = m) (hfm : f.mint = m) (h1 : 1 ≤ t.amount) :
    f.amount + 1 < 2 ^ 64 := by
  subst htm
  obtain ⟨hsup, hlt⟩ := hb.supply t.mint M hM
  have hadd := amount_add_le_heldOf hjk ht hf hfm
  omega

/-- With exactly one unit in escrow the cancellation goes through. -/
theorem cancel_isOk (h : Reachable s) (hl : s.listings.get m = some l) (hs : l.seller ∈ tx.signers)
    (hf : s.tokens.get k = some f) (hfm : f.mint = m) (hfo : f.owner = l.seller)
    (ht : s.tokens.get (.ata (.listing m) m) = some t) (h1 : t.amount = 1) :
    (step s (.program tx (.cancelListing (cancelAccounts m l k)))).isOk := by
  have hok := h.listings m l hl
  have hkey := hok.seller
  obtain ⟨t', ht', htm, hto, -⟩ := hok.unit
  obtain rfl := Option.some.inj (ht.symm.trans ht')
  obtain ⟨M, hM⟩ := Option.isSome_iff_exists.mp (h.books.isSome_of_get ht htm)
  have hne : Pubkey.ata (.listing m) m ≠ k := by
    refine ne_of_owner ht hf ?_
    rw [hto, hfo]
    intro he
    rw [← he] at hkey
    cases hkey
  have hata : Pubkey.ata (.listing m) m ≠ l.seller := by
    intro he
    rw [← he] at hkey
    cases hkey
  have hlist : Pubkey.listing m ≠ l.seller := by
    intro he
    rw [← he] at hkey
    cases hkey
  have hbal : Bounded s.lamports (2 ^ 64) := h.bounded
  have hswept : Bounded (sweep s.lamports (.ata (.listing m) m) l.seller) (2 ^ 64) := hbal.sweep
  have hesc : EscrowOk s m (.ata (.listing m) m) l t := ⟨hl, hok.active, ht, htm, hto, h1⟩
  obtain ⟨s', hs'⟩ := cancelListingHandler_succeeds (a := cancelAccounts m l k) hesc hs rfl hok.bump
    rfl hM hf hfm hfo hne hata hlist (credit_fits h.books hM ht hf hne htm hfm h1.ge)
    (hbal.add_lt hata.symm) (hswept.add_lt hlist.symm)
  show (cancelListingHandler s tx (cancelAccounts m l k)).isOk
  rw [hs']
  rfl

end Recover

/-- **When a listed card can be recovered.** The seller's cancellation out of the original escrow
account succeeds exactly if that account holds one unit. -/
theorem cancel_isOk_iff (s : Chain) (h : Reachable s) (m k : Pubkey) (l : Listing) (tx : Tx)
    (f : TokenAccount) (hl : s.listings.get m = some l) (hs : l.seller ∈ tx.signers)
    (hf : s.tokens.get k = some f) (hfm : f.mint = m) (hfo : f.owner = l.seller) :
    (step s (.program tx (.cancelListing (cancelAccounts m l k)))).isOk ↔
      (s.tokens.get (.ata (.listing m) m)).map TokenAccount.amount = some 1 := by
  constructor
  · intro hok
    obtain ⟨l', f', t, ok⟩ := cancelListingHandler_ok (step_exec hok)
    have hesc : s.tokens.get (.ata (.listing m) m) = some t := ok.escrow
    rw [hesc]
    exact congrArg some ok.unit
  · intro hunit
    obtain ⟨t, ht, h1⟩ := Option.map_eq_some_iff.mp hunit
    exact cancel_isOk h hl hs hf hfm hfo ht h1

/-- The listing of a mint of two units, after its holder has sent the second one to the escrow
account as well. -/
def donateUnit : List Action :=
  openCard 8 12 6 2 ++
  [listOnStandard 8 12 6 1000,
   .external (.by [6] 0)
    (.tokenTransfer (.key 12) (.key 8) (.ata (.listing (.key 8)) (.key 8)) (.key 6) 1)]

/-- The listing is there, the seller signs and brings his own account, and the cancellation fails. -/
theorem not_cancel_donateUnit : Reachable (run step .standard donateUnit) ∧
    ((run step .standard donateUnit).listings.get (.key 8)).map Listing.seller = some (.key 6) ∧
    (run step .standard donateUnit).tokens.get (.key 12) = some ⟨.key 8, .key 6, 0⟩ ∧
    (step (run step .standard donateUnit)
      (cancelOnStandard 8 12 6 (.ata (.listing (.key 8)) (.key 8)))).isOk = false := by
  refine ⟨Chain.initialized_standard.reachable.run _, ?_, ?_, ?_⟩ <;> decide +kernel

/-- Without the second unit the cancellation succeeds. -/
theorem cancel_isOk_listUnit : ∃ l : Listing,
    (run step .standard listUnit).listings.get (.key 8) = some l ∧
    (step (run step .standard listUnit)
      (.program (.by [6] 0) (.cancelListing (cancelAccounts (.key 8) l (.key 12))))).isOk := by
  have hreach := Chain.initialized_standard.reachable.run listUnit
  have hseller : ((run step .standard listUnit).listings.get (.key 8)).map Listing.seller
      = some (.key 6) := by decide +kernel
  have hcard : (run step .standard listUnit).tokens.get (.key 12) = some ⟨.key 8, .key 6, 0⟩ := by
    decide +kernel
  have hesc : ((run step .standard listUnit).tokens.get (.ata (.listing (.key 8)) (.key 8))).map
      TokenAccount.amount = some 1 := by decide +kernel
  obtain ⟨l, hl, hls⟩ := Option.map_eq_some_iff.mp hseller
  have hsigns : l.seller ∈ (Tx.by [6] 0).signers := by
    rw [hls]
    exact List.mem_singleton.mpr rfl
  exact ⟨l, hl, (cancel_isOk_iff _ hreach (.key 8) (.key 12) l (.by [6] 0) _ hl hsigns hcard rfl
    hls.symm).mpr hesc⟩

end Pokeage
