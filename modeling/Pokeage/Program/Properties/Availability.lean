import Pokeage.Program.Properties.Capacity
import Pokeage.Program.Properties.Settlement

/-!
# When a listed card can be bought

What `buy_card` needs of the chain beyond what holds in every reachable state: the market open, the
unit in escrow, the buyer a system account with the price and without somebody else's account in the
place of its own, and room in the pool's counter. Account rent left out, `buy_isOk_iff` says that this is
all, and that none of it can be left out: a buyer without a card account pays the rent of the one that
`init_if_needed` opens on top of the price.
-/

namespace Pokeage

open Infra Infra.Balance Infra.Machine

/-- The accounts of a purchase by `buyer` out of the escrow account that `list_card` opened. -/
def purchaseAccounts (c : Config) (m : Pubkey) (l : Listing) (buyer : Pubkey) : BuyCard where
  buyer := buyer
  config := .config
  buybackPool := .buybackPool
  listing := .listing m
  seller := l.seller
  cardMint := m
  buyerCard := .ata buyer m
  escrowCard := .ata (.listing m) m
  buybackVault := c.buybackVault
  treasury := c.treasury

/-- What a purchase by `buyer` needs of the chain. -/
structure Buyable (s : Chain) (c : Config) (p : BuybackPool) (m : Pubkey) (l : Listing)
    (buyer : Pubkey) : Prop where
  unpaused : c.isPaused Config.pauseMarket = false
  unit : (s.tokens.get (.ata (.listing m) m)).map TokenAccount.amount = some 1
  own : ∀ t, s.tokens.get (.ata buyer m) = some t → t.owner = buyer
  system : s.owner buyer = .system
  funds : l.price ≤ s.lamports buyer
  counter : p.lifetimeIn + tradePoolCut c l < 2 ^ 64

section Price

variable {s s' : Chain} {m : Pubkey} {l : Listing}

/-- A price came with a `list_card`, as a `u64`. -/
theorem Reachable.price_lt (h : Reachable s) (hl : s.listings.get m = some l) : l.price < 2 ^ 64 := by
  refine Reachable.induction (P := fun s => ∀ m l, s.listings.get m = some l → l.price < 2 ^ 64)
    ?_ ?_ h m l hl
  · intro s init m l hl
    rw [(init.empty m).2.2] at hl
    cases hl
  · intro s a s' old stepped m l hl
    rcases step_listing stepped m with ⟨same, -⟩ | ⟨none, -⟩ | opens
    · exact old m l (same.symm.trans hl)
    · rw [none] at hl
      cases hl
    · obtain ⟨tx, x, price, tier, level, stage, c, p, M, f, t, -, rfl, ok⟩ := opens
      rw [ok.escrowed.1] at hl
      obtain rfl := Option.some.inj hl
      exact price.toNat_lt

end Price

section Buy

variable {s s' : Chain} {tx : Tx} {c : Config} {p : BuybackPool} {m buyer : Pubkey} {l : Listing}

/-! ## The amounts -/

/-- No step of the fee fails, and each part is one of the price. -/
structure FeeOk (c : Config) (l : Listing) : Prop where
  fee : bpsOf l.price c.marketFeeBps = .ok (tradeFee c l)
  cut : bpsOf (tradeFee c l) poolShareBps = .ok (tradePoolCut c l)
  cut_le : tradePoolCut c l ≤ tradeFee c l
  fee_le : tradeFee c l ≤ l.price

theorem Reachable.feeOk (h : Reachable s) (config : s.config = some c)
    (listing : s.listings.get m = some l) : FeeOk c l := by
  have price := h.price_lt listing
  have rate := h.marketFee_le config
  have fee_le : tradeFee c l ≤ l.price := bps_le (by omega) l.price
  exact ⟨bpsOf_of_le price (by omega), bpsOf_of_le (Nat.lt_of_le_of_lt fee_le price) (by decide),
    bps_le (by decide) (tradeFee c l), fee_le⟩

/-- A buyer who is not the one paid has that much less. -/
theorem funds_left {lam : Pubkey → ℕ} {dst : Pubkey} {n : ℕ} (ne : buyer ≠ dst) :
    move lam buyer dst n buyer = lam buyer - n := by
  unfold move
  rw [Function.update_of_ne ne, Function.update_self]

/-- With the price at hand each of the three payments is covered when its turn comes. -/
theorem FeeOk.covered (fees : FeeOk c l) {lam : Pubkey → ℕ} {seller vault : Pubkey}
    (funds : l.price ≤ lam buyer) (ne_seller : buyer ≠ seller) (ne_vault : buyer ≠ vault) :
    l.price - tradeFee c l ≤ lam buyer ∧
    tradePoolCut c l ≤ move lam buyer seller (l.price - tradeFee c l) buyer ∧
    tradeBurnCut c l ≤ move (move lam buyer seller (l.price - tradeFee c l)) buyer vault
      (tradePoolCut c l) buyer := by
  have parts := trade_split fees.cut_le fees.fee_le
  rw [funds_left ne_vault, funds_left ne_seller]
  omega

/-! ## The accounts -/

/-- The chain once the buyer's account is open and the cut is booked, with the lamports as they are
then. -/
abbrev booked (s : Chain) (c : Config) (p : BuybackPool) (m : Pubkey) (l : Listing) (buyer : Pubkey)
    (lam : Pubkey → ℕ) : Chain := { s with
  lamports := lam
  tokens := ensureAta s.tokens (.ata buyer m) m buyer
  pool := some { p with
    totalLamports := p.totalLamports + tradePoolCut c l
    lifetimeIn := p.lifetimeIn + tradePoolCut c l }
  listings := s.listings.set m { l with active := false } }

/-- Booking changes nobody's owner but that of the new account. -/
theorem owner_booked {lam : Pubkey → ℕ} {k : Pubkey} (pool : s.pool = some p)
    (listing : s.listings.get m = some l) (ne : k ≠ .ata buyer m) :
    (booked s c p m l buyer lam).owner k = s.owner k := by
  refine owner_congr ?_ rfl ?_ rfl
  · cases k with
    | buybackPool =>
      show true = s.pool.isSome
      rw [pool]
      rfl
    | listing j =>
      show ((s.listings.set m _).get j).isSome = (s.listings.get j).isSome
      by_cases same : j = m
      · rw [same, Store.get_set_self, listing]
        rfl
      · rw [Store.get_set_ne _ _ same]
    | _ => rfl
  · show ((ensureAta s.tokens (.ata buyer m) m buyer).get k).isSome = _
    rw [get_ensureAta_ne ne]

/-- A payment out of a system account that covers it goes through. -/
theorem pay_of_bounded {src dst : Pubkey} {n : ℕ} (system : s.owner src = .system)
    (covered : n ≤ s.lamports src) (bounded : Bounded s.lamports (2 ^ 64)) :
    s.pay src dst n = .ok { s with lamports := move s.lamports src dst n } := by
  unfold Chain.pay
  split
  · simp only [Chain.systemTransfer, bind_eq_ok, require_eq_ok, exists_const, pure_eq_ok]
    refine ⟨system, covered, ?_, trivial⟩
    -- what arrives is part of what there is
    have together := @Bounded.move _ _ _ src dst _ _ bounded covered {dst}
    rwa [Finset.sum_singleton, move, Function.update_self] at together
  · next none =>
    obtain rfl : n = 0 := by omega
    rw [move_zero]

/-- The buyer's account for the card opens where nobody else's stands in its place. -/
theorem initAta_of_own (books : TokenBooks s.mints s.tokens)
    (own : ∀ t, s.tokens.get (.ata buyer m) = some t → t.owner = buyer) :
    s.initAtaIfNeeded (.ata buyer m) m buyer =
      .ok { s with tokens := ensureAta s.tokens (.ata buyer m) m buyer } := by
  unfold Chain.initAtaIfNeeded ensureAta
  rw [require_of rfl, ok_bind]
  cases there : s.tokens.get (.ata buyer m) with
  | none => rfl
  | some t =>
    dsimp only
    rw [require_of (books.ata _ _ t there).1, ok_bind, require_of (own t there), ok_bind]
    rfl

/-- The unit in escrow, and where it goes. -/
structure Deliverable (s : Chain) (m buyer : Pubkey) (M : Mint) (t f : TokenAccount) : Prop where
  mint : s.mints.get m = some M
  escrow : s.tokens.get (.ata (.listing m) m) = some t
  escrowOwner : t.owner = .listing m
  unit : t.amount = 1
  ne : Pubkey.ata buyer m ≠ .ata (.listing m) m
  transferable : Chain.Transferable { s with tokens := ensureAta s.tokens (.ata buyer m) m buyer }
    (.ata (.listing m) m) m (.ata buyer m) (.listing m) 1 t f
  fits : f.amount + 1 < 2 ^ 64

theorem Buyable.deliverable (h : Buyable s c p m l buyer) (reachable : Reachable s)
    (listing : s.listings.get m = some l) (key : buyer.isKey) :
    ∃ M t f, Deliverable s m buyer M t f := by
  have books := reachable.books
  obtain ⟨t, escrow, mint, owner, -⟩ := (reachable.listings m l listing).unit
  have one : t.amount = 1 := by
    have unit := h.unit
    rw [escrow] at unit
    exact Option.some.inj unit
  obtain ⟨M, minted⟩ := Option.isSome_iff_exists.mp (books.isSome_of_get escrow mint)
  have ne : Pubkey.ata buyer m ≠ .ata (.listing m) m := by
    intro same
    injection same with same
    rw [same] at key
    cases key
  obtain ⟨-, -, f, card, card_mint, -⟩ := Chain.initAtaIfNeeded_ok (initAta_of_own books h.own)
  have escrow' := @get_ensureAta _ _ (.ata buyer m) m buyer _ escrow
  have books' := @TokenBooks.ensureAta _ _ m buyer books (by rw [minted]; rfl)
  exact ⟨M, t, f, minted, escrow, owner, one, ne, ⟨escrow', card, one.ge, mint, card_mint, owner⟩,
    credit_fits (s := { s with tokens := ensureAta s.tokens (.ata buyer m) m buyer }) books' minted
      escrow' card ne.symm mint card_mint one.ge⟩

/-! ## The purchase -/

/-- **A buyable card is sold.** -/
theorem Buyable.isOk (h : Buyable s c p m l buyer) (reachable : Reachable s)
    (config : s.config = some c) (pool : s.pool = some p) (listing : s.listings.get m = some l)
    (signed : buyer ∈ tx.signers) (ne_seller : buyer ≠ l.seller) (ne_vault : buyer ≠ c.buybackVault) :
    (step s (.program tx (.buyCard (purchaseAccounts c m l buyer)))).isOk := by
  obtain ⟨c', p', live⟩ := reachable.live
  obtain rfl := Option.some.inj (config.symm.trans live.config)
  obtain rfl := Option.some.inj (pool.symm.trans live.pool)
  have offer := reachable.listings m l listing
  obtain ⟨M, t, f, card⟩ := h.deliverable reachable listing (tx.keys _ signed)
  -- an address that signs is not a derived one
  have seller_key := offer.seller
  have escrow_ne : Pubkey.ata (.listing m) m ≠ l.seller := by
    intro same
    rw [← same] at seller_key
    cases seller_key
  have listing_ne : Pubkey.listing m ≠ l.seller := by
    intro same
    rw [← same] at seller_key
    cases seller_key
  have fees := reachable.feeOk config listing
  obtain ⟨covered₁, covered₂, covered₃⟩ := fees.covered h.funds ne_seller ne_vault
  have bounded₁ := @Bounded.move _ _ _ _ l.seller _ _ reachable.bounded covered₁
  have bounded₂ := @Bounded.move _ _ _ _ c.buybackVault _ _ bounded₁ covered₂
  have bounded₃ := @Bounded.move _ _ _ _ c.treasury _ _ bounded₂ covered₃
  have counter : p.totalLamports + tradePoolCut c l < 2 ^ 64 := by
    have balance := reachable.balance pool
    have room := h.counter
    omega
  -- the payer's account stays the system program's
  have system : ∀ lam, (booked s c p m l buyer lam).owner buyer = .system := fun lam =>
    (owner_booked pool listing (ata_ne _ _).symm).trans h.system
  have transfer := fun lam => Chain.transferChecked_eq_ok (s := booked s c p m l buyer lam)
    ⟨card.transferable.src, card.transferable.dst, card.transferable.covered,
      card.transferable.srcMint, card.transferable.dstMint, card.transferable.owner⟩ card.mint card.ne
    card.fits
  have sold : ∃ s', buyCardHandler s tx (purchaseAccounts c m l buyer) = .ok s' := by
    simp only [buyCardHandler, bind_eq_ok, Tx.signed_eq_ok, Chain.loadConfig_eq_ok,
      Chain.loadPool_eq_ok, Chain.loadListing_eq_ok, Chain.loadMint_eq_ok, Chain.loadTokenOf_eq_ok,
      require_eq_ok, exists_const, checkedAdd_eq_ok, checkedSub_eq_ok, Chain.closeAccount_eq_ok,
      Chain.closeListing_eq_ok]
    refine ⟨_, signed, c, ⟨rfl, config, live.configBump⟩, p, ⟨rfl, pool, live.poolBump⟩, l,
      ⟨rfl, listing, offer.bump⟩, offer.active, listing_ne, rfl, M, card.mint, _,
      initAta_of_own reachable.books h.own, t,
      ⟨card.transferable.src, card.transferable.srcMint, card.escrowOwner⟩, rfl, rfl, h.unpaused,
      _, fees.fee, _, fees.cut, _, ⟨fees.cut_le, rfl⟩, _, ⟨fees.fee_le, rfl⟩, _, ⟨counter, rfl⟩, _,
      ⟨h.counter, rfl⟩, _, pay_of_bounded (system _) covered₁ reachable.bounded, _,
      pay_of_bounded (system _) covered₂ bounded₁, _, pay_of_bounded (system _) covered₃ bounded₂, _,
      transfer _, _, ⟨t.debit 1, get_moveTokens_src card.ne.symm card.transferable.src, escrow_ne, ?_,
        card.escrowOwner, bounded₃.add_lt escrow_ne.symm, rfl⟩,
      bounded₃.sweep.add_lt listing_ne.symm, rfl⟩
    show t.amount - 1 = 0
    rw [card.unit]
  obtain ⟨s', sold⟩ := sold
  show (buyCardHandler s tx (purchaseAccounts c m l buyer)).isOk
  rw [sold]
  rfl

/-- Who pays something pays it out of a system account. -/
theorem buyCardHandler_system (h : buyCardHandler s tx (purchaseAccounts c m l buyer) = .ok s')
    (pool : s.pool = some p) (listing : s.listings.get m = some l) (price : 0 < l.price) :
    s.owner buyer = .system := by
  simp only [buyCardHandler, bind_eq_ok, Chain.loadPool_eq_ok, Chain.loadListing_eq_ok, require_eq_ok,
    exists_const, checkedAdd_eq_ok, checkedSub_eq_ok] at h
  obtain ⟨-, -, c', -, q, ⟨-, hq, -⟩, l', ⟨-, hl, -⟩, -, -, -, M, -, h⟩ := h
  obtain ⟨s₁, opened, t, -, -, -, -, fee, fee_eq, cut, cut_eq, _, ⟨-, rfl⟩, _, ⟨-, rfl⟩, h⟩ := h
  obtain ⟨_, ⟨-, rfl⟩, _, ⟨-, rfl⟩, s₂, paid₁, s₃, paid₂, s₄, paid₃, -⟩ := h
  obtain rfl := bpsOf_ok fee_eq
  obtain rfl := bpsOf_ok cut_eq
  obtain rfl := Option.some.inj (pool.symm.trans hq)
  obtain rfl := Option.some.inj (listing.symm.trans hl)
  obtain ⟨-, rfl, -⟩ := Chain.initAtaIfNeeded_ok opened
  obtain ⟨system₁, -, rfl⟩ := Chain.pay_ok paid₁
  obtain ⟨system₂, -, rfl⟩ := Chain.pay_ok paid₂
  obtain ⟨system₃, -, rfl⟩ := Chain.pay_ok paid₃
  have booked_ : ∀ lam, (booked s c' p m l buyer lam).owner buyer = s.owner buyer := fun lam =>
    owner_booked pool listing (ata_ne _ _).symm
  -- one of the three parts of the price is positive
  by_cases net : 0 < l.price - tradeFee c' l
  · exact (booked_ _).symm.trans (system₁ net)
  · by_cases cut : 0 < tradePoolCut c' l
    · exact (booked_ _).symm.trans (system₂ cut)
    · refine (booked_ _).symm.trans (system₃ ?_)
      show 0 < tradeFee c' l - tradePoolCut c' l
      omega

end Buy

/-- **When a listed card can be bought**, account rent left out. For a signer other than the seller and the
vault, the purchase succeeds exactly if the card is buyable. -/
theorem buy_isOk_iff (s : Chain) (h : Reachable s) (c : Config) (p : BuybackPool) (m buyer : Pubkey)
    (l : Listing) (tx : Tx) (hc : s.config = some c) (hp : s.pool = some p)
    (hl : s.listings.get m = some l) (hs : buyer ∈ tx.signers) (seller : buyer ≠ l.seller)
    (vault : buyer ≠ c.buybackVault) :
    (step s (.program tx (.buyCard (purchaseAccounts c m l buyer)))).isOk ↔
      Buyable s c p m l buyer := by
  constructor
  · intro succeeded
    have sold := step_exec succeeded
    obtain ⟨c', p', l', f, t, ok⟩ := buyCardHandler_ok sold
    obtain rfl := Option.some.inj (hc.symm.trans ok.config)
    obtain rfl := Option.some.inj (hp.symm.trans ok.pool)
    obtain rfl := Option.some.inj (hl.symm.trans ok.listing)
    refine ⟨ok.unpaused, ?_, ?_, ?_, ?_, ok.fits⟩
    · have escrow : s.tokens.get (.ata (.listing m) m) = some t := ok.escrow
      rw [escrow]
      exact congrArg some ok.unit
    · intro u there
      have card := ok.card
      have kept : (BuyCard.opened s (purchaseAccounts c m l buyer)).get (.ata buyer m) = some u :=
        get_ensureAta there
      obtain rfl := Option.some.inj (kept.symm.trans card)
      exact ok.cardOwner
    · exact buyCardHandler_system sold hp hl (h.listings m l hl).price
    · have parts := trade_split ok.poolCut_le ok.fee_le
      have rest := ok.coveredBurn
      have cut := ok.coveredPool
      have net := ok.coveredNet
      simp only [purchaseAccounts] at rest cut net
      rw [funds_left vault, funds_left seller] at rest
      rw [funds_left seller] at cut
      omega
  · intro buyable
    exact buyable.isOk h hc hp hl hs seller vault

/-- User 7 holds a thousand SOL, so that it can buy the unit that user 6 has listed. -/
theorem buy_isOk_listUnit : ∃ c p l, (run step .standard listUnit).listings.get (.key 8) = some l ∧
    Buyable (run step .standard listUnit) c p (.key 8) l (.key 7) := by
  have reachable := Chain.initialized_standard.reachable.run listUnit
  obtain ⟨c, p, live⟩ := reachable.live
  have keys : (run step .standard listUnit).config.map (fun c => (c.buybackVault, c.treasury)) =
      some (.key 4, .key 3) := by decide +kernel
  have listed : ((run step .standard listUnit).listings.get (.key 8)).map Listing.seller =
      some (.key 6) := by decide +kernel
  obtain ⟨l, listing, seller⟩ := Option.map_eq_some_iff.1 listed
  rw [live.config, Option.map_some, Option.some.injEq, Prod.mk.injEq] at keys
  have accounts : purchaseAccounts c (.key 8) l (.key 7) = buyAccounts 8 7 6 (.key 3) := by
    simp only [purchaseAccounts, buyAccounts, keys.1, keys.2, seller]
  refine ⟨c, p, l, listing, (buy_isOk_iff _ reachable c p (.key 8) (.key 7) l (.by [7] 0) live.config
    live.pool listing (List.mem_singleton.mpr rfl) ?_ ?_).mp ?_⟩
  · rw [seller]
    decide
  · rw [keys.1]
    decide
  · rw [accounts]
    decide +kernel

end Pokeage
