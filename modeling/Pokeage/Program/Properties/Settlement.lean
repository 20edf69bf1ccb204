import Pokeage.Program.Opening
import Pokeage.Program.Properties.Escrow
import Mathlib.Algebra.BigOperators.Fin

/-!
# Settlement of a trade

A purchase splits the price twice, both times with the remainder on one side. `SplitsPrice` says that
no step of this arithmetic fails and where the remainders land, `ExactTrade` what the trade then does
to the four parties, the pool's counters and the card.

What an account held that the trade closes goes to the seller on top. That is the rent, unless the
vault or the treasury is that account.
-/

namespace Pokeage

open Infra Infra.Balance Infra.Machine

/-! ## The arithmetic -/

/-- What a price is divided into. -/
structure TradeSplit where
  fee : ℕ
  poolCut : ℕ
  burnCut : ℕ
  sellerNet : ℕ

/-- Every `bps_of` and `checked_sub` of a trade succeeds, and nothing of the price is lost. -/
structure SplitsPrice (price rate : ℕ) (x : TradeSplit) : Prop where
  fee : bpsOf price rate = .ok x.fee
  poolCut : bpsOf x.fee poolShareBps = .ok x.poolCut
  burnCut : checkedSub x.fee x.poolCut = .ok x.burnCut
  sellerNet : checkedSub price x.fee = .ok x.sellerNet
  fee_le : x.fee ≤ price / 5
  poolCut_le : x.poolCut ≤ x.fee
  total : x.sellerNet + x.poolCut + x.burnCut = price

/-- Some `initialize` accepts the market fee. -/
def AcceptedFee (rate : UInt16) : Prop :=
  ∃ s tx a burnBps poolBps listingFee s',
    step s (.program tx (.initializeProgram a burnBps poolBps rate listingFee)) = .ok s'

theorem AcceptedFee.le {rate : UInt16} (h : AcceptedFee rate) : rate.toNat ≤ 2000 := by
  obtain ⟨s, tx, a, b, p, l, s', hstep⟩ := h
  exact (initializeHandler_ok hstep).fee_le

/-- A share that comes out is a `u64`. -/
theorem bpsOf_lt {amount rate v : ℕ} (h : bpsOf amount rate = .ok v) : v < 2 ^ 64 := by
  simp only [bpsOf, bind_eq_ok, require_eq_ok, exists_const, pure_eq_ok] at h
  obtain ⟨-, hlt, rfl⟩ := h
  exact hlt

/-- A fifth is the most that an accepted rate takes. -/
theorem bps_le_fifth {rate : ℕ} (h : rate ≤ 2000) (price : ℕ) : bps price rate ≤ price / 5 := by
  unfold bps bpsDenom
  calc price * rate / 10000 ≤ price * 2000 / 10000 :=
        Nat.div_le_div_right (Nat.mul_le_mul_left price h)
    _ = price / 5 := by omega

theorem splitsPrice {price rate fee : ℕ} (h : bpsOf price rate = .ok fee) (hr : rate ≤ 2000) :
    SplitsPrice price rate
      { fee := bps price rate
        poolCut := bps (bps price rate) poolShareBps
        burnCut := bps price rate - bps (bps price rate) poolShareBps
        sellerNet := price - bps price rate } := by
  obtain rfl := bpsOf_ok h
  have hfifth := bps_le_fifth hr price
  have hfee : bps price rate ≤ price := bps_le (by omega) price
  have hcut : bps (bps price rate) poolShareBps ≤ bps price rate := bps_le (by decide) _
  refine ⟨h, bpsOf_of_le (bpsOf_lt h) (by decide), ?_, ?_, hfifth, hcut, ?_⟩
  · exact checkedSub_eq_ok.2 ⟨hcut, rfl⟩
  · exact checkedSub_eq_ok.2 ⟨hfee, rfl⟩
  · show price - bps price rate + bps (bps price rate) poolShareBps
      + (bps price rate - bps (bps price rate) poolShareBps) = price
    omega

/-! ## The trade -/

/-- What the accounts hold that a purchase closes. -/
def refund (s : Chain) (a : BuyCard) : ℕ := ∑ k ∈ {a.escrowCard, .listing a.cardMint}, s.lamports k

/-- What a token account holds, nothing if there is none. -/
def amountAt (T : Tokens) (k : Pubkey) : ℕ := ((T.get k).map (·.amount)).getD 0

/-- The four parties, the pool's counters and the card after a trade at `price`. -/
structure ExactTrade (s s' : Chain) (a : BuyCard) (price : ℕ) (x : TradeSplit) : Prop where
  buyer : s'.lamports a.buyer + price = s.lamports a.buyer
  seller : s'.lamports a.seller = s.lamports a.seller + x.sellerNet + refund s a
  vault : s'.lamports a.buybackVault = s.lamports a.buybackVault + x.poolCut
  treasury : s'.lamports a.treasury = s.lamports a.treasury + x.burnCut
  pool : ∃ p, s.pool = some p ∧ s'.pool = some { p with
    totalLamports := p.totalLamports + x.poolCut
    lifetimeIn := p.lifetimeIn + x.poolCut }
  escrowed : ∃ t, s.tokens.get a.escrowCard = some t ∧ t.mint = a.cardMint ∧
    t.owner = .listing a.cardMint ∧ t.amount = 1
  released : s'.tokens.get a.escrowCard = none
  received : ∃ f, s'.tokens.get (.ata a.buyer a.cardMint) = some f ∧ f.mint = a.cardMint ∧
    f.owner = a.buyer ∧ f.amount = amountAt s.tokens (.ata a.buyer a.cardMint) + 1
  others : ∀ k, k ≠ a.escrowCard → k ≠ .ata a.buyer a.cardMint → s'.tokens.get k = s.tokens.get k

/-- Neither the vault nor the treasury is an account that the purchase closes. -/
def SparesCuts (a : BuyCard) : Prop :=
  a.escrowCard ∉ [a.buybackVault, a.treasury] ∧ .listing a.cardMint ∉ [a.buybackVault, a.treasury]

instance (a : BuyCard) : Decidable (SparesCuts a) := inferInstanceAs (Decidable (_ ∧ _))

section Lamports

variable {l : Pubkey → ℕ} {escrow listing dst k : Pubkey}

theorem closedLamports_of_ne (he : k ≠ escrow) (hl : k ≠ listing) (hd : k ≠ dst) :
    closedLamports l escrow listing dst k = l k := by
  unfold closedLamports sweep
  rw [move_of_ne hl hd, move_of_ne he hd]

/-- Closing two accounts hands over what they hold, which may be one account. -/
theorem closedLamports_dst (he : escrow ≠ dst) (hl : listing ≠ dst) :
    closedLamports l escrow listing dst dst = l dst + ∑ k ∈ {escrow, listing}, l k := by
  unfold closedLamports sweep
  rw [move_dst hl, move_dst he]
  by_cases hel : escrow = listing
  · subst hel
    have hnet := @move_net _ _ l escrow dst (l escrow) le_rfl escrow
    rw [if_pos rfl, if_neg he] at hnet
    rw [Finset.pair_eq_singleton, Finset.sum_singleton]
    omega
  · rw [Finset.sum_pair hel, move_of_ne (Ne.symm hel) hl, Nat.add_assoc]

end Lamports

section Trade

variable {s s' : Chain} {tx : Tx} {a : BuyCard} {c : Config} {p : BuybackPool} {l : Listing}
  {f t : TokenAccount}

/-- Three payments out of one account to three others. -/
theorem BuyCard.Ok.paid (ok : BuyCard.Ok s tx a c p l f t s')
    (hd : [a.buyer, a.seller, a.buybackVault, a.treasury].Nodup) :
    paidLamports s a c l a.buyer + l.price = s.lamports a.buyer ∧
      paidLamports s a c l a.seller = s.lamports a.seller + (l.price - tradeFee c l) ∧
      paidLamports s a c l a.buybackVault = s.lamports a.buybackVault + tradePoolCut c l ∧
      paidLamports s a c l a.treasury = s.lamports a.treasury + tradeBurnCut c l := by
  simp only [List.nodup_cons, List.mem_cons, List.not_mem_nil, or_false, not_or] at hd
  obtain ⟨⟨hbs, hbv, hbt⟩, ⟨hsv, hst⟩, hvt, -⟩ := hd
  have h₁ := @move_net _ _ _ _ a.seller _ ok.coveredNet a.buyer
  have h₂ := @move_net _ _ _ _ a.buybackVault _ ok.coveredPool a.buyer
  have h₃ := @move_net _ _ _ _ a.treasury _ ok.coveredBurn a.buyer
  rw [if_pos rfl, if_neg hbs] at h₁
  rw [if_pos rfl, if_neg hbv] at h₂
  rw [if_pos rfl, if_neg hbt] at h₃
  have htotal := trade_split ok.poolCut_le ok.fee_le
  unfold paidLamports
  refine ⟨by omega, ?_, ?_, ?_⟩
  · rw [move_of_ne (Ne.symm hbs) hst, move_of_ne (Ne.symm hbs) hsv, move_dst hbs]
  · rw [move_of_ne (Ne.symm hbv) hvt, move_dst hbv, move_of_ne (Ne.symm hbv) (Ne.symm hsv)]
  · rw [move_dst hbt, move_of_ne (Ne.symm hbt) (Ne.symm hvt),
      move_of_ne (Ne.symm hbt) (Ne.symm hst)]

/-- Nobody else is paid. -/
theorem paidLamports_of_ne {k : Pubkey} (hb : k ≠ a.buyer) (hs : k ≠ a.seller)
    (hv : k ≠ a.buybackVault) (ht : k ≠ a.treasury) : paidLamports s a c l k = s.lamports k := by
  unfold paidLamports
  rw [move_of_ne hb ht, move_of_ne hb hv, move_of_ne hb hs]

/-- The buyer's account after the unit has arrived. -/
theorem BuyCard.Ok.received (ok : BuyCard.Ok s tx a c p l f t s') :
    ∃ f', s'.tokens.get (.ata a.buyer a.cardMint) = some f' ∧ f'.mint = a.cardMint ∧
      f'.owner = a.buyer ∧ f'.amount = amountAt s.tokens (.ata a.buyer a.cardMint) + 1 := by
  have hne := ok.escrow_ne
  have hcard := ok.card
  rw [ok.card_eq] at hne hcard
  refine ⟨f.credit 1, ?_, ok.cardMint, ok.cardOwner, ?_⟩
  · rw [ok.after]
    dsimp only
    rw [Store.get_erase_ne _ hne.symm, ok.card_eq]
    exact get_moveTokens_dst hne hcard
  · rw [TokenAccount.credit_amount]
    unfold amountAt
    rcases get_ensureAta_cases hcard with hold | ⟨-, hnew, rfl⟩
    · rw [hold]
      rfl
    · rw [hnew]
      rfl

/-- A trade whose cuts do not go to an account it closes is exact. -/
theorem exactTrade_of_ok (ok : BuyCard.Ok s tx a c p l f t s')
    (hd : [a.buyer, a.seller, a.buybackVault, a.treasury].Nodup) (hcuts : SparesCuts a)
    (hbuyer : a.escrowCard ≠ a.buyer) (hesc : a.escrowCard ≠ a.seller)
    (hlist : .listing a.cardMint ≠ a.seller) :
    ExactTrade s s' a l.price
      { fee := tradeFee c l
        poolCut := tradePoolCut c l
        burnCut := tradeBurnCut c l
        sellerNet := l.price - tradeFee c l } := by
  obtain ⟨pbuyer, pseller, pvault, ptreasury⟩ := ok.paid hd
  obtain ⟨hevt, hlvt⟩ := hcuts
  simp only [List.mem_cons, List.not_mem_nil, or_false, not_or] at hevt hlvt
  simp only [List.nodup_cons, List.mem_cons, List.not_mem_nil, or_false, not_or] at hd
  obtain ⟨⟨hbs, hbv, hbt⟩, ⟨hsv, hst⟩, hvt, -⟩ := hd
  have hkey : Pubkey.listing a.cardMint ≠ a.buyer := by
    intro he
    have hkey := tx.keys _ ok.signed
    rw [← he] at hkey
    cases hkey
  have hlam : s'.lamports =
      closedLamports (paidLamports s a c l) a.escrowCard (.listing a.cardMint) a.seller := by
    rw [ok.after]
  refine ⟨?_, ?_, ?_, ?_, ⟨p, ok.pool, by rw [ok.after]⟩,
    ⟨t, ok.escrow, ok.escrowMint, ok.escrowOwner, ok.unit⟩, ?_, ok.received, ?_⟩
  · rw [hlam, closedLamports_of_ne hbuyer.symm hkey.symm hbs]
    exact pbuyer
  · -- the two closed accounts had no part in the payments
    have hrest : ∑ k ∈ {a.escrowCard, .listing a.cardMint}, paidLamports s a c l k = refund s a := by
      refine Finset.sum_congr rfl fun k hk => ?_
      rcases Finset.mem_insert.1 hk with rfl | hk
      · exact paidLamports_of_ne hbuyer hesc hevt.1 hevt.2
      · obtain rfl := Finset.mem_singleton.1 hk
        exact paidLamports_of_ne hkey hlist hlvt.1 hlvt.2
    rw [hlam, closedLamports_dst hesc hlist, pseller, hrest]
  · rw [hlam, closedLamports_of_ne (Ne.symm hevt.1) (Ne.symm hlvt.1) (Ne.symm hsv)]
    exact pvault
  · rw [hlam, closedLamports_of_ne (Ne.symm hevt.2) (Ne.symm hlvt.2) (Ne.symm hst)]
    exact ptreasury
  · rw [ok.after]
    exact (Store.get_erase _ _ _).trans (if_pos rfl)
  · intro k hk hata
    rw [ok.after]
    dsimp only
    rw [Store.get_erase_ne _ hk, get_moveTokens_ne hk (ok.card_eq ▸ hata)]
    exact get_ensureAta_ne hata

end Trade

/-- The accepted market fee stays in the config. -/
theorem Reachable.marketFee_le {s : Chain} (h : Reachable s) {c : Config} (hc : s.config = some c) :
    c.marketFeeBps ≤ 2000 := by
  refine Reachable.induction (P := fun s => ∃ c, s.config = some c ∧ c.marketFeeBps ≤ 2000)
    ?_ ?_ h |>.elim fun c' hc' => ?_
  · rintro s ⟨a, b, p, m, l, hi⟩
    obtain ⟨c, q, hl, -, -, hm, -⟩ := hi.live
    obtain ⟨g, tx, -, hstep⟩ := hi.genesis
    exact ⟨c, hl.config, hm ▸ (initializeHandler_ok hstep).fee_le⟩
  · rintro s act s' ⟨c, hc, hle⟩ hstep
    obtain ⟨c', hc', hr⟩ := step_config hstep hc
    exact ⟨c', hc', (Config.of_rates Config.marketFeeBps (fun _ => rfl) hr).trans_le hle⟩
  · obtain rfl := Option.some.inj (hc.symm.trans hc'.1)
    exact hc'.2

/-- **Trades settle exactly.** No step of the arithmetic fails, whatever the price and the accepted
rate, and a purchase between four distinct parties moves just the amounts it computes, unless its
cuts go to an account it closes. -/
theorem trade_settles :
    (∀ (price : UInt64) (rate : UInt16), 0 < price → AcceptedFee rate →
      ∃ x, SplitsPrice price.toNat rate.toNat x) ∧
    ∀ s tx a s', Reachable s → step s (.program tx (.buyCard a)) = .ok s' →
      [a.buyer, a.seller, a.buybackVault, a.treasury].Nodup → SparesCuts a →
      ∃ c l x, s.config = some c ∧ s.listings.get a.cardMint = some l ∧
        SplitsPrice l.price c.marketFeeBps x ∧ ExactTrade s s' a l.price x := by
  refine ⟨fun price rate _ hrate => ?_, ?_⟩
  · have hle := hrate.le
    exact ⟨_, splitsPrice (bpsOf_of_le price.toNat_lt (by omega)) hle⟩
  intro s tx a s' hs hstep hd hcuts
  obtain ⟨c, p, l, f, t, ok, parties⟩ := buyCardHandler_cases hstep
  have hlisting := hs.listings _ _ ok.listing
  have hbuyer : a.escrowCard ≠ a.buyer := by
    intro he
    have hescrow := ok.escrow
    rw [he, parties.payer hlisting.price] at hescrow
    cases hescrow
  exact ⟨c, l, _, ok.config, ok.listing, splitsPrice parties.fee (hs.marketFee_le ok.config),
    exactTrade_of_ok ok hd hcuts hbuyer parties.escrow_ne parties.listing_ne⟩

/-! ## A trade on the standard chain -/

/-- User 6 lists the one unit of mint 8 at a price with remainders. -/
def listOdd : List Action := openCard 8 12 6 1 ++ [listOnStandard 8 12 6 1000019]

/-- User 7 buys it: of the fee of 50000 the pool gets 30000 and the treasury the rest. -/
theorem trade_settles_listOdd :
    (∃ x, SplitsPrice (1000019 : UInt64).toNat (500 : UInt16).toNat x) ∧
      ∃ s' c l x, (run step .standard listOdd).config = some c ∧
        (run step .standard listOdd).listings.get (.key 8) = some l ∧
        SplitsPrice l.price c.marketFeeBps x ∧
        ExactTrade (run step .standard listOdd) s' (buyAccounts 8 7 6 (.key 3)) l.price x := by
  obtain ⟨arithmetic, trade⟩ := trade_settles
  constructor
  · refine arithmetic 1000019 500 (by decide) ?_
    have hopened : InitializedWith
        (Chain.opened [] [] 1 (.key 2) (.key 3) (.key 4) 7000 3000 500 10000000) _ 7000 3000 500 _ :=
      Chain.initializedWith_opened (by decide) (by decide) (by decide)
    obtain ⟨g, tx, -, hstep⟩ := hopened.genesis
    exact ⟨g, tx, _, _, _, _, _, hstep⟩
  · have hok : (step (run step .standard listOdd) (buyOnStandard 8 7 6 (.key 3))).isOk := by
      decide +kernel
    exact ⟨_, trade _ _ _ _ (Chain.initialized_standard.reachable.run listOdd) (step_exec hok)
      (by decide) (by decide)⟩

/-! ## A treasury that is closed -/

/-- A chain whose treasury is the address of a listing. -/
def Chain.treasuryAtListing : Chain :=
  opened [(.key 6, 1000000000000), (.key 7, 1000000000000)] [] 1 (.key 2) (.listing (.key 8)) (.key 4)
    7000 3000 500 10000000

theorem initialized_treasuryAtListing : Initialized .treasuryAtListing :=
  ⟨_, _, _, _, _, Chain.initializedWith_opened (by decide) (by decide) (by decide)⟩

/-- The purchase pays the treasury its cut and then closes the treasury's account in favour of the
seller. -/
theorem not_exactTrade_treasuryAtListing :
    ∃ s tx a s', Reachable s ∧ step s (.program tx (.buyCard a)) = .ok s' ∧
      [a.buyer, a.seller, a.buybackVault, a.treasury].Nodup ∧
      ¬ ∃ c l x, s.config = some c ∧ s.listings.get a.cardMint = some l ∧
        SplitsPrice l.price c.marketFeeBps x ∧ ExactTrade s s' a l.price x := by
  have hok : (step (run step .treasuryAtListing listOdd)
      (buyOnStandard 8 7 6 (.listing (.key 8)))).isOk := by decide +kernel
  refine ⟨_, _, _, _, initialized_treasuryAtListing.reachable.run listOdd, step_exec hok, by decide, ?_⟩
  rintro ⟨c, l, x, hc, hl, hx, hex⟩
  have hrate : (run step .treasuryAtListing listOdd).config.map Config.marketFeeBps = some 500 := by
    decide +kernel
  have hprice : ((run step .treasuryAtListing listOdd).listings.get (.key 8)).map Listing.price
      = some 1000019 := by decide +kernel
  have hbefore : (run step .treasuryAtListing listOdd).lamports (.listing (.key 8)) = 0 := by
    decide +kernel
  have hafter : (exec step (run step .treasuryAtListing listOdd)
      (buyOnStandard 8 7 6 (.listing (.key 8)))).lamports (.listing (.key 8)) = 0 := by
    decide +kernel
  rw [hc] at hrate
  change (run step .treasuryAtListing listOdd).listings.get (.key 8) = some l at hl
  rw [hl] at hprice
  have hcut : x.burnCut = 0 := by
    have htreasury := hex.treasury
    change (exec step (run step .treasuryAtListing listOdd)
      (buyOnStandard 8 7 6 (.listing (.key 8)))).lamports (.listing (.key 8)) =
        (run step .treasuryAtListing listOdd).lamports (.listing (.key 8)) + x.burnCut at htreasury
    omega
  have hfee := hx.fee
  rw [Option.some.inj hprice, Option.some.inj hrate] at hfee
  obtain ⟨-, rest⟩ := checkedSub_eq_ok.1 hx.burnCut
  have hfee := bpsOf_ok hfee
  have hpool := bpsOf_ok hx.poolCut
  rw [hfee] at hpool rest
  rw [hpool, hcut] at rest
  exact absurd rest (by decide)

end Pokeage
