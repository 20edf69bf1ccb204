import Pokeage.Program.Shared

/-!
# Cards and the marketplace

`mint_card`, `list_card`, `cancel_listing` and `buy_card`, statement by statement. An `init` is a
record that must not be there yet; `close = seller` sends the lamports of the listing's address to
the seller at the end and drops the record.

For each handler `H` the structure `H.Ok` says everything a successful call did and `H_ok` proves it.
-/

namespace Pokeage

open Infra Infra.Balance

/-- `close = dst`, run when the instruction exits. -/
def Chain.closeListing (s : Chain) (cardMint dst : Pubkey) : Result Chain := do
  let s ← s.sweepLamports (.listing cardMint) dst
  return { s with listings := s.listings.erase cardMint }

theorem Chain.closeListing_eq_ok {s s' : Chain} {m dst : Pubkey} :
    s.closeListing m dst = .ok s' ↔
      s.lamports dst + s.lamports (.listing m) < 2 ^ 64 ∧
        s' = { s with
          lamports := sweep s.lamports (.listing m) dst
          listings := s.listings.erase m } := by
  simp only [closeListing, bind_eq_ok, sweepLamports_eq_ok, pure_eq_ok]
  constructor
  · rintro ⟨_, ⟨hfit, rfl⟩, rfl⟩; exact ⟨hfit, rfl⟩
  · rintro ⟨hfit, rfl⟩; exact ⟨_, ⟨hfit, rfl⟩, rfl⟩

/-! ## mint_card -/

/-- The accounts of `mint_card`. -/
structure MintCard where
  payer : Pubkey
  config : Pubkey
  buybackPool : Pubkey
  cardMint : Pubkey
  cardMeta : Pubkey
  buybackVault : Pubkey
  treasury : Pubkey
  deriving DecidableEq

/-- Mint a card: the fee of its tier, half to the pool and half to the treasury, and its record. -/
def mintCardHandler (s : Chain) (tx : Tx) (a : MintCard) (tier stage level : ℕ) :
    Result Chain := do
  tx.signed a.payer
  let config ← s.loadConfig a.config
  let pool ← s.loadPool a.buybackPool
  -- init card_meta
  require (a.cardMeta = .card a.cardMint) (.anchor .constraintSeeds)
  require (s.cards.get a.cardMint = none) (.runtime .accountAlreadyInUse)
  require (a.buybackVault = config.buybackVault) (.anchor .constraintAddress)
  require (a.treasury = config.treasury) (.anchor .constraintAddress)
  require (config.isPaused Config.pauseMint = false) (.pokeage .featurePaused)
  require (tier ≤ maxTier) (.pokeage .invalidTier)
  let fee ← mintFeeForTier tier
  -- half to the pool, the remainder to the treasury so the full fee is accounted
  let poolCut ← bpsOf fee 5000
  let treasuryCut ← checkedSub fee poolCut
  let card : CardMeta := {
    mint := a.cardMint
    owner := a.payer
    tier, stage, level
    mintedAt := tx.now
    bump := s.bumpOf (.card a.cardMint) }
  let totalCardsMinted ← checkedAdd config.totalCardsMinted 1
  let totalLamports ← checkedAdd pool.totalLamports poolCut
  let lifetimeIn ← checkedAdd pool.lifetimeIn poolCut
  let s : Chain := { s with
    cards := s.cards.set a.cardMint card
    config := some { config with totalCardsMinted }
    pool := some { pool with totalLamports, lifetimeIn } }
  let s ← s.pay a.payer a.buybackVault poolCut
  let s ← s.pay a.payer a.treasury treasuryCut
  return s.emit (.cardMinted a.cardMint tier fee)

/-- Everything a successful `mint_card` did: `c` and `p` were the config and the pool, `fee` the
fee of the tier. -/
structure MintCard.Ok (s : Chain) (tx : Tx) (a : MintCard) (tier stage level : ℕ) (c : Config)
    (p : BuybackPool) (fee : ℕ) (s' : Chain) : Prop where
  signed : a.payer ∈ tx.signers
  config : s.config = some c
  pool : s.pool = some p
  fresh : s.cards.get a.cardMint = none
  vault : a.buybackVault = c.buybackVault
  treasury : a.treasury = c.treasury
  unpaused : c.isPaused Config.pauseMint = false
  fee_eq : mintFeeForTier tier = .ok fee
  covered : bps fee 5000 ≤ s.lamports a.payer
  coveredRest : fee - bps fee 5000 ≤
    move s.lamports a.payer a.buybackVault (bps fee 5000) a.payer
  fits : p.lifetimeIn + bps fee 5000 < 2 ^ 64
  after : s' = { s with
    lamports := move (move s.lamports a.payer a.buybackVault (bps fee 5000)) a.payer a.treasury
      (fee - bps fee 5000)
    cards := s.cards.set a.cardMint
      { mint := a.cardMint, owner := a.payer, tier, stage, level, mintedAt := tx.now,
        bump := s.bumpOf (.card a.cardMint) }
    config := some { c with totalCardsMinted := c.totalCardsMinted + 1 }
    pool := some { p with
      totalLamports := p.totalLamports + bps fee 5000
      lifetimeIn := p.lifetimeIn + bps fee 5000 }
    events := .cardMinted a.cardMint tier fee :: s.events }

/-- What a successful `mint_card` did. -/
theorem mintCardHandler_ok {s s' : Chain} {tx : Tx} {a : MintCard} {tier stage level : ℕ}
    (h : mintCardHandler s tx a tier stage level = .ok s') :
    ∃ c p fee, MintCard.Ok s tx a tier stage level c p fee s' := by
  simp only [mintCardHandler, bind_eq_ok, Tx.signed_eq_ok, Chain.loadConfig_eq_ok,
    Chain.loadPool_eq_ok, require_eq_ok, exists_const, checkedAdd_eq_ok, checkedSub_eq_ok,
    pure_eq_ok] at h
  obtain ⟨hsig, c, ⟨-, hc, -⟩, p, ⟨-, hp, -⟩, -, hfresh, hv, ht, hpause, -, h⟩ := h
  obtain ⟨fee, hfee, cut, hcut, _, ⟨-, rfl⟩, _, ⟨-, rfl⟩, _, ⟨-, rfl⟩, _, ⟨hfit, rfl⟩, h⟩ := h
  obtain ⟨s₁, hpay, s₂, hpay', rfl⟩ := h
  obtain rfl := bpsOf_ok hcut
  obtain ⟨-, hcov, rfl⟩ := Chain.pay_ok hpay
  obtain ⟨-, hcov', rfl⟩ := Chain.pay_ok hpay'
  exact ⟨c, p, fee, hsig, hc, hp, hfresh, hv, ht, hpause, hfee, hcov, hcov', hfit, rfl⟩

/-! ## list_card -/

/-- The accounts of `list_card`. -/
structure ListCard where
  seller : Pubkey
  config : Pubkey
  buybackPool : Pubkey
  cardMint : Pubkey
  listing : Pubkey
  sellerCard : Pubkey
  escrowCard : Pubkey
  buybackVault : Pubkey
  deriving DecidableEq

/-- List a card: its unit goes into escrow and the listing fee to the pool. -/
def listCardHandler (s : Chain) (tx : Tx) (a : ListCard) (price tier level stage : ℕ) :
    Result Chain := do
  tx.signed a.seller
  let config ← s.loadConfig a.config
  let pool ← s.loadPool a.buybackPool
  let cardMint ← s.loadMint a.cardMint
  -- init listing
  require (a.listing = .listing a.cardMint) (.anchor .constraintSeeds)
  require (s.listings.get a.cardMint = none) (.runtime .accountAlreadyInUse)
  let _ ← s.loadTokenOf a.sellerCard a.cardMint a.seller
  let s ← s.initAtaIfNeeded a.escrowCard a.cardMint a.listing
  require (a.buybackVault = config.buybackVault) (.anchor .constraintAddress)
  require (config.isPaused Config.pauseMarket = false) (.pokeage .featurePaused)
  require (0 < price) (.pokeage .invalidPrice)
  let listing : Listing := {
    seller := a.seller
    cardMint := a.cardMint
    price, tier, level, stage
    createdAt := tx.now
    active := true
    bump := s.bumpOf a.listing }
  let fee := config.listingFee
  let totalLamports ← checkedAdd pool.totalLamports fee
  let lifetimeIn ← checkedAdd pool.lifetimeIn fee
  let s : Chain := { s with
    listings := s.listings.set a.cardMint listing
    pool := some { pool with totalLamports, lifetimeIn } }
  let s ← s.pay a.seller a.buybackVault fee
  -- the card moves into escrow, amount 1
  let s ← s.transferChecked a.sellerCard a.cardMint a.escrowCard a.seller 1 cardMint.decimals
  return s.emit (.cardListed a.listing price)

/-- The listing a successful `list_card` opens. -/
def ListCard.opened (s : Chain) (tx : Tx) (a : ListCard) (price tier level stage : ℕ) : Listing where
  seller := a.seller
  cardMint := a.cardMint
  price := price
  tier := tier
  level := level
  stage := stage
  createdAt := tx.now
  active := true
  bump := s.bumpOf (.listing a.cardMint)

/-- The token accounts once the escrow account is there. -/
def ListCard.escrowed (s : Chain) (a : ListCard) : Tokens :=
  ensureAta s.tokens (.ata (.listing a.cardMint) a.cardMint) a.cardMint (.listing a.cardMint)

/-- Everything a successful `list_card` did: `c` and `p` were the config and the pool, `m` the mint,
`f` and `t` the seller's and the escrow account. -/
structure ListCard.Ok (s : Chain) (tx : Tx) (a : ListCard) (price tier level stage : ℕ)
    (c : Config) (p : BuybackPool) (m : Mint) (f t : TokenAccount) (s' : Chain) : Prop where
  signed : a.seller ∈ tx.signers
  config : s.config = some c
  pool : s.pool = some p
  mint : s.mints.get a.cardMint = some m
  fresh : s.listings.get a.cardMint = none
  vault : a.buybackVault = c.buybackVault
  unpaused : c.isPaused Config.pauseMarket = false
  price_pos : 0 < price
  escrow_eq : a.escrowCard = .ata (.listing a.cardMint) a.cardMint
  card : s.tokens.get a.sellerCard = some f
  cardMint : f.mint = a.cardMint
  cardOwner : f.owner = a.seller
  cardCovered : 1 ≤ f.amount
  escrow : (ListCard.escrowed s a).get a.escrowCard = some t
  escrowMint : t.mint = a.cardMint
  escrowOwner : t.owner = .listing a.cardMint
  covered : c.listingFee ≤ s.lamports a.seller
  fits : p.lifetimeIn + c.listingFee < 2 ^ 64
  after : s' = { s with
    lamports := move s.lamports a.seller a.buybackVault c.listingFee
    listings := s.listings.set a.cardMint (ListCard.opened s tx a price tier level stage)
    tokens := moveTokens (ListCard.escrowed s a) a.sellerCard a.escrowCard 1
    pool := some { p with
      totalLamports := p.totalLamports + c.listingFee
      lifetimeIn := p.lifetimeIn + c.listingFee }
    events := .cardListed a.listing price :: s.events }

/-- What a successful `list_card` did. -/
theorem listCardHandler_ok {s s' : Chain} {tx : Tx} {a : ListCard} {price tier level stage : ℕ}
    (h : listCardHandler s tx a price tier level stage = .ok s') :
    ∃ c p m f t, ListCard.Ok s tx a price tier level stage c p m f t s' := by
  simp only [listCardHandler, bind_eq_ok, Tx.signed_eq_ok, Chain.loadConfig_eq_ok,
    Chain.loadPool_eq_ok, Chain.loadMint_eq_ok, Chain.loadTokenOf_eq_ok, require_eq_ok,
    exists_const, checkedAdd_eq_ok, pure_eq_ok] at h
  obtain ⟨hsig, c, ⟨-, hc, -⟩, p, ⟨-, hp, -⟩, m, hm, hl, hfresh, f, ⟨hf, hfm, hfo⟩, h⟩ := h
  obtain ⟨s₁, hata, hv, hpause, hprice, _, ⟨-, rfl⟩, _, ⟨hfit, rfl⟩, h⟩ := h
  obtain ⟨s₂, hpay, s₃, hxfer, rfl⟩ := h
  rw [hl] at hata
  obtain ⟨hk, rfl, t, ht, htm, hto⟩ := Chain.initAtaIfNeeded_ok hata
  obtain ⟨-, hcov, rfl⟩ := Chain.pay_ok hpay
  obtain ⟨f', t', htr, rfl⟩ := Chain.transferChecked_ok hxfer
  have hff : f' = f := by
    have hsrc := htr.src
    simp only [get_ensureAta hf, Option.some.injEq] at hsrc
    exact hsrc.symm
  subst hff
  refine ⟨c, p, m, f', t, ⟨hsig, hc, hp, hm, hfresh, hv, hpause, hprice, hk, hf, hfm, hfo,
    htr.covered, ?_, htm, hto, hcov, hfit, ?_⟩⟩
  · rw [ListCard.escrowed, ← hk]; exact ht
  · rw [ListCard.escrowed, ListCard.opened, ← hk, ← hl]; rfl

/-! ## cancel_listing -/

/-- The accounts of `cancel_listing`. -/
structure CancelListing where
  seller : Pubkey
  listing : Pubkey
  cardMint : Pubkey
  sellerCard : Pubkey
  escrowCard : Pubkey
  deriving DecidableEq

/-- Cancel a listing: the unit goes back, and escrow account and listing are closed. -/
def cancelListingHandler (s : Chain) (tx : Tx) (a : CancelListing) : Result Chain := do
  tx.signed a.seller
  let listing ← s.loadListing a.listing a.cardMint
  require (listing.seller = a.seller) (.pokeage .notListingOwner)
  require (listing.active = true) (.pokeage .listingInactive)
  require (a.listing ≠ a.seller) (.anchor .constraintClose)
  let cardMint ← s.loadMint a.cardMint
  let _ ← s.loadTokenOf a.sellerCard a.cardMint a.seller
  let _ ← s.loadTokenOf a.escrowCard a.cardMint a.listing
  let s : Chain := { s with
    listings := s.listings.set a.cardMint { listing with active := false } }
  -- the card goes back, signed by the listing's seeds
  let s ← s.transferChecked a.escrowCard a.cardMint a.sellerCard a.listing 1 cardMint.decimals
  let s ← s.closeAccount a.escrowCard a.seller a.listing
  let s := s.emit (.listingCancelled a.listing)
  s.closeListing a.cardMint a.seller

/-- The lamports after a listing and its escrow account were closed in favour of `dst`. -/
def closedLamports (l : Pubkey → ℕ) (escrow listing dst : Pubkey) : Pubkey → ℕ :=
  sweep (sweep l escrow dst) listing dst

/-- What `cancel_listing` and `buy_card` find: an active listing `l` of the card, and the escrow
account `t` that holds exactly the unit the instruction moves out of it. -/
structure EscrowOk (s : Chain) (cardMint escrowCard : Pubkey) (l : Listing) (t : TokenAccount) :
    Prop where
  listing : s.listings.get cardMint = some l
  active : l.active = true
  escrow : s.tokens.get escrowCard = some t
  escrowMint : t.mint = cardMint
  escrowOwner : t.owner = .listing cardMint
  unit : t.amount = 1

/-- Everything a successful `cancel_listing` did: `l` was the listing, `f` and `t` the seller's and the
escrow account. -/
structure CancelListing.Ok (s : Chain) (tx : Tx) (a : CancelListing) (l : Listing)
    (f t : TokenAccount) (s' : Chain) : Prop extends EscrowOk s a.cardMint a.escrowCard l t where
  signed : a.seller ∈ tx.signers
  listing_eq : a.listing = .listing a.cardMint
  seller : l.seller = a.seller
  card : s.tokens.get a.sellerCard = some f
  cardMint : f.mint = a.cardMint
  cardOwner : f.owner = a.seller
  after : s' = { s with
    lamports := closedLamports s.lamports a.escrowCard (.listing a.cardMint) a.seller
    listings := s.listings.erase a.cardMint
    tokens := (moveTokens s.tokens a.escrowCard a.sellerCard 1).erase a.escrowCard
    events := .listingCancelled a.listing :: s.events }

/-- A record that was set and then dropped leaves no trace. -/
theorem erase_set {α : Type} (m : Store Pubkey α) (k : Pubkey) (v : α) :
    (m.set k v).erase k = m.erase k := by
  ext1 j
  rw [Store.get_erase, Store.get_erase, Store.get_set]
  split <;> rfl

/-- An escrow that ends empty held one unit. Its authority is the listing's address, which signs
nothing, so that the receiving account is another one. -/
theorem escrow_emptied {tx : Tx} {T : Store Pubkey TokenAccount} {src dst cardMint : Pubkey}
    {f t t₂ : TokenAccount} (hsig : f.owner ∈ tx.signers) (hf : T.get dst = some f)
    (ht : T.get src = some t) (hto : t.owner = .listing cardMint) (hcov : 1 ≤ t.amount)
    (hafter : (moveTokens T src dst 1).get src = some t₂) (hempty : t₂.amount = 0) :
    src ≠ dst ∧ t.amount = 1 := by
  have hne : src ≠ dst := by
    intro he
    rw [he, hf] at ht
    cases ht
    have hkey := tx.keys _ hsig
    rw [hto] at hkey
    simp at hkey
  refine ⟨hne, ?_⟩
  rw [get_moveTokens_src hne ht, Option.some.injEq] at hafter
  rw [← hafter, TokenAccount.debit_amount] at hempty
  omega

/-- What a successful `cancel_listing` did. -/
theorem cancelListingHandler_ok {s s' : Chain} {tx : Tx} {a : CancelListing}
    (h : cancelListingHandler s tx a = .ok s') : ∃ l f t, CancelListing.Ok s tx a l f t s' := by
  simp only [cancelListingHandler, bind_eq_ok, Tx.signed_eq_ok, Chain.loadListing_eq_ok,
    Chain.loadMint_eq_ok, Chain.loadTokenOf_eq_ok, require_eq_ok, exists_const,
    Chain.closeAccount_eq_ok, Chain.closeListing_eq_ok] at h
  obtain ⟨hsig, l, ⟨hk, hl, -⟩, hs, ha, -, m, -, f, ⟨hf, hfm, hfo⟩, t, ⟨ht, htm, hto⟩, s₁, hxfer,
    s₂, ⟨t₂, ht₂, -, h0, -, -, rfl⟩, -, rfl⟩ := h
  obtain ⟨t', f', htr, rfl⟩ := Chain.transferChecked_ok hxfer
  rw [hk] at hto
  obtain rfl : t = t' := Option.some.inj (ht.symm.trans htr.src)
  have hunit := (escrow_emptied (hfo ▸ hsig) hf ht hto htr.covered ht₂ h0).2
  refine ⟨l, f, t, ⟨⟨hl, ha, ht, htm, hto, hunit⟩, hsig, hk, hs, hf, hfm, hfo, ?_⟩⟩
  simp only [Chain.emit, closedLamports, erase_set]

/-- A cancellation succeeds once its accounts are in place, the unit fits at its destination and the
lamports of the closed accounts fit at the seller. -/
theorem cancelListingHandler_succeeds {s : Chain} {tx : Tx} {a : CancelListing} {l : Listing}
    {m : Mint} {f t : TokenAccount} (ok : EscrowOk s a.cardMint a.escrowCard l t)
    (hs : a.seller ∈ tx.signers) (hk : a.listing = .listing a.cardMint)
    (hb : l.bump = s.bumpOf (.listing a.cardMint)) (hseller : l.seller = a.seller)
    (hm : s.mints.get a.cardMint = some m) (hf : s.tokens.get a.sellerCard = some f)
    (hfm : f.mint = a.cardMint) (hfo : f.owner = a.seller) (hne : a.escrowCard ≠ a.sellerCard)
    (hesc : a.escrowCard ≠ a.seller) (hlist : a.listing ≠ a.seller)
    (hfit : f.amount + 1 < 2 ^ 64)
    (hfit₁ : s.lamports a.seller + s.lamports a.escrowCard < 2 ^ 64)
    (hfit₂ : sweep s.lamports a.escrowCard a.seller a.seller +
      sweep s.lamports a.escrowCard a.seller (.listing a.cardMint) < 2 ^ 64) :
    ∃ s', cancelListingHandler s tx a = .ok s' := by
  have hmove : Chain.transferChecked
      { s with listings := s.listings.set a.cardMint { l with active := false } }
      a.escrowCard a.cardMint a.sellerCard a.listing 1 m.decimals = .ok _ :=
    Chain.transferChecked_eq_ok
      ⟨ok.escrow, hf, ok.unit.ge, ok.escrowMint, hfm, ok.escrowOwner.trans hk.symm⟩ hm hne.symm hfit
  simp only [cancelListingHandler, bind_eq_ok, Tx.signed_eq_ok, Chain.loadListing_eq_ok,
    Chain.loadMint_eq_ok, Chain.loadTokenOf_eq_ok, require_eq_ok, exists_const,
    Chain.closeAccount_eq_ok, Chain.closeListing_eq_ok]
  refine ⟨_, hs, l, ⟨hk, ok.listing, hb⟩, hseller, ok.active, hlist, m, hm, f, ⟨hf, hfm, hfo⟩, t,
    ⟨ok.escrow, ok.escrowMint, ok.escrowOwner.trans hk.symm⟩, _, hmove, _,
    ⟨t.debit 1, get_moveTokens_src hne ok.escrow, hesc, ?_, ok.escrowOwner.trans hk.symm, hfit₁, rfl⟩,
    hfit₂, rfl⟩
  show t.amount - 1 = 0
  rw [ok.unit]

/-! ## buy_card -/

/-- The accounts of `buy_card`. -/
structure BuyCard where
  buyer : Pubkey
  config : Pubkey
  buybackPool : Pubkey
  listing : Pubkey
  seller : Pubkey
  cardMint : Pubkey
  buyerCard : Pubkey
  escrowCard : Pubkey
  buybackVault : Pubkey
  treasury : Pubkey
  deriving DecidableEq

/-- Buy a listed card: the price is split between seller, vault and treasury, the unit leaves escrow,
and escrow account and listing are closed. -/
def buyCardHandler (s : Chain) (tx : Tx) (a : BuyCard) : Result Chain := do
  tx.signed a.buyer
  let config ← s.loadConfig a.config
  let pool ← s.loadPool a.buybackPool
  let listing ← s.loadListing a.listing a.cardMint
  require (listing.active = true) (.pokeage .listingInactive)
  require (a.listing ≠ a.seller) (.anchor .constraintClose)
  require (a.seller = listing.seller) (.anchor .constraintAddress)
  let cardMint ← s.loadMint a.cardMint
  let s ← s.initAtaIfNeeded a.buyerCard a.cardMint a.buyer
  let _ ← s.loadTokenOf a.escrowCard a.cardMint a.listing
  require (a.buybackVault = config.buybackVault) (.anchor .constraintAddress)
  require (a.treasury = config.treasury) (.anchor .constraintAddress)
  require (config.isPaused Config.pauseMarket = false) (.pokeage .featurePaused)
  let price := listing.price
  let fee ← bpsOf price config.marketFeeBps
  let poolCut ← bpsOf fee poolShareBps
  -- the burn share is the remainder, parked in the treasury
  let burnCut ← checkedSub fee poolCut
  let sellerNet ← checkedSub price fee
  let totalLamports ← checkedAdd pool.totalLamports poolCut
  let lifetimeIn ← checkedAdd pool.lifetimeIn poolCut
  let s : Chain := { s with
    pool := some { pool with totalLamports, lifetimeIn }
    listings := s.listings.set a.cardMint { listing with active := false } }
  let s ← s.pay a.buyer a.seller sellerNet
  let s ← s.pay a.buyer a.buybackVault poolCut
  let s ← s.pay a.buyer a.treasury burnCut
  -- the card leaves escrow, signed by the listing's seeds
  let s ← s.transferChecked a.escrowCard a.cardMint a.buyerCard a.listing 1 cardMint.decimals
  let s ← s.closeAccount a.escrowCard a.seller a.listing
  let s := s.emit (.cardSold a.listing a.buyer price fee)
  s.closeListing a.cardMint a.seller

/-- The fee of a trade. -/
def tradeFee (c : Config) (l : Listing) : ℕ := bps l.price c.marketFeeBps
/-- The part of the fee that the vault gets. -/
def tradePoolCut (c : Config) (l : Listing) : ℕ := bps (tradeFee c l) poolShareBps
/-- The rest of the fee, which the treasury gets. -/
def tradeBurnCut (c : Config) (l : Listing) : ℕ := tradeFee c l - tradePoolCut c l

/-- The lamports after the buyer has paid the seller, the vault and the treasury. -/
def paidLamports (s : Chain) (a : BuyCard) (c : Config) (l : Listing) : Pubkey → ℕ :=
  move (move (move s.lamports a.buyer a.seller (l.price - tradeFee c l))
    a.buyer a.buybackVault (tradePoolCut c l)) a.buyer a.treasury (tradeBurnCut c l)

/-- The token accounts once the buyer's account is there. -/
def BuyCard.opened (s : Chain) (a : BuyCard) : Tokens :=
  ensureAta s.tokens (.ata a.buyer a.cardMint) a.cardMint a.buyer

/-- Everything a successful `buy_card` did: `c` and `p` were the config and the pool, `l` the listing, `f`
and `t` the buyer's and the escrow account. -/
structure BuyCard.Ok (s : Chain) (tx : Tx) (a : BuyCard) (c : Config) (p : BuybackPool)
    (l : Listing) (f t : TokenAccount) (s' : Chain) : Prop
    extends EscrowOk s a.cardMint a.escrowCard l t where
  signed : a.buyer ∈ tx.signers
  listing_eq : a.listing = .listing a.cardMint
  config : s.config = some c
  pool : s.pool = some p
  seller : a.seller = l.seller
  vault : a.buybackVault = c.buybackVault
  treasury : a.treasury = c.treasury
  unpaused : c.isPaused Config.pauseMarket = false
  card_eq : a.buyerCard = .ata a.buyer a.cardMint
  card : (BuyCard.opened s a).get a.buyerCard = some f
  cardMint : f.mint = a.cardMint
  cardOwner : f.owner = a.buyer
  poolCut_le : tradePoolCut c l ≤ tradeFee c l
  fee_le : tradeFee c l ≤ l.price
  coveredNet : l.price - tradeFee c l ≤ s.lamports a.buyer
  coveredPool : tradePoolCut c l ≤
    move s.lamports a.buyer a.seller (l.price - tradeFee c l) a.buyer
  coveredBurn : tradeBurnCut c l ≤
    move (move s.lamports a.buyer a.seller (l.price - tradeFee c l)) a.buyer a.buybackVault
      (tradePoolCut c l) a.buyer
  fits : p.lifetimeIn + tradePoolCut c l < 2 ^ 64
  after : s' = { s with
    lamports := closedLamports (paidLamports s a c l) a.escrowCard (.listing a.cardMint) a.seller
    listings := s.listings.erase a.cardMint
    tokens := (moveTokens (BuyCard.opened s a) a.escrowCard a.buyerCard 1).erase a.escrowCard
    pool := some { p with
      totalLamports := p.totalLamports + tradePoolCut c l
      lifetimeIn := p.lifetimeIn + tradePoolCut c l }
    events := .cardSold a.listing a.buyer l.price (tradeFee c l) :: s.events }

/-- What the handler checks beyond `BuyCard.Ok`: the fee is computed without overflow, neither closed
account is closed into itself, and the buyer, who pays something, keeps no tokens at its own address. -/
structure BuyCard.Parties (s : Chain) (a : BuyCard) (c : Config) (l : Listing) : Prop where
  fee : bpsOf l.price c.marketFeeBps = .ok (tradeFee c l)
  escrow_ne : a.escrowCard ≠ a.seller
  listing_ne : .listing a.cardMint ≠ a.seller
  payer : 0 < l.price → s.tokens.get a.buyer = none

/-- What a successful `buy_card` did and checked. -/
theorem buyCardHandler_cases {s s' : Chain} {tx : Tx} {a : BuyCard}
    (h : buyCardHandler s tx a = .ok s') :
    ∃ c p l f t, BuyCard.Ok s tx a c p l f t s' ∧ BuyCard.Parties s a c l := by
  simp only [buyCardHandler, bind_eq_ok, Tx.signed_eq_ok, Chain.loadConfig_eq_ok,
    Chain.loadPool_eq_ok, Chain.loadListing_eq_ok, Chain.loadMint_eq_ok, Chain.loadTokenOf_eq_ok,
    require_eq_ok, exists_const, checkedAdd_eq_ok, checkedSub_eq_ok, Chain.closeAccount_eq_ok,
    Chain.closeListing_eq_ok] at h
  -- the accounts, the amounts and then the payments, in the order of the handler
  obtain ⟨hsig, c, ⟨-, hc, -⟩, p, ⟨-, hp, -⟩, l, ⟨hk, hl, -⟩, ha, hne, hs, m, -, h⟩ := h
  obtain ⟨s₁, hata, t, ⟨ht, htm, hto⟩, hv, htr, hpause, h⟩ := h
  obtain ⟨fee, hfee, cut, hcut, burn, ⟨hcle, hburn⟩, net, ⟨hfle, hnet⟩, h⟩ := h
  obtain ⟨total, ⟨-, htotal⟩, lifetime, ⟨hfit, hlifetime⟩, h⟩ := h
  obtain ⟨s₂, hpay₁, s₃, hpay₂, s₄, hpay₃, s₅, hxfer, h⟩ := h
  obtain ⟨s₆, ⟨t₂, ht₂, hesc, h0, -, -, rfl⟩, -, rfl⟩ := h
  subst hburn hnet htotal hlifetime
  obtain rfl := bpsOf_ok hfee
  obtain rfl := bpsOf_ok hcut
  obtain ⟨hbk, rfl, f, hf, hfm, hfo⟩ := Chain.initAtaIfNeeded_ok hata
  obtain ⟨hsys₁, hcov₁, rfl⟩ := Chain.pay_ok hpay₁
  obtain ⟨hsys₂, hcov₂, rfl⟩ := Chain.pay_ok hpay₂
  obtain ⟨hsys₃, hcov₃, rfl⟩ := Chain.pay_ok hpay₃
  obtain ⟨t', f', hx, rfl⟩ := Chain.transferChecked_ok hxfer
  rw [hk] at hto
  simp only at ht hf
  have hsrc := hx.src
  have hcov := hx.covered
  simp only [ht, Option.some.injEq] at hsrc
  subst hsrc
  have hauth : f.owner ∈ tx.signers := by
    rw [hfo]
    exact hsig
  dsimp only at ht₂
  have emptied := escrow_emptied hauth hf ht hto hcov ht₂ h0
  have hescrow : s.tokens.get a.escrowCard = some t := by
    rwa [get_ensureAta_ne emptied.1] at ht
  refine ⟨c, p, l, f, t, ⟨⟨hl, ha, hescrow, htm, hto, emptied.2⟩, hsig, hk, hc, hp, hs, hv, htr,
    hpause, hbk, ?_, hfm, hfo, hcle, hfle, hcov₁, hcov₂, hcov₃, hfit, ?_⟩,
    ⟨hfee, hesc, hk ▸ hne, ?_⟩⟩
  · rw [BuyCard.opened, ← hbk]; exact hf
  · simp only [Chain.emit, closedLamports, paidLamports, BuyCard.opened, erase_set, ← hbk]
    rfl
  · intro hprice
    -- one of the three parts of the price is positive
    have hnone : (ensureAta s.tokens a.buyerCard a.cardMint a.buyer).get a.buyer = none := by
      by_cases h₁ : 0 < l.price - bps l.price c.marketFeeBps
      · exact Chain.tokens_of_system (hsys₁ h₁)
      · by_cases h₂ : 0 < bps (bps l.price c.marketFeeBps) poolShareBps
        · exact Chain.tokens_of_system (hsys₂ h₂)
        · exact Chain.tokens_of_system (hsys₃ (by omega))
    cases hb : s.tokens.get a.buyer with
    | none => rfl
    | some u =>
      rw [get_ensureAta hb] at hnone
      cases hnone

theorem buyCardHandler_ok {s s' : Chain} {tx : Tx} {a : BuyCard}
    (h : buyCardHandler s tx a = .ok s') : ∃ c p l f t, BuyCard.Ok s tx a c p l f t s' := by
  obtain ⟨c, p, l, f, t, ok, -⟩ := buyCardHandler_cases h
  exact ⟨c, p, l, f, t, ok⟩

/-- The three payments of a purchase add up to the price. -/
theorem trade_split {c : Config} {l : Listing} (h1 : tradePoolCut c l ≤ tradeFee c l)
    (h2 : tradeFee c l ≤ l.price) :
    (l.price - tradeFee c l) + tradePoolCut c l + tradeBurnCut c l = l.price := by
  unfold tradeBurnCut
  omega

end Pokeage
