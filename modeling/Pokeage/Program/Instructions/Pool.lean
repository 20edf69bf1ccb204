import Pokeage.Program.Shared

/-!
# The pool and its administration

`initialize` opens the config and the pool, `instant_sell` pays out of the pool, and the four admin
instructions set the floor, the instant-sell gate and the pause bits and empty the treasury. The
admin instructions carry `has_one = authority`.
-/

namespace Pokeage

open Infra Infra.Balance

/-! ## initialize -/

/-- The accounts of `initialize`. -/
structure Initialize where
  authority : Pubkey
  config : Pubkey
  buybackPool : Pubkey
  pageMint : Pubkey
  treasury : Pubkey
  buybackVault : Pubkey
  deriving DecidableEq

/-- Open the config with its rates and an empty pool that buys nothing back. -/
def initializeHandler (s : Chain) (tx : Tx) (a : Initialize)
    (burnBps poolBps marketFeeBps listingFee : ℕ) : Result Chain := do
  tx.signed a.authority
  -- init config, init buyback_pool
  require (a.config = .config) (.anchor .constraintSeeds)
  require (s.config = none) (.runtime .accountAlreadyInUse)
  require (a.buybackPool = .buybackPool) (.anchor .constraintSeeds)
  require (s.pool = none) (.runtime .accountAlreadyInUse)
  let _ ← s.loadMint a.pageMint
  let sum ← checkedAdd burnBps poolBps
  require (sum = bpsDenom) (.pokeage .invalidFeeConfig)
  -- the market fee is capped at 20 percent to protect traders
  require (marketFeeBps ≤ 2000) (.pokeage .invalidFeeConfig)
  let config : Config := {
    authority := a.authority
    pageMint := a.pageMint
    treasury := a.treasury
    buybackVault := a.buybackVault
    burnBps, poolBps, marketFeeBps
    instantSellBps
    listingFee
    totalBurned := 0
    totalCardsMinted := 0
    paused := 0
    bump := s.bumpOf .config }
  -- fail-closed: the pool starts disabled until the authority sets a floor
  let pool : BuybackPool := {
    totalLamports := 0
    lifetimeIn := 0
    lifetimeOut := 0
    floorPrice := 0
    instantSellEnabled := false
    bump := s.bumpOf .buybackPool }
  return { s with config := some config, pool := some pool }

/-- Everything a successful `initialize` did. -/
structure Initialize.Ok (s : Chain) (tx : Tx) (a : Initialize)
    (burnBps poolBps marketFeeBps listingFee : ℕ) (s' : Chain) : Prop where
  signed : a.authority ∈ tx.signers
  config : s.config = none
  pool : s.pool = none
  split : burnBps + poolBps = 10000
  fee_le : marketFeeBps ≤ 2000
  after : s' = { s with
    config := some {
      authority := a.authority, pageMint := a.pageMint, treasury := a.treasury,
      buybackVault := a.buybackVault, burnBps, poolBps, marketFeeBps, instantSellBps, listingFee,
      totalBurned := 0, totalCardsMinted := 0, paused := 0, bump := s.bumpOf .config }
    pool := some {
      totalLamports := 0, lifetimeIn := 0, lifetimeOut := 0, floorPrice := 0,
      instantSellEnabled := false, bump := s.bumpOf .buybackPool } }

/-- What a successful `initialize` did. -/
theorem initializeHandler_ok {s s' : Chain} {tx : Tx} {a : Initialize} {b p f l : ℕ}
    (h : initializeHandler s tx a b p f l = .ok s') : Initialize.Ok s tx a b p f l s' := by
  simp only [initializeHandler, bind_eq_ok, Tx.signed_eq_ok, require_eq_ok, exists_const,
    checkedAdd_eq_ok, pure_eq_ok] at h
  obtain ⟨hs, -, hc, -, hp, -, -, _, ⟨-, rfl⟩, hsum, hfee, rfl⟩ := h
  exact ⟨hs, hc, hp, hsum, hfee, rfl⟩

/-! ## instant_sell -/

/-- The accounts of `instant_sell`. -/
structure InstantSell where
  seller : Pubkey
  config : Pubkey
  buybackPool : Pubkey
  cardMint : Pubkey
  sellerCard : Pubkey
  vaultCard : Pubkey
  buybackVault : Pubkey
  deriving DecidableEq

/-- Sell a card to the pool at its share of the floor price. -/
def instantSellHandler (s : Chain) (tx : Tx) (a : InstantSell) : Result Chain := do
  tx.signed a.seller
  let config ← s.loadConfig a.config
  let pool ← s.loadPool a.buybackPool
  let cardMint ← s.loadMint a.cardMint
  let _ ← s.loadTokenOf a.sellerCard a.cardMint a.seller
  let s ← s.initAtaIfNeeded a.vaultCard a.cardMint a.buybackVault
  require (a.buybackVault = config.buybackVault) (.anchor .constraintAddress)
  require (config.isPaused Config.pauseInstantSell = false) (.pokeage .featurePaused)
  -- fail-closed: both gates must be open
  require (pool.instantSellEnabled = true) (.pokeage .instantSellDisabled)
  require (0 < pool.floorPrice) (.pokeage .floorNotSet)
  let payout ← bpsOf pool.floorPrice instantSellBps
  require (payout ≤ pool.totalLamports) (.pokeage .poolInsufficient)
  let totalLamports ← checkedSub pool.totalLamports payout
  let lifetimeOut ← checkedAdd pool.lifetimeOut payout
  let s : Chain := { s with pool := some { pool with totalLamports, lifetimeOut } }
  let s ← s.transferChecked a.sellerCard a.cardMint a.vaultCard a.seller 1 cardMint.decimals
  let paid ← s.moveLamportsPda a.buybackVault a.seller payout
  s.verifySpend paid a.buybackVault
  return paid.emit (.instantSold a.seller payout)

/-- What one instant sell pays at the pool's floor. -/
def payout (p : BuybackPool) : ℕ := bps p.floorPrice instantSellBps

/-- The token accounts once the vault's account is there. -/
def InstantSell.opened (s : Chain) (a : InstantSell) : Tokens :=
  ensureAta s.tokens a.vaultCard a.cardMint a.buybackVault

/-- Everything a successful `instant_sell` did: `c` and `p` were the config and the pool, `f` and `t` the
seller's and the vault's account. -/
structure InstantSell.Ok (s : Chain) (tx : Tx) (a : InstantSell) (c : Config) (p : BuybackPool)
    (f t : TokenAccount) (s' : Chain) : Prop where
  signed : a.seller ∈ tx.signers
  config : s.config = some c
  pool : s.pool = some p
  vault : a.buybackVault = c.buybackVault
  unpaused : c.isPaused Config.pauseInstantSell = false
  enabled : p.instantSellEnabled = true
  floor : 0 < p.floorPrice
  enough : payout p ≤ p.totalLamports
  card : s.tokens.get a.sellerCard = some f
  cardMint : f.mint = a.cardMint
  cardOwner : f.owner = a.seller
  cardCovered : 1 ≤ f.amount
  vaultCard_eq : a.vaultCard = .ata a.buybackVault a.cardMint
  vaultCard : (InstantSell.opened s a).get a.vaultCard = some t
  vaultCardMint : t.mint = a.cardMint
  covered : payout p ≤ s.lamports a.buybackVault
  fits : p.lifetimeOut + payout p < 2 ^ 64
  after : s' = { s with
    lamports := move s.lamports a.buybackVault a.seller (payout p)
    tokens := moveTokens (InstantSell.opened s a) a.sellerCard a.vaultCard 1
    pool := some { p with
      totalLamports := p.totalLamports - payout p
      lifetimeOut := p.lifetimeOut + payout p }
    events := .instantSold a.seller (payout p) :: s.events }

/-- What a successful `instant_sell` did. -/
theorem instantSellHandler_ok {s s' : Chain} {tx : Tx} {a : InstantSell}
    (h : instantSellHandler s tx a = .ok s') : ∃ c p f t, InstantSell.Ok s tx a c p f t s' := by
  simp only [instantSellHandler, bind_eq_ok, Tx.signed_eq_ok, Chain.loadConfig_eq_ok,
    Chain.loadPool_eq_ok, Chain.loadMint_eq_ok, Chain.loadTokenOf_eq_ok, require_eq_ok,
    exists_const, checkedAdd_eq_ok, checkedSub_eq_ok, Chain.verifySpend, pure_eq_ok] at h
  obtain ⟨hsig, c, ⟨-, hc, -⟩, p, ⟨-, hp, -⟩, m, -, f, ⟨hf, hfm, hfo⟩, s₁, hata, hv, hpause, hen,
    hfl, v, hpay, hle, _, ⟨-, rfl⟩, _, ⟨hfit, rfl⟩, s₂, hxfer, s₃, hmove, -, rfl⟩ := h
  obtain rfl := bpsOf_ok hpay
  obtain ⟨hvc, rfl, t, ht, htm, -⟩ := Chain.initAtaIfNeeded_ok hata
  obtain ⟨f', t', htr, rfl⟩ := Chain.transferChecked_ok hxfer
  obtain ⟨hcov, rfl⟩ := Chain.moveLamportsPda_ok hmove
  have hff : f' = f := by
    have hsrc := htr.src
    simp only [get_ensureAta hf, Option.some.injEq] at hsrc
    exact hsrc.symm
  subst hff
  exact ⟨c, p, f', t, ⟨hsig, hc, hp, hv, hpause, hen, hfl, hle, hf, hfm, hfo, htr.covered, hvc, ht,
    htm, hcov, hfit, rfl⟩⟩

/-- A vault that covers the pool still does after the payout. -/
theorem InstantSell.Ok.backed {s s' : Chain} {tx : Tx} {a : InstantSell} {c : Config}
    {p : BuybackPool} {f t : TokenAccount} (ok : InstantSell.Ok s tx a c p f t s')
    (h : p.totalLamports ≤ s.lamports c.buybackVault) :
    p.totalLamports - payout p ≤ s'.lamports c.buybackVault := by
  have net := @move_net _ _ s.lamports a.buybackVault a.seller (payout p) ok.covered a.buybackVault
  rw [if_pos rfl, ok.vault] at net
  rw [ok.after]
  show p.totalLamports - payout p ≤
    move s.lamports a.buybackVault a.seller (payout p) c.buybackVault
  rw [ok.vault]
  omega

/-! ## Admin -/

/-- The accounts of `update_floor`. -/
structure UpdateFloor where
  authority : Pubkey
  config : Pubkey
  buybackPool : Pubkey
  deriving DecidableEq

/-- The accounts of `set_instant_sell` are the same. -/
abbrev SetInstantSell := UpdateFloor

/-- Set the floor price. -/
def updateFloor (s : Chain) (tx : Tx) (a : UpdateFloor) (floorPrice : ℕ) : Result Chain := do
  tx.signed a.authority
  let _ ← s.loadConfigOf a.config a.authority
  let pool ← s.loadPool a.buybackPool
  let pool := { pool with floorPrice }
  -- auto-toggle: instant sell stays on only while the pool can cover one payout
  if floorPrice = 0 then
    return { s with pool := some { pool with instantSellEnabled := false } }
  else
    let onePayout ← bpsOf floorPrice instantSellBps
    if pool.totalLamports < onePayout then
      return { s with pool := some { pool with instantSellEnabled := false } }
    else
      return { s with pool := some pool }

/-- Open or close instant selling. -/
def setInstantSell (s : Chain) (tx : Tx) (a : SetInstantSell) (enabled : Bool) :
    Result Chain := do
  tx.signed a.authority
  let _ ← s.loadConfigOf a.config a.authority
  let pool ← s.loadPool a.buybackPool
  -- cannot enable without a floor
  require (enabled = true → 0 < pool.floorPrice) (.pokeage .floorNotSet)
  return { s with pool := some { pool with instantSellEnabled := enabled } }

/-- The accounts of `withdraw_treasury`. -/
structure WithdrawTreasury where
  authority : Pubkey
  config : Pubkey
  treasury : Pubkey
  deriving DecidableEq

/-- Pay lamports of the treasury out to the authority. -/
def withdrawTreasury (s : Chain) (tx : Tx) (a : WithdrawTreasury) (amount : ℕ) :
    Result Chain := do
  tx.signed a.authority
  let config ← s.loadConfigOf a.config a.authority
  require (a.treasury = config.treasury) (.anchor .constraintAddress)
  require (amount ≤ s.lamports a.treasury) (.pokeage .insufficientFunds)
  let paid ← s.moveLamportsPda a.treasury a.authority amount
  s.verifySpend paid a.treasury
  return paid

/-- The accounts of `set_pause`. -/
structure SetPause where
  authority : Pubkey
  config : Pubkey
  deriving DecidableEq

/-- Set the pause flags. -/
def setPause (s : Chain) (tx : Tx) (a : SetPause) (flags : ℕ) : Result Chain := do
  tx.signed a.authority
  let config ← s.loadConfigOf a.config a.authority
  return { s with config := some { config with paused := flags } }

/-- What every admin instruction established: the signer is the configured authority. -/
structure AdminOk (s : Chain) (tx : Tx) (authority : Pubkey) (c : Config) : Prop where
  signed : authority ∈ tx.signers
  config : s.config = some c
  authority : c.authority = authority

/-- The gate after `update_floor`: it stays open only over a floor the pool can pay half of. -/
def floorGate (p : BuybackPool) (floorPrice : ℕ) : Bool :=
  p.instantSellEnabled && decide (0 < floorPrice) &&
    decide (bps floorPrice instantSellBps ≤ p.totalLamports)

/-- What a successful `update_floor` did. -/
theorem updateFloor_ok {s s' : Chain} {tx : Tx} {a : UpdateFloor} {floor : ℕ}
    (h : updateFloor s tx a floor = .ok s') :
    ∃ c p, AdminOk s tx a.authority c ∧ s.pool = some p ∧
      s' = { s with pool := some { p with
        floorPrice := floor
        instantSellEnabled := floorGate p floor } } := by
  simp only [updateFloor, bind_eq_ok, Tx.signed_eq_ok, Chain.loadConfigOf_eq_ok,
    Chain.loadPool_eq_ok, exists_const] at h
  obtain ⟨hs, c, ⟨-, hc, -, ha⟩, p, ⟨-, hp, -⟩, h⟩ := h
  refine ⟨c, p, ⟨hs, hc, ha⟩, hp, ?_⟩
  split at h
  · next h0 =>
    rw [pure_eq_ok] at h
    rw [← h, h0]
    simp [floorGate]
  · next h0 =>
    simp only [bind_eq_ok] at h
    obtain ⟨v, hv, h⟩ := h
    obtain rfl := bpsOf_ok hv
    have hpos : 0 < floor := Nat.pos_of_ne_zero h0
    split at h
    · next hlt =>
      rw [pure_eq_ok] at h
      rw [← h]
      simp [floorGate, hlt]
    · next hge =>
      rw [pure_eq_ok] at h
      rw [← h]
      simp only [floorGate, hpos, decide_true, Bool.and_true,
        decide_eq_true (Nat.le_of_not_lt hge)]

/-- What a successful `set_instant_sell` did. -/
theorem setInstantSell_ok {s s' : Chain} {tx : Tx} {a : SetInstantSell} {enabled : Bool}
    (h : setInstantSell s tx a enabled = .ok s') :
    ∃ c p, AdminOk s tx a.authority c ∧ s.pool = some p ∧
      (enabled = true → 0 < p.floorPrice) ∧
      s' = { s with pool := some { p with instantSellEnabled := enabled } } := by
  simp only [setInstantSell, bind_eq_ok, Tx.signed_eq_ok, Chain.loadConfigOf_eq_ok,
    Chain.loadPool_eq_ok, require_eq_ok, exists_const, pure_eq_ok] at h
  obtain ⟨hs, c, ⟨-, hc, -, ha⟩, p, ⟨-, hp, -⟩, hf, rfl⟩ := h
  exact ⟨c, p, ⟨hs, hc, ha⟩, hp, hf, rfl⟩

/-- What a successful `withdraw_treasury` did. -/
theorem withdrawTreasury_ok {s s' : Chain} {tx : Tx} {a : WithdrawTreasury} {n : ℕ}
    (h : withdrawTreasury s tx a n = .ok s') :
    ∃ c, AdminOk s tx a.authority c ∧ a.treasury = c.treasury ∧ n ≤ s.lamports a.treasury ∧
      s' = { s with lamports := move s.lamports a.treasury a.authority n } := by
  simp only [withdrawTreasury, bind_eq_ok, Tx.signed_eq_ok, Chain.loadConfigOf_eq_ok,
    require_eq_ok, exists_const, Chain.verifySpend, pure_eq_ok] at h
  obtain ⟨hs, c, ⟨-, hc, -, ha⟩, ht, hn, s₁, hmove, -, rfl⟩ := h
  obtain ⟨-, rfl⟩ := Chain.moveLamportsPda_ok hmove
  exact ⟨c, ⟨hs, hc, ha⟩, ht, hn, rfl⟩

/-- What a successful `set_pause` did. -/
theorem setPause_ok {s s' : Chain} {tx : Tx} {a : SetPause} {flags : ℕ}
    (h : setPause s tx a flags = .ok s') :
    ∃ c, AdminOk s tx a.authority c ∧ s' = { s with config := some { c with paused := flags } } := by
  simp only [setPause, bind_eq_ok, Tx.signed_eq_ok, Chain.loadConfigOf_eq_ok, exists_const,
    pure_eq_ok] at h
  obtain ⟨hs, c, ⟨-, hc, -, ha⟩, rfl⟩ := h
  exact ⟨c, ⟨hs, hc, ha⟩, rfl⟩

end Pokeage
