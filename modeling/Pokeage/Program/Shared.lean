import Pokeage.Program.Tokens

/-!
# What the instructions share

`shared.rs` with the account loading that every context repeats: the config and pool singletons at
their derived addresses, the token sink that burns 70 percent of a cost and routes the rest, and the
direct lamport move out of an account the program owns.
-/

namespace Pokeage

open Infra Infra.Balance

/-- `Signer<'info>`. -/
def Tx.signed (tx : Tx) (k : Pubkey) : Result Unit :=
  require (k ∈ tx.signers) (.anchor .accountNotSigner)

@[simp] theorem Tx.signed_eq_ok {tx : Tx} {k : Pubkey} {u : Unit} :
    tx.signed k = .ok u ↔ k ∈ tx.signers := require_eq_ok

namespace Chain

/-- `seeds = [CONFIG_SEED], bump = config.bump`. -/
def loadConfig (s : Chain) (k : Pubkey) : Result Config := do
  require (k = .config) (.anchor .constraintSeeds)
  let c ← orError s.config (.anchor .accountNotInitialized)
  require (c.bump = s.bumpOf .config) (.anchor .constraintSeeds)
  return c

/-- The same with `has_one = authority`. -/
def loadConfigOf (s : Chain) (k authority : Pubkey) : Result Config := do
  let c ← s.loadConfig k
  require (c.authority = authority) (.pokeage .unauthorized)
  return c

/-- `seeds = [POOL_SEED], bump = buyback_pool.bump`. -/
def loadPool (s : Chain) (k : Pubkey) : Result BuybackPool := do
  require (k = .buybackPool) (.anchor .constraintSeeds)
  let p ← orError s.pool (.anchor .accountNotInitialized)
  require (p.bump = s.bumpOf .buybackPool) (.anchor .constraintSeeds)
  return p

/-- `seeds = [PLAYER_SEED, player], bump = player_state.bump` and the owner constraint. -/
def loadPlayer (s : Chain) (k player : Pubkey) : Result PlayerState := do
  require (k = .player player) (.anchor .constraintSeeds)
  let ps ← orError (s.players.get player) (.anchor .accountNotInitialized)
  require (ps.bump = s.bumpOf (.player player)) (.anchor .constraintSeeds)
  require (ps.owner = player) (.pokeage .unauthorized)
  return ps

/-- `seeds = [LISTING_SEED, card_mint], bump = listing.bump`. -/
def loadListing (s : Chain) (k cardMint : Pubkey) : Result Listing := do
  require (k = .listing cardMint) (.anchor .constraintSeeds)
  let l ← orError (s.listings.get cardMint) (.anchor .accountNotInitialized)
  require (l.bump = s.bumpOf (.listing cardMint)) (.anchor .constraintSeeds)
  return l

@[simp] theorem loadConfig_eq_ok {s : Chain} {k : Pubkey} {c : Config} :
    s.loadConfig k = .ok c ↔ k = .config ∧ s.config = some c ∧ c.bump = s.bumpOf .config := by
  simp only [loadConfig, bind_eq_ok, require_eq_ok, exists_const, orError_eq_ok, pure_eq_ok]
  constructor
  · rintro ⟨hk, c, hc, hb, rfl⟩; exact ⟨hk, hc, hb⟩
  · rintro ⟨hk, hc, hb⟩; exact ⟨hk, c, hc, hb, rfl⟩

@[simp] theorem loadConfigOf_eq_ok {s : Chain} {k authority : Pubkey} {c : Config} :
    s.loadConfigOf k authority = .ok c ↔ k = .config ∧ s.config = some c ∧
      c.bump = s.bumpOf .config ∧ c.authority = authority := by
  simp only [loadConfigOf, bind_eq_ok, require_eq_ok, exists_const, loadConfig_eq_ok, pure_eq_ok]
  constructor
  · rintro ⟨c, ⟨hk, hc, hb⟩, ha, rfl⟩; exact ⟨hk, hc, hb, ha⟩
  · rintro ⟨hk, hc, hb, ha⟩; exact ⟨c, ⟨hk, hc, hb⟩, ha, rfl⟩

@[simp] theorem loadPool_eq_ok {s : Chain} {k : Pubkey} {p : BuybackPool} :
    s.loadPool k = .ok p ↔ k = .buybackPool ∧ s.pool = some p ∧
      p.bump = s.bumpOf .buybackPool := by
  simp only [loadPool, bind_eq_ok, require_eq_ok, exists_const, orError_eq_ok, pure_eq_ok]
  constructor
  · rintro ⟨hk, p, hp, hb, rfl⟩; exact ⟨hk, hp, hb⟩
  · rintro ⟨hk, hp, hb⟩; exact ⟨hk, p, hp, hb, rfl⟩

@[simp] theorem loadPlayer_eq_ok {s : Chain} {k player : Pubkey} {ps : PlayerState} :
    s.loadPlayer k player = .ok ps ↔ k = .player player ∧ s.players.get player = some ps ∧
      ps.bump = s.bumpOf (.player player) ∧ ps.owner = player := by
  simp only [loadPlayer, bind_eq_ok, require_eq_ok, exists_const, orError_eq_ok, pure_eq_ok]
  constructor
  · rintro ⟨hk, p, hp, hb, ho, rfl⟩; exact ⟨hk, hp, hb, ho⟩
  · rintro ⟨hk, hp, hb, ho⟩; exact ⟨hk, ps, hp, hb, ho, rfl⟩

@[simp] theorem loadListing_eq_ok {s : Chain} {k m : Pubkey} {l : Listing} :
    s.loadListing k m = .ok l ↔ k = .listing m ∧ s.listings.get m = some l ∧
      l.bump = s.bumpOf (.listing m) := by
  simp only [loadListing, bind_eq_ok, require_eq_ok, exists_const, orError_eq_ok, pure_eq_ok]
  constructor
  · rintro ⟨hk, p, hp, hb, rfl⟩; exact ⟨hk, hp, hb⟩
  · rintro ⟨hk, hp, hb⟩; exact ⟨hk, l, hp, hb, rfl⟩

/-! ## Direct lamport moves -/

/-- A direct balance adjustment, used when the source is an account the program owns. -/
def moveLamportsPda (s : Chain) (src dst : Pubkey) (amount : ℕ) : Result Chain := do
  let fromBalance := s.lamports src
  require (amount ≤ fromBalance) (.pokeage .insufficientFunds)
  let debited ← checkedSub fromBalance amount
  let s : Chain := { s with lamports := Function.update s.lamports src debited }
  let toBalance := s.lamports dst
  let credited ← checkedAdd toBalance amount
  return { s with lamports := Function.update s.lamports dst credited }

/-- What a successful move of lamports did. -/
theorem moveLamportsPda_ok {s s' : Chain} {src dst : Pubkey} {n : ℕ}
    (h : s.moveLamportsPda src dst n = .ok s') :
    n ≤ s.lamports src ∧ s' = { s with lamports := move s.lamports src dst n } := by
  simp only [moveLamportsPda, bind_eq_ok, require_eq_ok, exists_const, checkedSub_eq_ok,
    checkedAdd_eq_ok, pure_eq_ok] at h
  obtain ⟨hn, _, ⟨-, rfl⟩, _, ⟨-, rfl⟩, rfl⟩ := h
  exact ⟨hn, rfl⟩

/-- When it succeeds. -/
theorem moveLamportsPda_eq_ok {s : Chain} {src dst : Pubkey} {n : ℕ} (hne : dst ≠ src)
    (hn : n ≤ s.lamports src) (hfit : s.lamports dst + n < 2 ^ 64) :
    s.moveLamportsPda src dst n = .ok { s with lamports := move s.lamports src dst n } := by
  simp only [moveLamportsPda, bind_eq_ok, require_eq_ok, exists_const, checkedSub_eq_ok,
    checkedAdd_eq_ok, pure_eq_ok]
  refine ⟨hn, _, ⟨hn, rfl⟩, _, ⟨?_, rfl⟩, rfl⟩
  rwa [Function.update_of_ne hne]

/-- The runtime's check after a handler: an account debited directly must be the program's. -/
def verifySpend (s s' : Chain) (k : Pubkey) : Result Unit :=
  require (s.owner k = .pokeage ∨ s.lamports k ≤ s'.lamports k)
    (.runtime .externalAccountLamportSpend)

end Chain

/-! ## The token sink -/

/-- How much of a sink is burned and how much goes to the pool. -/
structure SinkSplit where
  burned : ℕ
  toPool : ℕ
  deriving DecidableEq, Repr

/-- The 70/30 split. The pool part is the remainder. -/
def computeSplit (total : ℕ) : Result SinkSplit := do
  let burned ← bpsOf total burnBps
  let toPool ← checkedSub total burned
  return { burned, toPool }

/-- Both parts of a split. -/
theorem computeSplit_ok {total : ℕ} {split : SinkSplit} (h : computeSplit total = .ok split) :
    split = { burned := bps total burnBps, toPool := total - bps total burnBps } := by
  simp only [computeSplit, bind_eq_ok, checkedSub_eq_ok, pure_eq_ok] at h
  obtain ⟨b, hb, _, ⟨-, rfl⟩, rfl⟩ := h
  rw [bpsOf_ok hb]

/-- The split of a `u64` never fails. -/
theorem computeSplit_of_lt {total : ℕ} (fits : total < 2 ^ 64) :
    computeSplit total =
      .ok { burned := bps total burnBps, toPool := total - bps total burnBps } := by
  simp only [computeSplit, bind_eq_ok, checkedSub_eq_ok, pure_eq_ok]
  exact ⟨_, bpsOf_of_le fits (by decide), _, ⟨bps_le (by decide) total, rfl⟩, rfl⟩

/-- From two base units on, both parts of a split are positive. -/
theorem bps_burnBps_pos {total : ℕ} (h : 2 ≤ total) :
    0 < bps total burnBps ∧ bps total burnBps < total := by
  unfold bps burnBps bpsDenom
  omega

/-- The accounts a sink moves tokens between. The payer signs. -/
structure SinkAccounts where
  pageMint : Pubkey
  payerToken : Pubkey
  poolToken : Pubkey
  payer : Pubkey

/-- `if split.burned > 0 { burn(..)?; }`. -/
def burnPart (s : Chain) (a : SinkAccounts) (n : ℕ) : Result Chain :=
  if 0 < n then s.burn a.payerToken a.pageMint a.payer n else .ok s

/-- `if split.to_pool > 0 { transfer_checked(..)?; }`. -/
def poolPart (s : Chain) (a : SinkAccounts) (n decimals : ℕ) : Result Chain :=
  if 0 < n then s.transferChecked a.payerToken a.pageMint a.poolToken a.payer n decimals
  else .ok s

/-- Burn the burn part from the payer's account and move the pool part to the pool's. -/
def applySink (s : Chain) (a : SinkAccounts) (total : ℕ) : Result (Chain × SinkSplit) := do
  let payerToken ← s.loadToken a.payerToken
  require (total ≤ payerToken.amount) (.pokeage .insufficientFunds)
  let split ← computeSplit total
  let mint ← s.loadMint a.pageMint
  let s ← burnPart s a split.burned
  let s ← poolPart s a split.toPool mint.decimals
  return (s, split)

/-- The token accounts after a sink. -/
def sunkTokens (T : Tokens) (a : SinkAccounts) (total : ℕ) : Tokens :=
  moveTokens (T.modify a.payerToken (TokenAccount.debit (bps total burnBps)))
    a.payerToken a.poolToken (total - bps total burnBps)

/-- **What a sink does.** The payer's own account covers the total, and both legs come out of it. -/
theorem applySink_ok {s s' : Chain} {a : SinkAccounts} {total : ℕ} {split : SinkSplit}
    (h2 : 2 ≤ total) (h : applySink s a total = .ok (s', split)) :
    ∃ f t m, s.tokens.get a.payerToken = some f ∧ s.tokens.get a.poolToken = some t ∧
      s.mints.get a.pageMint = some m ∧ f.mint = a.pageMint ∧ f.owner = a.payer ∧
      t.mint = a.pageMint ∧ total ≤ f.amount ∧ bps total burnBps ≤ m.supply ∧
      split = { burned := bps total burnBps, toPool := total - bps total burnBps } ∧
      s' = { s with
        tokens := sunkTokens s.tokens a total
        mints := s.mints.modify a.pageMint (Mint.burned (bps total burnBps)) } := by
  obtain ⟨hb, hlt⟩ := bps_burnBps_pos h2
  simp only [applySink, bind_eq_ok, Chain.loadToken_eq_ok, Chain.loadMint_eq_ok, require_eq_ok,
    exists_const, pure_eq_ok] at h
  obtain ⟨f, hf, hcov, sp, hsp, m, hm, s₁, hburn, s₂, hxfer, hpair⟩ := h
  obtain ⟨rfl, rfl⟩ := Prod.mk.inj hpair
  have hspl := computeSplit_ok hsp
  subst hspl
  rw [burnPart, if_pos hb] at hburn
  rw [poolPart, if_pos (by simp only; omega)] at hxfer
  obtain ⟨f', m', hf', hm', -, hfm, hfo, hsup, rfl⟩ := Chain.burn_ok hburn
  rw [hf] at hf'
  cases hf'
  rw [hm] at hm'
  cases hm'
  obtain ⟨f₁, t₁, htr, rfl⟩ := Chain.transferChecked_ok hxfer
  -- the pool account was there before the burn, with the same mint
  obtain ⟨t, ht, htm⟩ : ∃ t, s.tokens.get a.poolToken = some t ∧ t.mint = a.pageMint := by
    have hdst := htr.dst
    simp only [Store.get_modify] at hdst
    by_cases hp : a.poolToken = a.payerToken
    · exact ⟨f, by rw [hp]; exact hf, hfm⟩
    · rw [if_neg hp] at hdst
      exact ⟨t₁, hdst, htr.dstMint⟩
  exact ⟨f, t, m, hf, ht, hm, hfm, hfo, htm, hcov, hsup, rfl, rfl⟩

end Pokeage
