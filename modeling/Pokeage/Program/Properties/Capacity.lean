import Pokeage.Cli.Economy
import Pokeage.Program.Properties.Ledger
import Pokeage.Program.Properties.Recover

/-!
# How many cards the pool can buy

The client divides the pool's counter by the quote. A sale lowers the counter by the quote and leaves the
floor, so the quotient is one less afterwards, and nothing else that the program counts stands in the way
of a sale while it is positive: the vault covers the payout, the counter of payouts stays below that of
charges, and the card fits into the vault's account.

What the program never looks at is the vault itself. `initialize` takes any address; the payout debits it
directly, which the runtime allows for an account of the program only, and an address that signs can give
its accounts for the cards away.
-/

namespace Pokeage

open Infra Infra.Balance Infra.Machine

/-! ## The pool's numbers -/

/-- The numbers of the pool fit in the program's integers. -/
structure PoolFits (p : BuybackPool) : Prop where
  lifetimeIn : p.lifetimeIn < 2 ^ 64
  floorPrice : p.floorPrice < 2 ^ 64

section

variable {s s' : Chain} {a : Action} {p p' : BuybackPool}

theorem poolFits_step (h : step s a = .ok s') (hp : s.pool = some p) (fits : PoolFits p)
    (hp' : s'.pool = some p') : PoolFits p' := by
  have kept (same : s'.pool = s.pool) : PoolFits p' := by
    obtain rfl := Option.some.inj (hp.symm.trans (same.symm.trans hp'))
    exact fits
  cases step_effect h with
  | initializeProgram ok =>
    rw [ok.pool] at hp
    cases hp
  | sink _ ok =>
    obtain ⟨ev, after⟩ := ok.after
    exact kept (by rw [after])
  | mintCard ok =>
    obtain rfl := Option.some.inj (hp.symm.trans ok.pool)
    rw [ok.after] at hp'
    cases hp'
    exact ⟨ok.fits, fits.floorPrice⟩
  | listCard ok =>
    obtain rfl := Option.some.inj (hp.symm.trans ok.pool)
    rw [ok.after] at hp'
    cases hp'
    exact ⟨ok.fits, fits.floorPrice⟩
  | cancelListing ok => exact kept (by rw [ok.after])
  | buyCard ok =>
    obtain rfl := Option.some.inj (hp.symm.trans ok.pool)
    rw [ok.after] at hp'
    cases hp'
    exact ⟨ok.fits, fits.floorPrice⟩
  | instantSell ok =>
    obtain rfl := Option.some.inj (hp.symm.trans ok.pool)
    rw [ok.after] at hp'
    cases hp'
    exact ⟨fits.lifetimeIn, fits.floorPrice⟩
  | @updateFloor _ _ floor _ _ _ _ pool after =>
    obtain rfl := Option.some.inj (hp.symm.trans pool)
    rw [after] at hp'
    cases hp'
    exact ⟨fits.lifetimeIn, floor.toNat_lt⟩
  | setInstantSell _ pool _ after =>
    obtain rfl := Option.some.inj (hp.symm.trans pool)
    rw [after] at hp'
    cases hp'
    exact ⟨fits.lifetimeIn, fits.floorPrice⟩
  | withdrawTreasury _ _ _ after => exact kept (by rw [after])
  | setPause _ after => exact kept (by rw [after])
  | external ok => exact kept (External.sameRecords ok).pool

theorem Reachable.poolFits (h : Reachable s) (hp : s.pool = some p) : PoolFits p := by
  refine Reachable.induction (P := fun s => (∃ p, s.pool = some p) ∧
    ∀ p, s.pool = some p → PoolFits p) ?_ ?_ h |>.2 p hp
  · rintro s ⟨a, b, q, m, l, ⟨g, tx, -, hstep⟩⟩
    rw [(initializeHandler_ok hstep).after]
    refine ⟨⟨_, rfl⟩, ?_⟩
    rintro _ ⟨⟩
    exact ⟨Nat.two_pow_pos 64, Nat.two_pow_pos 64⟩
  · rintro s a s' ⟨⟨p, hp⟩, fits⟩ hstep
    obtain ⟨p', hp', -⟩ := step_pool hstep hp
    exact ⟨⟨p', hp'⟩, fun q hq => poolFits_step hstep hp (fits p hp) hq⟩

theorem Reachable.balance (h : Reachable s) (hp : s.pool = some p) :
    p.lifetimeIn = p.totalLamports + p.lifetimeOut := by
  obtain ⟨s₀, as, init, rfl⟩ := h
  obtain ⟨c, p', ledger⟩ := ledger_run init as
  obtain rfl := Option.some.inj (hp.symm.trans ledger.pool)
  exact ledger.balance

end

/-! ## Offers -/

/-- The pool after a sale. -/
def BuybackPool.sold (p : BuybackPool) : BuybackPool :=
  { p with totalLamports := p.totalLamports - payout p, lifetimeOut := p.lifetimeOut + payout p }

/-- A call of `instant_sell` with its transaction. -/
structure Sale where
  tx : Tx
  accounts : InstantSell

/-- The call is made by a holder of the card other than the vault, on the accounts the program names. -/
structure Offer (s : Chain) (c : Config) (tx : Tx) (a : InstantSell) : Prop where
  signed : a.seller ∈ tx.signers
  seller : a.seller ≠ c.buybackVault
  config : a.config = .config
  pool : a.buybackPool = .buybackPool
  vault : a.buybackVault = c.buybackVault
  vaultCard : a.vaultCard = .ata a.buybackVault a.cardMint
  holds : ∃ f, s.tokens.get a.sellerCard = some f ∧ f.mint = a.cardMint ∧ f.owner = a.seller ∧
    1 ≤ f.amount

/-- The vault's account for a card, where there is one, is the vault's. -/
def VaultCardKept (s : Chain) (c : Config) (m : Pubkey) : Prop :=
  ∀ t, s.tokens.get (.ata c.buybackVault m) = some t → t.owner = c.buybackVault

theorem ata_ne (w m : Pubkey) : Pubkey.ata w m ≠ w := by
  intro same
  have size := congrArg sizeOf same
  simp at size
  omega

/-- The vault's account for a card is another one than the vault. -/
theorem InstantSell.vault_ne {a : InstantSell} (h : a.vaultCard = .ata a.buybackVault a.cardMint) :
    a.buybackVault ≠ a.vaultCard := by
  rw [h]
  exact (ata_ne _ _).symm

/-- What the handler loads before it comes to the vault's account for the card. -/
structure InstantSell.Loaded (s : Chain) (a : InstantSell) (c : Config) (p : BuybackPool) (m : Mint)
    (f : TokenAccount) : Prop where
  config : s.loadConfig a.config = .ok c
  pool : s.loadPool a.buybackPool = .ok p
  mint : s.loadMint a.cardMint = .ok m
  card : s.loadTokenOf a.sellerCard a.cardMint a.seller = .ok f

section

variable {s s' : Chain} {c : Config} {p : BuybackPool} {M : Pubkey → Prop} {tx : Tx}
  {a : InstantSell}

theorem Offer.seller_ne (offer : Offer s c tx a) : a.seller ≠ a.buybackVault := by
  rw [offer.vault]
  exact offer.seller

theorem Offer.loaded (offer : Offer s c tx a) (reachable : Reachable s) (config : s.config = some c)
    (pool : s.pool = some p) : ∃ m f, a.Loaded s c p m f := by
  obtain ⟨c', p', live⟩ := reachable.live
  obtain rfl := Option.some.inj (config.symm.trans live.config)
  obtain rfl := Option.some.inj (pool.symm.trans live.pool)
  obtain ⟨f, there, mint, owner, -⟩ := offer.holds
  obtain ⟨m, hm⟩ := Option.isSome_iff_exists.1 (reachable.books.isSome_of_get there mint)
  exact ⟨m, f, Chain.loadConfig_eq_ok.2 ⟨offer.config, config, live.configBump⟩,
    Chain.loadPool_eq_ok.2 ⟨offer.pool, pool, live.poolBump⟩, Chain.loadMint_eq_ok.2 hm,
    Chain.loadTokenOf_eq_ok.2 ⟨there, mint, owner⟩⟩

/-- The vault's account for the card that is offered, once it is there. -/
theorem Offer.vaultCard_opens (offer : Offer s c tx a) (reachable : Reachable s)
    (kept : VaultCardKept s c a.cardMint) :
    s.initAtaIfNeeded a.vaultCard a.cardMint a.buybackVault =
      .ok { s with tokens := InstantSell.opened s a } := by
  unfold Chain.initAtaIfNeeded InstantSell.opened ensureAta
  rw [require_of offer.vaultCard, ok_bind]
  cases there : s.tokens.get a.vaultCard with
  | none => rfl
  | some t =>
    rw [offer.vaultCard, offer.vault] at there
    have owner : t.owner = a.buybackVault := (kept t there).trans offer.vault.symm
    have minted : t.mint = a.cardMint := (reachable.books.ata _ _ t there).1
    dsimp only
    rw [require_of minted, ok_bind, require_of owner, ok_bind]
    rfl

/-- A card for which the vault's account is somebody else's cannot be sold. -/
theorem Offer.foreign (offer : Offer s c tx a) (reachable : Reachable s) (config : s.config = some c)
    (foreign : ¬VaultCardKept s c a.cardMint) :
    instantSellHandler s tx a = .error (.anchor .constraintTokenOwner) := by
  obtain ⟨c', p, live⟩ := reachable.live
  obtain ⟨m, f, loaded⟩ := offer.loaded reachable config live.pool
  obtain ⟨t, there, owner⟩ : ∃ t, s.tokens.get (.ata c.buybackVault a.cardMint) = some t ∧
      t.owner ≠ c.buybackVault := by
    unfold VaultCardKept at foreign
    push Not at foreign
    exact foreign
  have minted : t.mint = a.cardMint := (reachable.books.ata _ _ t there).1
  have refused : s.initAtaIfNeeded a.vaultCard a.cardMint a.buybackVault =
      .error (.anchor .constraintTokenOwner) := by
    unfold Chain.initAtaIfNeeded
    rw [require_of offer.vaultCard, ok_bind, offer.vaultCard, offer.vault, there]
    dsimp only
    rw [require_of minted, ok_bind, require_of_not owner, error_bind]
  unfold instantSellHandler Tx.signed
  rw [require_of offer.signed, ok_bind, loaded.config, ok_bind, loaded.pool, ok_bind, loaded.mint,
    ok_bind, loaded.card, ok_bind, refused, error_bind]

end

/-! ## One sale -/

/-- The owner of an address is read off what is kept there. -/
theorem owner_congr {s s' : Chain} {k : Pubkey} (records : s'.hasRecord k = s.hasRecord k)
    (mints : s'.mints = s.mints) (tokens : (s'.tokens.get k).isSome = (s.tokens.get k).isSome)
    (assigned : s'.assigned = s.assigned) : s'.owner k = s.owner k := by
  unfold Chain.owner
  rw [records, mints, tokens, assigned]

theorem isSome_get_moveTokens {T : Tokens} {src dst k : Pubkey} {n : ℕ} :
    ((moveTokens T src dst n).get k).isSome = (T.get k).isSome := by
  cases there : T.get k with
  | some t =>
    obtain ⟨t', ht', -⟩ := @get_moveTokens T src dst n t k there
    rw [ht']
    rfl
  | none =>
    cases after : (moveTokens T src dst n).get k with
    | none => rfl
    | some t' =>
      obtain ⟨t, ht, -⟩ := get_moveTokens_cases after
      rw [there] at ht
      cases ht

section

variable {s s' : Chain} {c : Config} {p q : BuybackPool} {M : Pubkey → Prop} {tx : Tx}
  {a : InstantSell} {l : Pubkey → ℕ} {ev : List Event}

/-- Taking the card in changes no owner but that of the account it goes to. -/
theorem owner_sale (pool : s.pool = some p) {k : Pubkey} (ne : k ≠ a.vaultCard) :
    Chain.owner { s with
      lamports := l
      tokens := moveTokens (InstantSell.opened s a) a.sellerCard a.vaultCard 1
      pool := some q
      events := ev } k = s.owner k := by
  refine owner_congr ?_ rfl ?_ rfl
  · cases k with
    | buybackPool =>
      show true = s.pool.isSome
      rw [pool]
      rfl
    | _ => rfl
  · show ((moveTokens _ _ _ _).get k).isSome = _
    rw [isSome_get_moveTokens, InstantSell.opened, get_ensureAta_ne ne]

/-- What the runtime saw to: the account that paid is one of the program. -/
theorem instantSell_spends (h : instantSellHandler s tx a = .ok s')
    (ne : a.seller ≠ a.buybackVault) (pool : s.pool = some p) (pays : 0 < payout p) :
    s.owner a.buybackVault = .pokeage := by
  simp only [instantSellHandler, bind_eq_ok, Tx.signed_eq_ok, Chain.loadPool_eq_ok,
    require_eq_ok, exists_const, checkedAdd_eq_ok, checkedSub_eq_ok, Chain.verifySpend,
    pure_eq_ok] at h
  obtain ⟨-, c, -, p', ⟨-, hp, -⟩, m, -, f, -, s₁, hata, -, -, -, -, v, hpay, -, _, ⟨-, rfl⟩, _,
    ⟨-, rfl⟩, s₂, hxfer, s₃, hmove, spent, -⟩ := h
  obtain rfl := Option.some.inj (pool.symm.trans hp)
  obtain rfl := bpsOf_ok hpay
  obtain ⟨hvc, rfl, -⟩ := Chain.initAtaIfNeeded_ok hata
  obtain ⟨-, -, -, rfl⟩ := Chain.transferChecked_ok hxfer
  obtain ⟨covered, rfl⟩ := Chain.moveLamportsPda_ok hmove
  have vault : a.buybackVault ≠ a.vaultCard := InstantSell.vault_ne hvc
  rcases spent with owner | kept
  · rw [← owner]
    exact (owner_sale pool vault).symm
  · -- the payout is positive and goes to somebody else
    have net := @move_net _ _ s.lamports a.buybackVault a.seller (payout p) covered a.buybackVault
    rw [if_pos rfl, if_neg ne.symm] at net
    change s.lamports a.buybackVault ≤
      move s.lamports a.buybackVault a.seller (payout p) a.buybackVault at kept
    omega

end

/-! ## While the pool buys -/

/-- The gates are open, the floor makes a payout of at least one and the vault covers the pool. -/
structure PoolOpen (s : Chain) (c : Config) (p : BuybackPool) : Prop where
  reachable : Reachable s
  config : s.config = some c
  pool : s.pool = some p
  unpaused : c.isPaused Config.pauseInstantSell = false
  enabled : p.instantSellEnabled = true
  floor : 2 ≤ p.floorPrice
  backed : p.totalLamports ≤ s.lamports c.buybackVault

/-- The vault is an account of the program, and its accounts for the cards in `M` are its own. -/
structure VaultSound (s : Chain) (c : Config) (M : Pubkey → Prop) : Prop where
  owned : s.owner c.buybackVault = .pokeage
  kept : ∀ m, M m → VaultCardKept s c m

section

variable {s s' : Chain} {c : Config} {p : BuybackPool} {M : Pubkey → Prop} {tx : Tx}
  {a : InstantSell}

theorem PoolOpen.payout_pos (h : PoolOpen s c p) : 0 < payout p := by
  have floor := h.floor
  unfold payout bps instantSellBps bpsDenom
  omega

theorem PoolOpen.quoted (h : PoolOpen s c p) : bpsOf p.floorPrice instantSellBps = .ok (payout p) :=
  bpsOf_of_le (h.reachable.poolFits h.pool).floorPrice (by decide)

/-- The client asks for the same quote. -/
theorem PoolOpen.capacity (h : PoolOpen s c p) :
    Cli.Economy.capacity p.totalLamports p.floorPrice =
      .ok (some (p.totalLamports / payout p)) := by
  have quote : Cli.Economy.instantSellQuote p.floorPrice = .ok (payout p) :=
    Cli.Economy.bpsOf_of_le (h.reachable.poolFits h.pool).floorPrice (by decide)
  unfold Cli.Economy.capacity
  rw [quote, ok_bind, if_pos h.payout_pos]
  rfl

/-- With too little in the pool a sale is refused. -/
theorem PoolOpen.refuses (h : PoolOpen s c p) (offer : Offer s c tx a) (kept : VaultCardKept s c a.cardMint)
    (short : p.totalLamports < payout p) :
    instantSellHandler s tx a = .error (.pokeage .poolInsufficient) := by
  obtain ⟨m, f, loaded⟩ := offer.loaded h.reachable h.config h.pool
  have positive : 0 < p.floorPrice := Nat.lt_of_lt_of_le Nat.zero_lt_two h.floor
  unfold instantSellHandler Tx.signed
  rw [require_of offer.signed, ok_bind, loaded.config, ok_bind, loaded.pool, ok_bind, loaded.mint,
    ok_bind, loaded.card, ok_bind, offer.vaultCard_opens h.reachable kept, ok_bind,
    require_of offer.vault, ok_bind, require_of h.unpaused, ok_bind, require_of h.enabled, ok_bind,
    require_of positive, ok_bind, h.quoted, ok_bind, require_of_not (Nat.not_le.2 short), error_bind]

/-- The two accounts of a sale, once the vault's is there. -/
theorem Offer.transferable (offer : Offer s c tx a) (reachable : Reachable s)
    (kept : VaultCardKept s c a.cardMint) : ∃ f t,
    Chain.Transferable { s with tokens := InstantSell.opened s a } a.sellerCard a.cardMint
      a.vaultCard a.seller 1 f t ∧ a.vaultCard ≠ a.sellerCard ∧ t.amount + 1 < 2 ^ 64 := by
  obtain ⟨f, there, mint, owner, amount⟩ := offer.holds
  obtain ⟨m, hm⟩ := Option.isSome_iff_exists.1 (reachable.books.isSome_of_get there mint)
  obtain ⟨-, -, t, ht, htm, hto⟩ :=
    Chain.initAtaIfNeeded_ok (offer.vaultCard_opens reachable kept)
  have after : (InstantSell.opened s a).get a.sellerCard = some f := get_ensureAta there
  have ne : a.vaultCard ≠ a.sellerCard := by
    refine ne_of_owner ht after ?_
    rw [hto, owner]
    exact offer.seller_ne.symm
  have books : TokenBooks s.mints (InstantSell.opened s a) := by
    rw [InstantSell.opened, offer.vaultCard]
    exact reachable.books.ensureAta (by rw [hm]; rfl)
  have fits : t.amount + 1 < 2 ^ 64 :=
    credit_fits (s := { s with tokens := InstantSell.opened s a }) books hm after ht ne.symm mint htm
      amount
  exact ⟨f, t, ⟨after, ht, amount, mint, htm, owner⟩, ne, fits⟩

/-- **A sale that the pool covers goes through.** -/
theorem PoolOpen.sells (h : PoolOpen s c p) (sound : VaultSound s c M) (offer : Offer s c tx a)
    (mint : M a.cardMint) (enough : payout p ≤ p.totalLamports) :
    ∃ s', instantSellHandler s tx a = .ok s' := by
  have kept := sound.kept _ mint
  obtain ⟨m, f, loaded⟩ := offer.loaded h.reachable h.config h.pool
  obtain ⟨f', t, transferable, ne, fits⟩ := offer.transferable h.reachable kept
  have positive : 0 < p.floorPrice := Nat.lt_of_lt_of_le Nat.zero_lt_two h.floor
  have seller : a.seller ≠ a.buybackVault := offer.seller_ne
  have covered : payout p ≤ s.lamports a.buybackVault := by
    rw [offer.vault]
    exact enough.trans h.backed
  have together : s.lamports a.seller + s.lamports a.buybackVault < 2 ^ 64 :=
    h.reachable.bounded.add_lt seller
  have counter : p.lifetimeOut + payout p < 2 ^ 64 := by
    have balance := h.reachable.balance h.pool
    have bound := (h.reachable.poolFits h.pool).lifetimeIn
    omega
  have transfer := Chain.transferChecked_eq_ok (s := { s with
      tokens := InstantSell.opened s a
      pool := some p.sold }) (m := m)
    ⟨transferable.src, transferable.dst, transferable.covered, transferable.srcMint,
      transferable.dstMint, transferable.owner⟩ (Chain.loadMint_eq_ok.1 loaded.mint) ne fits
  have vault : a.buybackVault ≠ a.vaultCard := InstantSell.vault_ne offer.vaultCard
  have owned : s.owner a.buybackVault = .pokeage := by
    rw [offer.vault]
    exact sound.owned
  simp only [instantSellHandler, bind_eq_ok, Tx.signed_eq_ok, require_eq_ok, exists_const,
    checkedAdd_eq_ok, checkedSub_eq_ok, Chain.verifySpend, pure_eq_ok]
  refine ⟨_, offer.signed, c, loaded.config, p, loaded.pool, m, loaded.mint, f, loaded.card, _,
    offer.vaultCard_opens h.reachable kept, offer.vault, h.unpaused, h.enabled, positive, payout p,
    h.quoted, enough, _, ⟨enough, rfl⟩, _, ⟨counter, rfl⟩, _, transfer, _,
    Chain.moveLamportsPda_eq_ok seller covered ?_, .inl ?_, rfl⟩
  · show s.lamports a.seller + payout p < 2 ^ 64
    omega
  · exact (owner_sale h.pool vault).trans owned

/-- **What a sale leaves behind.** One payout less in the counter, and the pool still buys. -/
theorem PoolOpen.sold (h : PoolOpen s c p) (ok : instantSellHandler s tx a = .ok s') :
    PoolOpen s' c p.sold := by
  obtain ⟨c', p', f, t, sale⟩ := instantSellHandler_ok ok
  obtain rfl := Option.some.inj (h.config.symm.trans sale.config)
  obtain rfl := Option.some.inj (h.pool.symm.trans sale.pool)
  have reachable : Reachable s' := by
    have done : step s (.program tx (.instantSell a)) = .ok s' := ok
    rw [← exec_ok done]
    exact h.reachable.run [_]
  have backed := sale.backed h.backed
  have after := sale.after
  subst after
  exact ⟨reachable, h.config, rfl, h.unpaused, h.enabled, h.floor, backed⟩

/-- No sale changes the owner of an account that is there. -/
theorem instantSell_keepsOwner (ok : instantSellHandler s tx a = .ok s') {k : Pubkey}
    {t : TokenAccount} (there : s.tokens.get k = some t) :
    ∃ t', s'.tokens.get k = some t' ∧ t'.owner = t.owner := by
  obtain ⟨c, p, f, v, sale⟩ := instantSellHandler_ok ok
  have opened : (InstantSell.opened s a).get k = some t := get_ensureAta there
  obtain ⟨t', after, -, owner, -⟩ := @get_moveTokens _ a.sellerCard a.vaultCard 1 _ _ opened
  refine ⟨t', ?_, owner⟩
  rw [sale.after]
  exact after

/-- An account that a sale opens is the vault's. -/
theorem VaultCardKept.sold {m : Pubkey} (kept : VaultCardKept s c m) (offer : Offer s c tx a)
    (ok : instantSellHandler s tx a = .ok s') : VaultCardKept s' c m := by
  obtain ⟨c', p, f, v, sale⟩ := instantSellHandler_ok ok
  intro t there
  rw [sale.after] at there
  obtain ⟨t₀, before, -, owner⟩ := get_moveTokens_cases there
  rw [owner]
  rcases get_ensureAta_cases before with before | ⟨-, -, rfl⟩
  · exact kept t₀ before
  · exact offer.vault

theorem VaultSound.sold (sound : VaultSound s c M) (offer : Offer s c tx a)
    (ok : instantSellHandler s tx a = .ok s') : VaultSound s' c M := by
  refine ⟨?_, fun m hm => (sound.kept m hm).sold offer ok⟩
  obtain ⟨c', p, f, t, sale⟩ := instantSellHandler_ok ok
  have vault : c.buybackVault ≠ a.vaultCard := by
    rw [← offer.vault]
    exact InstantSell.vault_ne offer.vaultCard
  rw [sale.after]
  exact (owner_sale sale.pool vault).trans sound.owned

end

/-! ## Runs of sales -/

/-- The chain as a machine whose only actions are sales. -/
def sell (s : Chain) (call : Sale) : Result Chain :=
  step s (.program call.tx (.instantSell call.accounts))

/-- Each call of the run is an offer where it is made. -/
def Offered (s : Chain) (c : Config) (calls : List Sale) : Prop :=
  AtEach sell s calls fun s call => Offer s c call.tx call.accounts

/-- The first `cap` calls succeed; every later one finds too little in the pool and changes nothing. -/
def SellsExactly (s : Chain) (cap : ℕ) (calls : List Sale) : Prop :=
  Serves sell (.pokeage .poolInsufficient) s cap calls

section

variable {s s' : Chain} {c : Config} {p : BuybackPool} {M : Pubkey → Prop} {call : Sale}
  {calls : List Sale} {cap : ℕ}

/-- Selling is running the chain. -/
theorem run_sell : run sell s calls =
    run step s (calls.map fun call => .program call.tx (.instantSell call.accounts)) := by
  unfold run
  rw [List.foldl_map]
  rfl

theorem reachable_sales (h : Reachable s) : Reachable (run sell s calls) := by
  rw [run_sell]
  exact h.run _

/-! ### From the vault to the run -/

/-- A pool that does not cover one payout refuses all of them. -/
theorem PoolOpen.refusesAll (h : PoolOpen s c p) (short : p.totalLamports < payout p)
    (kept : ∀ call ∈ calls, VaultCardKept s c call.accounts.cardMint) (offered : Offered s c calls) :
    SellsExactly s 0 calls := by
  refine serves_of_countdown (I := fun n s' => n = 0 ∧ s' = s)
    (P := fun s' call => VaultCardKept s c call.accounts.cardMint ∧
      Offer s' c call.tx call.accounts) ?_ ?_ ⟨rfl, rfl⟩ ?_
  · rintro n s' call ⟨positive, -⟩
    cases positive
  · rintro s' call ⟨-, rfl⟩ ⟨kept, offer⟩
    exact h.refuses offer kept short
  · rintro pre call post rfl
    exact ⟨kept call (by simp), offered pre call post rfl⟩

/-- **The run.** A sale that is covered leaves a quotient that is one less. -/
theorem PoolOpen.sellsExactly (h : PoolOpen s c p) (sound : VaultSound s c M)
    (mints : ∀ call ∈ calls, M call.accounts.cardMint) (offered : Offered s c calls) :
    SellsExactly s (p.totalLamports / payout p) calls := by
  refine serves_of_countdown
    (I := fun n s' => ∃ p', PoolOpen s' c p' ∧ VaultSound s' c M ∧ p'.totalLamports / payout p' = n)
    (P := fun s' call => M call.accounts.cardMint ∧ Offer s' c call.tx call.accounts)
    ?_ ?_ ⟨p, h, sound, rfl⟩ ?_
  · rintro n s' call ⟨p', isOpen, sound, left⟩ ⟨mint, offer⟩
    have enough : payout p' ≤ p'.totalLamports := by
      by_contra short
      rw [Nat.div_eq_of_lt (not_le.1 short)] at left
      cases left
    obtain ⟨s'', ok⟩ := isOpen.sells sound offer mint enough
    refine ⟨s'', ok, p'.sold, isOpen.sold ok, sound.sold offer ok, ?_⟩
    have one_less : p'.totalLamports / payout p' = p'.sold.totalLamports / payout p'.sold + 1 :=
      Nat.div_eq_sub_div isOpen.payout_pos enough
    omega
  · rintro s' call ⟨p', isOpen, sound, none_left⟩ ⟨mint, offer⟩
    have short : p'.totalLamports < payout p' :=
      (Nat.div_eq_zero_iff_lt isOpen.payout_pos).1 none_left
    exact isOpen.refuses offer (sound.kept _ mint) short
  · rintro pre call post rfl
    exact ⟨mints call (by simp), offered pre call post rfl⟩

/-! ### From the run to the vault -/

/-- Sales leave the configuration, and every account its owner. -/
theorem sales_leave {k : Pubkey} {t : TokenAccount} (there : s.tokens.get k = some t) :
    (run sell s calls).config = s.config ∧
      ∃ t', (run sell s calls).tokens.get k = some t' ∧ t'.owner = t.owner := by
  induction calls generalizing s t with
  | nil => exact ⟨rfl, t, there, rfl⟩
  | cons call calls ih =>
    rw [run_cons]
    cases done : sell s call with
    | error e =>
      rw [exec_error done]
      exact ih there
    | ok s' =>
      rw [exec_ok done]
      obtain ⟨t₁, there₁, owner₁⟩ := instantSell_keepsOwner done there
      obtain ⟨config, t', there', owner'⟩ := ih there₁
      obtain ⟨c, p, f, v, sale⟩ := instantSellHandler_ok done
      refine ⟨config.trans ?_, t', there', owner'.trans owner₁⟩
      rw [sale.after]

/-- A run that sells exactly never met a foreign account. -/
theorem SellsExactly.kept (sells : SellsExactly s cap calls) (reachable : Reachable s)
    (config : s.config = some c) (offered : Offered s c calls) (hc : call ∈ calls) :
    VaultCardKept s c call.accounts.cardMint := by
  obtain ⟨pre, post, rfl⟩ := List.append_of_mem hc
  intro t there
  by_contra owner
  obtain ⟨same, t', there', owner'⟩ := @sales_leave s pre _ _ there
  have offer := offered pre call post rfl
  have refused : sell (run sell s pre) call = .error (.anchor .constraintTokenOwner) := by
    refine offer.foreign (reachable_sales reachable) (same.trans config) fun kept => owner ?_
    rw [← owner']
    exact kept t' there'
  obtain ⟨first, later⟩ := sells pre call post rfl
  rcases Nat.lt_or_ge pre.length cap with below | above
  · have ok := first below
    rw [refused] at ok
    cases ok
  · have insufficient := (later above).1
    rw [refused] at insufficient
    cases insufficient

/-- A run that sells anything is paid by an account of the program. -/
theorem SellsExactly.owned (sells : SellsExactly s cap calls) (h : PoolOpen s c p)
    (offered : Offered s c calls) (some_calls : calls ≠ []) (positive : 0 < cap) :
    s.owner c.buybackVault = .pokeage := by
  obtain ⟨call, rest, rfl⟩ := List.exists_cons_of_ne_nil some_calls
  have offer : Offer s c call.tx call.accounts := offered [] call rest rfl
  have ok := step_exec ((sells [] call rest rfl).1 positive)
  rw [← offer.vault]
  exact instantSell_spends ok offer.seller_ne h.pool h.payout_pos

end

/-- **When the capacity is exact.** From an open pool whose vault covers it, a run of sales sells as many
cards as the client says, and refuses the rest, exactly if the vault's accounts for these cards are its
own and, once there is anything to pay, the vault is an account of the program. -/
theorem capacity_exact_iff (s : Chain) (reachable : Reachable s) (c : Config) (p : BuybackPool)
    (config : s.config = some c) (pool : s.pool = some p)
    (unpaused : c.isPaused Config.pauseInstantSell = false) (enabled : p.instantSellEnabled = true)
    (floor : 2 ≤ p.floorPrice) (backed : p.totalLamports ≤ s.lamports c.buybackVault)
    (calls : List Sale) (offered : Offered s c calls) :
    ∃ cap, Cli.Economy.capacity p.totalLamports p.floorPrice = .ok (some cap) ∧
      (SellsExactly s cap calls ↔
        (∀ call ∈ calls, VaultCardKept s c call.accounts.cardMint) ∧
        (calls ≠ [] → payout p ≤ p.totalLamports → s.owner c.buybackVault = .pokeage)) := by
  have h : PoolOpen s c p := ⟨reachable, config, pool, unpaused, enabled, floor, backed⟩
  refine ⟨_, h.capacity, ?_, ?_⟩
  · intro sells
    refine ⟨fun call hc => sells.kept reachable config offered hc, fun some_calls enough => ?_⟩
    exact sells.owned h offered some_calls (Nat.div_pos enough h.payout_pos)
  · rintro ⟨kept, owned⟩
    by_cases empty : calls = []
    · rw [empty]
      exact Serves.nil
    rcases Nat.lt_or_ge p.totalLamports (payout p) with short | enough
    · rw [Nat.div_eq_of_lt short]
      exact h.refusesAll short kept offered
    · have sound : VaultSound s c fun m => ∃ call ∈ calls, call.accounts.cardMint = m := by
        refine ⟨owned empty enough, ?_⟩
        rintro m ⟨call, hc, rfl⟩
        exact kept call hc
      exact h.sellsExactly sound (fun call hc => ⟨call, hc, rfl⟩) offered

/-- A vault at an address of the program's own is in order whatever cards come in. -/
theorem VaultSound.of_record {s : Chain} {c : Config} {M : Pubkey → Prop} (reachable : Reachable s)
    (record : s.hasRecord c.buybackVault) : VaultSound s c M := by
  have derived : c.buybackVault.isKey = false := by
    cases vault : c.buybackVault with
    | key n =>
      rw [vault] at record
      cases record
    | _ => rfl
  refine ⟨?_, fun m _ t there => (reachable.books.ata _ _ t there).2 derived⟩
  unfold Chain.owner
  rw [if_pos record]

/-! ## A wallet for a vault -/

/-- A chain initialized with a vault that is not an account of the program. -/
def Chain.walletVault : Chain :=
  opened [(.key 6, 1000000000000), (.key 7, 1000000000000)] [.key 3] 1 (.key 2) (.key 3) (.key 4)
    7000 3000 500 10000000

theorem initialized_walletVault : Initialized .walletVault :=
  ⟨_, _, _, _, _, Chain.initializedWith_opened (by decide) (by decide) (by decide)⟩

/-- User 6 opens a card of one unit, and the pool is funded and opened. -/
def openMarket : List Action := openCard 8 12 6 1 ++ openBuyback

/-- The configuration and the pool after `openMarket`, whatever the vault is. -/
def marketConfig : Config where
  authority := .key 1
  pageMint := .key 2
  treasury := .key 3
  buybackVault := .key 4
  burnBps := 7000
  poolBps := 3000
  marketFeeBps := 500
  instantSellBps := instantSellBps
  listingFee := 10000000
  totalBurned := 0
  totalCardsMinted := 1
  paused := 0
  bump := 255

/-- The pool of that chain. -/
def marketPool : BuybackPool where
  totalLamports := 500000000
  lifetimeIn := 500000000
  lifetimeOut := 0
  floorPrice := 100000000
  instantSellEnabled := true
  bump := 255

/-- User 6 sells the card. -/
def sellUnit : Sale where
  tx := .by [6] 0
  accounts := {
    seller := .key 6
    config := .config
    buybackPool := .buybackPool
    cardMint := .key 8
    sellerCard := .key 12
    vaultCard := .ata (.key 4) (.key 8)
    buybackVault := .key 4 }

theorem offer_sellUnit {s : Chain} {n : ℕ} (pos : 1 ≤ n)
    (holds : s.tokens.get (.key 12) = some ⟨.key 8, .key 6, n⟩) :
    Offer s marketConfig sellUnit.tx sellUnit.accounts :=
  ⟨List.mem_singleton.2 rfl, by decide, rfl, rfl, rfl, rfl, _, holds, rfl, rfl, pos⟩

theorem offered_sellUnit {s : Chain} (holds : s.tokens.get (.key 12) = some ⟨.key 8, .key 6, 1⟩) :
    Offered s marketConfig [sellUnit] := by
  rintro (_ | ⟨first, pre⟩) call post split
  · simp only [List.nil_append, List.cons.injEq] at split
    obtain ⟨rfl, -⟩ := split
    exact offer_sellUnit le_rfl holds
  · simp at split

/-- The pool stands open with a capacity of ten, its vault is covered and the holder offers the card, and
the sale fails: the runtime does not let the program debit the vault. -/
theorem not_sellsExactly_walletVault :
    PoolOpen (run step .walletVault openMarket) marketConfig marketPool ∧
    Offered (run step .walletVault openMarket) marketConfig [sellUnit] ∧
    Cli.Economy.capacity marketPool.totalLamports marketPool.floorPrice = .ok (some 10) ∧
    (sell (run step .walletVault openMarket) sellUnit).isOk = false ∧
    ¬SellsExactly (run step .walletVault openMarket) 10 [sellUnit] := by
  have config : (run step .walletVault openMarket).config = some marketConfig := by decide +kernel
  have pool : (run step .walletVault openMarket).pool = some marketPool := by decide +kernel
  have holds : (run step .walletVault openMarket).tokens.get (.key 12) = some ⟨.key 8, .key 6, 1⟩ := by
    decide +kernel
  have vault : (run step .walletVault openMarket).lamports (.key 4) = 500000000 := by decide +kernel
  have failed : (sell (run step .walletVault openMarket) sellUnit).isOk = false := by decide +kernel
  have isOpen : PoolOpen (run step .walletVault openMarket) marketConfig marketPool :=
    ⟨initialized_walletVault.reachable.run _, config, pool, rfl, rfl, by decide, vault.ge⟩
  have ten : marketPool.totalLamports / payout marketPool = 10 := by decide
  have capacity := isOpen.capacity
  rw [ten] at capacity
  refine ⟨isOpen, offered_sellUnit holds, capacity, failed, fun sells => ?_⟩
  have ok := (sells [] sellUnit [] rfl).1 (by decide)
  change (sell (run step .walletVault openMarket) sellUnit).isOk at ok
  rw [failed] at ok
  cases ok

/-! ## A vault of the program's -/

/-- User 6 opens a card of three units, and a payout is half of what the pool holds. -/
def dearMarket : List Action :=
  openCard 8 12 6 3 ++ openBuyback ++
    [.program (.by [1] 0) (.updateFloor
      { authority := .key 1, config := .config, buybackPool := .buybackPool } 500000000)]

/-- The same pool at five times the floor. -/
def dearPool : BuybackPool := { marketPool with floorPrice := 500000000 }

/-- The three units are for sale, one by one. -/
theorem offered_three :
    Offered (run step .standard dearMarket) marketConfig [sellUnit, sellUnit, sellUnit] := by
  rintro (_ | ⟨first, _ | ⟨second, _ | ⟨third, pre⟩⟩⟩) call post split
  · cases split
    exact offer_sellUnit (n := 3) (by decide) (by decide +kernel)
  · cases split
    exact offer_sellUnit (n := 2) (by decide) (by decide +kernel)
  · cases split
    exact offer_sellUnit (n := 1) (by decide) (by decide +kernel)
  · have short := congrArg List.length split
    simp at short

/-- The pool can pay two of the three: the third sale is refused. -/
theorem capacity_exact_iff_standard :
    Cli.Economy.capacity dearPool.totalLamports dearPool.floorPrice = .ok (some 2) ∧
      SellsExactly (run step .standard dearMarket) 2 [sellUnit, sellUnit, sellUnit] := by
  have config : (run step .standard dearMarket).config = some marketConfig := by decide +kernel
  have pool : (run step .standard dearMarket).pool = some dearPool := by decide +kernel
  have vault : (run step .standard dearMarket).lamports (.key 4) = 500000000 := by decide +kernel
  have closed : (run step .standard dearMarket).tokens.get (.ata (.key 4) (.key 8)) = none := by
    decide +kernel
  have owned : (run step .standard dearMarket).owner (.key 4) = .pokeage := by decide +kernel
  have two : Cli.Economy.capacity dearPool.totalLamports dearPool.floorPrice = .ok (some 2) := by decide
  obtain ⟨cap, capacity, iff_⟩ := capacity_exact_iff _ (Chain.initialized_standard.reachable.run _) _ _
    config pool rfl rfl (by decide) vault.ge _ offered_three
  obtain rfl : 2 = cap := by
    rw [two] at capacity
    cases capacity
    rfl
  refine ⟨two, iff_.2 ⟨?_, fun _ _ => owned⟩⟩
  intro call hc t there
  obtain rfl : call = sellUnit := by simpa using hc
  have none := closed.symm.trans there
  cases none

end Pokeage
