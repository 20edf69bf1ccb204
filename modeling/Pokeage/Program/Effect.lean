import Pokeage.Program.Step

/-!
# What a step can do

`Effect` lists the ways a step can succeed: one constructor for each instruction, one for the four
sinks together and one for what is done outside the program. `step_effect` is the inversion lemma;
every property below starts from it and never unfolds a handler.
-/

namespace Pokeage

open Infra Infra.Machine

/-- The sink an instruction runs, with its cost. -/
def Instruction.charge : Instruction → Option (SinkContext × ℕ)
  | .deployAgent a => some (a, deployCost)
  | .catchAttempt a rarity => (catchCostForRarity rarity.toNat).toOption.map fun cost => (a, cost)
  | .gymChallenge a _ => some (a, gymCost)
  | .forceEvolve a => some (a, forceEvolveCost)
  | _ => none

/-- Every cost is a positive number of ten whole tokens. -/
theorem Instruction.charge_cost {ix : Instruction} {a : SinkContext} {cost : ℕ}
    (h : ix.charge = some (a, cost)) : ∃ k, 0 < k ∧ cost = k * 10000000 := by
  cases ix with
  | deployAgent a => cases h; exact ⟨100, by decide, rfl⟩
  | gymChallenge a i => cases h; exact ⟨5, by decide, rfl⟩
  | forceEvolve a => cases h; exact ⟨7500, by decide, rfl⟩
  | catchAttempt a rarity =>
    simp only [charge] at h
    unfold catchCostForRarity at h
    split at h
    · cases h; exact ⟨1, by decide, rfl⟩
    · cases h; exact ⟨10, by decide, rfl⟩
    · cases h; exact ⟨100, by decide, rfl⟩
    · cases h
  | _ => cases h

/-- A successful step, with everything it did. -/
inductive Effect (s : Chain) : Action → Chain → Prop
  | initializeProgram {tx a b p m l s'} (ok : Initialize.Ok s tx a b p m l s') {b' p' m' : UInt16}
      {l' : UInt64} (hb : b'.toNat = b) (hp : p'.toNat = p) (hm : m'.toNat = m)
      (hl : l'.toNat = l) : Effect s (.program tx (.initializeProgram a b' p' m' l')) s'
  | sink {tx ix a cost c m f t ps s'} (hix : ix.charge = some (a, cost))
      (ok : SinkOk s tx a cost c m f t ps s') : Effect s (.program tx ix) s'
  | mintCard {tx a} {tier stage level : UInt8} {c p fee s'}
      (ok : MintCard.Ok s tx a tier.toNat stage.toNat level.toNat c p fee s') :
      Effect s (.program tx (.mintCard a tier stage level)) s'
  | listCard {tx a} {price : UInt64} {tier level stage : UInt8} {c p m f t s'}
      (ok : ListCard.Ok s tx a price.toNat tier.toNat level.toNat stage.toNat c p m f t s') :
      Effect s (.program tx (.listCard a price tier level stage)) s'
  | cancelListing {tx a l f t s'} (ok : CancelListing.Ok s tx a l f t s') :
      Effect s (.program tx (.cancelListing a)) s'
  | buyCard {tx a c p l f t s'} (ok : BuyCard.Ok s tx a c p l f t s') :
      Effect s (.program tx (.buyCard a)) s'
  | instantSell {tx a c p f t s'} (ok : InstantSell.Ok s tx a c p f t s') :
      Effect s (.program tx (.instantSell a)) s'
  | updateFloor {tx a} {floor : UInt64} {c p s'} (admin : AdminOk s tx a.authority c)
      (pool : s.pool = some p)
      (after : s' = { s with pool := some { p with
        floorPrice := floor.toNat
        instantSellEnabled := floorGate p floor.toNat } }) :
      Effect s (.program tx (.updateFloor a floor)) s'
  | setInstantSell {tx a enabled c p s'} (admin : AdminOk s tx a.authority c)
      (pool : s.pool = some p) (floor : enabled = true → 0 < p.floorPrice)
      (after : s' = { s with pool := some { p with instantSellEnabled := enabled } }) :
      Effect s (.program tx (.setInstantSell a enabled)) s'
  | withdrawTreasury {tx a} {amount : UInt64} {c s'} (admin : AdminOk s tx a.authority c)
      (treasury : a.treasury = c.treasury) (covered : amount.toNat ≤ s.lamports a.treasury)
      (after : s' = { s with
        lamports := Balance.move s.lamports a.treasury a.authority amount.toNat }) :
      Effect s (.program tx (.withdrawTreasury a amount)) s'
  | setPause {tx a} {flags : UInt8} {c s'} (admin : AdminOk s tx a.authority c)
      (after : s' = { s with config := some { c with paused := flags.toNat } }) :
      Effect s (.program tx (.setPause a flags)) s'
  | external {tx e s'} (ok : e.apply s tx = .ok s') : Effect s (.external tx e) s'

/-- **Inversion of a step.** -/
theorem step_effect {s s' : Chain} {a : Action} (h : step s a = .ok s') : Effect s a s' := by
  cases a with
  | external tx e => exact .external h
  | program tx ix =>
    cases ix with
    | initializeProgram a b p m l => exact .initializeProgram (initializeHandler_ok h) rfl rfl rfl rfl
    | deployAgent a =>
      obtain ⟨c, m, f, t, ps, -, -, ok⟩ := deployAgentHandler_ok h
      exact .sink rfl ok
    | catchAttempt a rarity =>
      obtain ⟨cost, c, m, f, t, ps, hcost, -, -, -, -, ok⟩ := catchAttemptHandler_ok h
      exact .sink (by simp [Instruction.charge, hcost, Except.toOption]) ok
    | gymChallenge a i =>
      obtain ⟨c, m, f, t, ps, -, -, -, -, ok⟩ := gymChallengeHandler_ok h
      exact .sink rfl ok
    | forceEvolve a =>
      obtain ⟨c, m, f, t, ps, -, -, ok⟩ := forceEvolveHandler_ok h
      exact .sink rfl ok
    | mintCard a tier stage level =>
      obtain ⟨c, p, fee, ok⟩ := mintCardHandler_ok h
      exact .mintCard ok
    | listCard a price tier level stage =>
      obtain ⟨c, p, m, f, t, ok⟩ := listCardHandler_ok h
      exact .listCard ok
    | cancelListing a =>
      obtain ⟨l, f, t, ok⟩ := cancelListingHandler_ok h
      exact .cancelListing ok
    | buyCard a =>
      obtain ⟨c, p, l, f, t, ok⟩ := buyCardHandler_ok h
      exact .buyCard ok
    | instantSell a =>
      obtain ⟨c, p, f, t, ok⟩ := instantSellHandler_ok h
      exact .instantSell ok
    | updateFloor a floor =>
      obtain ⟨c, p, admin, pool, after⟩ := updateFloor_ok h
      exact .updateFloor admin pool after
    | setInstantSell a enabled =>
      obtain ⟨c, p, admin, pool, floor, after⟩ := setInstantSell_ok h
      exact .setInstantSell admin pool floor after
    | withdrawTreasury a amount =>
      obtain ⟨c, admin, treasury, covered, after⟩ := withdrawTreasury_ok h
      exact .withdrawTreasury admin treasury covered after
    | setPause a flags =>
      obtain ⟨c, admin, after⟩ := setPause_ok h
      exact .setPause admin after

/-! ## Outside the program -/

/-- Two chains with the same records of the program. -/
structure SameRecords (s s' : Chain) : Prop where
  bumpOf : s'.bumpOf = s.bumpOf
  config : s'.config = s.config
  pool : s'.pool = s.pool
  players : s'.players = s.players
  cards : s'.cards = s.cards
  listings : s'.listings = s.listings
  events : s'.events = s.events

/-- A successful action from outside, with what it changed. -/
inductive External.Effect (s : Chain) (tx : Tx) : External → Chain → Prop
  | systemTransfer {src dst} {amount : UInt64} (covered : amount.toNat ≤ s.lamports src) :
      Effect s tx (.systemTransfer src dst amount)
        { s with lamports := Balance.move s.lamports src dst amount.toNat }
  | assign {account owner} :
      Effect s tx (.assign account owner)
        { s with assigned := Function.update s.assigned account owner }
  | createMint {mint authority} {decimals : UInt8} (vacant : s.vacant mint) :
      Effect s tx (.createMint mint authority decimals)
        { s with mints := s.mints.set mint ⟨0, decimals.toNat, some authority⟩ }
  | createTokenAccount {account mint owner m} (signed : account ∈ tx.signers)
      (vacant : s.vacant account) (exists_mint : s.mints.get mint = some m) :
      Effect s tx (.createTokenAccount account mint owner)
        { s with tokens := s.tokens.set account { mint, owner, amount := 0 } }
  | createAta {authority mint m} (exists_mint : s.mints.get mint = some m) :
      Effect s tx (.createAta authority mint)
        { s with tokens := ensureAta s.tokens (.ata authority mint) mint authority }
  | mintTo {mint dst authority} {amount : UInt64} {m t} (exists_mint : s.mints.get mint = some m)
      (card : s.tokens.get dst = some t) (card_mint : t.mint = mint)
      (fits : m.supply + amount.toNat < 2 ^ 64) :
      Effect s tx (.mintTo mint dst authority amount)
        { s with
          tokens := s.tokens.modify dst (TokenAccount.credit amount.toNat)
          mints := s.mints.modify mint fun m => { m with supply := m.supply + amount.toNat } }
  | setMintAuthority {mint authority next m} (exists_mint : s.mints.get mint = some m) :
      Effect s tx (.setMintAuthority mint authority next)
        { s with mints := s.mints.set mint { m with mintAuthority := next } }
  | tokenTransfer {src mint dst authority} {amount : UInt64} {f t} (signed : authority ∈ tx.signers)
      (ok : Chain.Transferable s src mint dst authority amount.toNat f t) :
      Effect s tx (.tokenTransfer src mint dst authority amount)
        { s with tokens := moveTokens s.tokens src dst amount.toNat }
  | tokenBurn {src mint authority} {amount : UInt64} {f} (signed : authority ∈ tx.signers)
      (card : s.tokens.get src = some f) (covered : amount.toNat ≤ f.amount)
      (card_mint : f.mint = mint) (owner : f.owner = authority) :
      Effect s tx (.tokenBurn src mint authority amount)
        { s with
          tokens := s.tokens.modify src (TokenAccount.debit amount.toNat)
          mints := s.mints.modify mint (Mint.burned amount.toNat) }
  | closeTokenAccount {account dst authority t} (signed : authority ∈ tx.signers)
      (card : s.tokens.get account = some t) (empty : t.amount = 0) (owner : t.owner = authority) :
      Effect s tx (.closeTokenAccount account dst authority)
        { s with
          lamports := Balance.sweep s.lamports account dst
          tokens := s.tokens.erase account }
  | setTokenOwner {account authority next t} (signed : authority ∈ tx.signers)
      (card : s.tokens.get account = some t) (owner : t.owner = authority) :
      Effect s tx (.setTokenOwner account authority next)
        { s with tokens := s.tokens.set account { t with owner := next } }

/-- **Inversion of an action from outside.** -/
theorem External.effect {s s' : Chain} {tx : Tx} {e : External} (h : e.apply s tx = .ok s') :
    e.Effect s tx s' := by
  cases e with
  | systemTransfer src dst amount =>
    simp only [apply, bind_eq_ok] at h
    obtain ⟨_, -, h⟩ := h
    obtain ⟨-, covered, rfl⟩ := Chain.systemTransfer_ok h
    exact .systemTransfer covered
  | assign account owner =>
    simp only [apply, bind_eq_ok, pure_eq_ok] at h
    obtain ⟨_, -, _, -, rfl⟩ := h
    exact .assign
  | createMint mint authority decimals =>
    simp only [apply, bind_eq_ok, require_eq_ok, exists_const, pure_eq_ok] at h
    obtain ⟨_, -, vacant, rfl⟩ := h
    exact .createMint vacant
  | createTokenAccount account mint owner =>
    simp only [apply, Chain.createTokenAccount, bind_eq_ok, Chain.signedBy_eq_ok, require_eq_ok,
      exists_const, Chain.loadMint_eq_ok, pure_eq_ok] at h
    obtain ⟨signed, vacant, m, hm, rfl⟩ := h
    exact .createTokenAccount signed vacant hm
  | createAta authority mint =>
    simp only [apply, bind_eq_ok, Chain.loadMint_eq_ok] at h
    obtain ⟨m, hm, h⟩ := h
    obtain ⟨-, rfl, -⟩ := Chain.initAtaIfNeeded_ok h
    exact .createAta hm
  | mintTo mint dst authority amount =>
    simp only [apply, Chain.mintTo, bind_eq_ok, Chain.loadMint_eq_ok, Chain.loadToken_eq_ok,
      require_eq_ok, exists_const, pure_eq_ok] at h
    obtain ⟨_, -, m, hm, t, ht, htm, -, fits, rfl⟩ := h
    exact .mintTo hm ht htm fits
  | setMintAuthority mint authority next =>
    simp only [apply, bind_eq_ok, Chain.loadMint_eq_ok, pure_eq_ok] at h
    obtain ⟨_, -, m, hm, _, -, rfl⟩ := h
    exact .setMintAuthority hm
  | tokenTransfer src mint dst authority amount =>
    simp only [apply, bind_eq_ok, Chain.signedBy_eq_ok] at h
    obtain ⟨_, signed, _, -, h⟩ := h
    obtain ⟨f, t, ok, rfl⟩ := Chain.transferChecked_ok h
    exact .tokenTransfer signed ok
  | tokenBurn src mint authority amount =>
    simp only [apply, bind_eq_ok, Chain.signedBy_eq_ok] at h
    obtain ⟨_, signed, h⟩ := h
    obtain ⟨f, m, card, -, covered, card_mint, owner, -, rfl⟩ := Chain.burn_ok h
    exact .tokenBurn signed card covered card_mint owner
  | closeTokenAccount account dst authority =>
    simp only [apply, bind_eq_ok, Chain.signedBy_eq_ok] at h
    obtain ⟨_, signed, h⟩ := h
    obtain ⟨t, card, -, empty, owner, -, rfl⟩ := Chain.closeAccount_eq_ok.mp h
    exact .closeTokenAccount signed card empty owner
  | setTokenOwner account authority next =>
    simp only [apply, bind_eq_ok, Chain.signedBy_eq_ok, Chain.loadToken_eq_ok, require_eq_ok,
      exists_const, pure_eq_ok] at h
    obtain ⟨signed, t, card, owner, rfl⟩ := h
    exact .setTokenOwner signed card owner

/-- Nothing outside the program touches its records. -/
theorem External.sameRecords {s s' : Chain} {tx : Tx} {e : External}
    (h : e.apply s tx = .ok s') : SameRecords s s' := by
  cases External.effect h <;> exact ⟨rfl, rfl, rfl, rfl, rfl, rfl, rfl⟩

end Pokeage
