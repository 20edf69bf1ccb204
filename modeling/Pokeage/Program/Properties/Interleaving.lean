import Pokeage.Infra.Commute
import Pokeage.Program.Opening
import Pokeage.Program.Effect

/-!
# Players' calls in any order

The validators put the calls of different players in the order they like. Two sinks of different
players meet in the config's counter, in the supply of $PAGE and in the pool's token account, where
each adds or takes its own part, so the order is not seen in the accounts: `sinks_any_order` says that
a list of such calls, run in any other order, succeeds again and leaves the same accounts.

`sink_iff` is what the proof rests on, the four handlers as one: `Chargeable` is what the shared
accounts must look like, `Prepares` what each handler asks of the player's record, and `Chain.sunk` is
the chain afterwards.
-/

namespace Pokeage

open Infra Infra.Balance Infra.Machine Infra.Commute

/-! ## One sink -/

/-- The record found is the player's own, at the address named. -/
structure OwnRecord (a : SinkContext) (ps : PlayerState) (bump : ℕ) : Prop where
  address : a.playerState = .player a.player
  bump : ps.bump = bump
  owner : ps.owner = a.player

/-- What a handler asks of the player's record, the record it stores and the event it logs. -/
def Prepares (c : Config) (record : Option PlayerState) (bump : ℕ) (now : ℤ) (ix : Instruction)
    (ps : PlayerState) (event : SinkSplit → Event) : Prop :=
  match ix with
  | .deployAgent a => a.playerState = .player a.player ∧
      (record.getD .zeroed).agentDeployed = false ∧
      ps = { record.getD .zeroed with
        owner := a.player
        agentDeployed := true
        lastAction := now
        bump := if (record.getD .zeroed).bump = 0 then bump else (record.getD .zeroed).bump } ∧
      event = fun split => .agentDeployed a.player split.burned
  | .catchAttempt a rarity => ∃ old, record = some old ∧ OwnRecord a old bump ∧
      c.isPaused Config.pauseCatch = false ∧ old.agentDeployed = true ∧ old.totalCaught + 1 < 2 ^ 64 ∧
      ps = { old with totalCaught := old.totalCaught + 1, lastAction := now } ∧
      event = fun split => .catchAttempted a.player rarity.toNat split.burned split.toPool
  | .gymChallenge a i => ∃ old, record = some old ∧ OwnRecord a old bump ∧ old.agentDeployed = true ∧
      i.toNat < badgeCount ∧ (old.setBadge i.toNat).gymWins + 1 < 2 ^ 32 ∧
      ps = { old.setBadge i.toNat with
        gymWins := (old.setBadge i.toNat).gymWins + 1
        lastAction := now } ∧
      event = fun _ => .gymChallenged a.player i.toNat
  | .forceEvolve a => ∃ old, record = some old ∧ OwnRecord a old bump ∧ old.agentDeployed = true ∧
      ps = { old with lastAction := now } ∧ event = fun split => .evolved a.player split.burned
  | _ => False

/-- What the accounts of a sink must look like. -/
structure Chargeable (s : Chain) (tx : Tx) (a : SinkContext) (cost : ℕ) (c : Config) (m : Mint)
    (f t : TokenAccount) : Prop where
  signed : a.player ∈ tx.signers
  address : a.config = .config
  config : s.config = some c
  bump : c.bump = s.bumpOf .config
  pageMint : a.pageMint = c.pageMint
  mint : s.mints.get a.pageMint = some m
  payer : s.tokens.get a.playerToken = some f
  payerMint : f.mint = a.pageMint
  payerOwner : f.owner = a.player
  pool : s.tokens.get a.poolToken = some t
  poolMint : t.mint = a.pageMint
  covered : cost ≤ f.amount
  supply : bps cost burnBps ≤ m.supply
  fits : c.totalBurned + bps cost burnBps < 2 ^ 64
  credit : (if a.poolToken = a.playerToken then f.amount - cost else t.amount) +
    (cost - bps cost burnBps) < 2 ^ 64

/-- The config once a burn is counted. -/
def Config.counted (c : Config) (n : ℕ) : Config := { c with totalBurned := c.totalBurned + n }

/-- The chain after a sink. -/
def Chain.sunk (s : Chain) (a : SinkContext) (cost : ℕ) (c : Config) (ps : PlayerState) (ev : Event) :
    Chain := { s with
  config := some (c.counted (bps cost burnBps))
  players := s.players.set a.player ps
  tokens := sunkTokens s.tokens a.sink cost
  mints := s.mints.modify a.pageMint (Mint.burned (bps cost burnBps))
  events := ev :: s.events }

section Sink

variable {s s' : Chain} {tx : Tx} {a : SinkContext} {cost : ℕ} {c : Config} {ps : PlayerState}
  {event : SinkSplit → Event}

/-- A cost of the table: both its parts are positive and it is a `u64`. -/
structure Cost (cost : ℕ) : Prop where
  burned : 0 < bps cost burnBps
  rest : 0 < cost - bps cost burnBps
  lt : cost < 2 ^ 64

theorem Instruction.cost_of_charge {ix : Instruction} (h : ix.charge = some (a, cost)) : Cost cost := by
  have table : cost ∈ [deployCost, catchCommon, catchRare, catchLegendary, gymCost, forceEvolveCost] := by
    cases ix with
    | deployAgent | gymChallenge | forceEvolve => cases h; decide
    | catchAttempt x rarity =>
      simp only [charge] at h
      unfold catchCostForRarity at h
      split at h <;> cases h <;> decide
    | _ => cases h
  revert table
  have all : ∀ cost ∈ [deployCost, catchCommon, catchRare, catchLegendary, gymCost, forceEvolveCost],
      0 < bps cost burnBps ∧ 0 < cost - bps cost burnBps ∧ cost < 2 ^ 64 := by decide
  intro table
  obtain ⟨burned, rest, lt⟩ := all cost table
  exact ⟨burned, rest, lt⟩

/-- A sink that settled found its accounts as they must be, and left the chain sunk. -/
theorem settleSink_chargeable (table : Cost cost) (loaded : a.load s tx = .ok c)
    (settled : settleSink s a c ps cost event = .ok s') :
    ∃ m f t, Chargeable s tx a cost c m f t ∧
      s' = s.sunk a cost c ps (event ⟨bps cost burnBps, cost - bps cost burnBps⟩) := by
  have burned := table.burned
  have rest := table.rest
  simp only [SinkContext.load, bind_eq_ok, Tx.signed_eq_ok, require_eq_ok, exists_const,
    Chain.loadConfig_eq_ok, pure_eq_ok] at loaded
  obtain ⟨signed, c', ⟨address, config, bump⟩, page, -, -, -, -, -, -, rfl⟩ := loaded
  simp only [settleSink, applySink, bind_eq_ok, Chain.loadToken_eq_ok, Chain.loadMint_eq_ok,
    require_eq_ok, exists_const, checkedAdd_eq_ok, pure_eq_ok] at settled
  obtain ⟨_, ⟨f, payer, covered, split, computed, m, mint, s₁, burnt, s₂, moved, rfl⟩, _, ⟨fits, rfl⟩, rfl⟩ :=
    settled
  obtain rfl := computeSplit_ok computed
  rw [burnPart, if_pos burned] at burnt
  rw [poolPart, if_pos rest] at moved
  obtain ⟨f', m', payer', mint', -, payerMint, payerOwner, supply, rfl⟩ := Chain.burn_ok burnt
  obtain rfl := Option.some.inj (payer.symm.trans payer')
  obtain rfl := Option.some.inj (mint.symm.trans mint')
  simp only [Chain.transferChecked, bind_eq_ok, Chain.loadToken_eq_ok, Chain.loadMint_eq_ok,
    require_eq_ok, exists_const, pure_eq_ok] at moved
  obtain ⟨f₁, payer₁, t₁, pool₁, -, ⟨-, poolMint⟩, m₁, -, -, -, credit, rfl⟩ := moved
  have debited : f₁ = f.debit (bps cost burnBps) := by
    have after := payer₁
    simp only [SinkContext.sink, Store.get_modify_self] at after
    have before : s.tokens.get a.playerToken = some f := payer
    rw [before, Option.map_some, Option.some.injEq] at after
    exact after.symm
  subst debited
  -- the pool's account was there before the burn
  obtain ⟨t, pool, same_mint, credit'⟩ : ∃ t, s.tokens.get a.poolToken = some t ∧ t.mint = a.pageMint ∧
      (if a.poolToken = a.playerToken then f.amount - cost else t.amount) +
        (cost - bps cost burnBps) < 2 ^ 64 := by
    change (s.tokens.modify a.playerToken _).get a.poolToken = some t₁ at pool₁
    change (if a.poolToken = a.playerToken
      then f.amount - bps cost burnBps - (cost - bps cost burnBps) else t₁.amount) +
      (cost - bps cost burnBps) < 2 ^ 64 at credit
    by_cases self : a.poolToken = a.playerToken
    · rw [if_pos self] at credit
      refine ⟨f, by rw [self]; exact payer, payerMint, ?_⟩
      rw [if_pos self]
      have le := bps_le (show burnBps ≤ 10000 by decide) cost
      omega
    · rw [Store.get_modify_ne _ _ self] at pool₁
      rw [if_neg self] at credit
      exact ⟨t₁, pool₁, poolMint, by rwa [if_neg self]⟩
  exact ⟨m, f, t, ⟨signed, address, config, bump, page, mint, payer, payerMint, payerOwner, pool, same_mint,
    covered, supply, fits, credit'⟩, rfl⟩

theorem burn_eq_ok {src mint authority : Pubkey} {n : ℕ} {f : TokenAccount} {m : Mint}
    (hf : s.tokens.get src = some f) (hm : s.mints.get mint = some m) (covered : n ≤ f.amount)
    (same : f.mint = mint) (owner : f.owner = authority) (supply : n ≤ m.supply) :
    s.burn src mint authority n = .ok { s with
      tokens := s.tokens.modify src (TokenAccount.debit n)
      mints := s.mints.modify mint (Mint.burned n) } := by
  simp only [Chain.burn, bind_eq_ok, Chain.loadToken_eq_ok, Chain.loadMint_eq_ok, require_eq_ok,
    exists_const, pure_eq_ok]
  exact ⟨f, hf, m, hm, covered, same, owner, supply, trivial⟩

/-- A transfer whose two accounts may be one. -/
theorem transferChecked_of_credit {src mint dst authority : Pubkey} {n : ℕ} {f t : TokenAccount}
    {m : Mint} (h : Chain.Transferable s src mint dst authority n f t) (hm : s.mints.get mint = some m)
    (credit : (if dst = src then f.amount - n else t.amount) + n < 2 ^ 64) :
    s.transferChecked src mint dst authority n m.decimals =
      .ok { s with tokens := moveTokens s.tokens src dst n } := by
  simp only [Chain.transferChecked, bind_eq_ok, Chain.loadToken_eq_ok, Chain.loadMint_eq_ok,
    require_eq_ok, exists_const, pure_eq_ok]
  exact ⟨f, h.src, t, h.dst, h.covered, ⟨h.srcMint, h.dstMint⟩, m, hm, rfl, h.owner, credit, trivial⟩

/-- Once the accounts are as they must be, the sink settles. -/
theorem Chargeable.settles {m : Mint} {f t : TokenAccount} (table : Cost cost)
    (h : Chargeable s tx a cost c m f t) : a.load s tx = .ok c ∧ settleSink s a c ps cost event =
      .ok (s.sunk a cost c ps (event ⟨bps cost burnBps, cost - bps cost burnBps⟩)) := by
  have le := bps_le (show burnBps ≤ 10000 by decide) cost
  have covered := h.covered
  constructor
  · simp only [SinkContext.load, bind_eq_ok, Tx.signed_eq_ok, require_eq_ok, exists_const,
      Chain.loadConfig_eq_ok, Chain.loadMint_eq_ok, Chain.loadTokenOf_eq_ok,
      Chain.loadTokenOfMint_eq_ok, pure_eq_ok]
    exact ⟨h.signed, c, ⟨h.address, h.config, h.bump⟩, h.pageMint, m, h.mint, f,
      ⟨h.payer, h.payerMint, h.payerOwner⟩, t, ⟨h.pool, h.poolMint⟩, rfl⟩
  · obtain ⟨t₁, pool, poolMint, credit⟩ : ∃ t₁,
        (s.tokens.modify a.playerToken (TokenAccount.debit (bps cost burnBps))).get a.poolToken = some t₁ ∧
        t₁.mint = a.pageMint ∧ (if a.poolToken = a.playerToken
          then f.amount - bps cost burnBps - (cost - bps cost burnBps) else t₁.amount) +
          (cost - bps cost burnBps) < 2 ^ 64 := by
      have credit := h.credit
      by_cases self : a.poolToken = a.playerToken
      · rw [if_pos self] at credit
        refine ⟨f.debit (bps cost burnBps), ?_, h.payerMint, ?_⟩
        · rw [self, Store.get_modify_self, h.payer]
          rfl
        · rw [if_pos self]
          omega
      · rw [if_neg self] at credit
        refine ⟨t, ?_, h.poolMint, ?_⟩
        · rw [Store.get_modify_ne _ _ self]
          exact h.pool
        · rwa [if_neg self]
    have payer : (s.tokens.modify a.playerToken (TokenAccount.debit (bps cost burnBps))).get a.playerToken =
        some (f.debit (bps cost burnBps)) := by
      rw [Store.get_modify_self, h.payer]
      rfl
    have mint : (s.mints.modify a.pageMint (Mint.burned (bps cost burnBps))).get a.pageMint =
        some (m.burned (bps cost burnBps)) := by
      rw [Store.get_modify_self, h.mint]
      rfl
    have burnt : burnPart { s with players := s.players.set a.player ps } a.sink (bps cost burnBps) =
        .ok { s with
          players := s.players.set a.player ps
          tokens := s.tokens.modify a.playerToken (TokenAccount.debit (bps cost burnBps))
          mints := s.mints.modify a.pageMint (Mint.burned (bps cost burnBps)) } := by
      rw [burnPart, if_pos table.burned]
      exact burn_eq_ok h.payer h.mint (le.trans covered) h.payerMint h.payerOwner h.supply
    have moved := transferChecked_of_credit (n := cost - bps cost burnBps) (s := { s with
        players := s.players.set a.player ps
        tokens := s.tokens.modify a.playerToken (TokenAccount.debit (bps cost burnBps))
        mints := s.mints.modify a.pageMint (Mint.burned (bps cost burnBps)) })
      ⟨payer, pool, by show _ ≤ f.amount - bps cost burnBps; omega, h.payerMint, poolMint, h.payerOwner⟩
      mint credit
    have drained : applySink { s with players := s.players.set a.player ps } a.sink cost =
        .ok ({ s with
          players := s.players.set a.player ps
          tokens := sunkTokens s.tokens a.sink cost
          mints := s.mints.modify a.pageMint (Mint.burned (bps cost burnBps)) },
          ⟨bps cost burnBps, cost - bps cost burnBps⟩) := by
      simp only [applySink, bind_eq_ok, Chain.loadToken_eq_ok, Chain.loadMint_eq_ok, require_eq_ok,
        exists_const, pure_eq_ok]
      refine ⟨f, h.payer, covered, _, computeSplit_of_lt table.lt, m, h.mint, _, burnt, _, ?_, rfl⟩
      rw [poolPart, if_pos table.rest]
      exact moved
    simp only [settleSink, bind_eq_ok, checkedAdd_eq_ok, pure_eq_ok]
    exact ⟨_, drained, _, ⟨h.fits, rfl⟩, rfl⟩

/-- The four handlers as one: load the accounts, prepare the record, settle. -/
theorem handle_iff {ix : Instruction} (charge : ix.charge = some (a, cost)) :
    step s (.program tx ix) = .ok s' ↔ ∃ c ps event, a.load s tx = .ok c ∧
      Prepares c (s.players.get a.player) (s.bumpOf (.player a.player)) tx.now ix ps event ∧
      settleSink s a c ps cost event = .ok s' := by
  cases ix with
  | deployAgent x =>
    cases charge
    show deployAgentHandler s tx a = .ok s' ↔ _
    simp only [deployAgentHandler, initPlayerIfNeeded, bind_eq_ok, require_eq_ok, exists_const,
      pure_eq_ok]
    constructor
    · rintro ⟨c, loaded, ps, ⟨address, rfl⟩, idle, settled⟩
      exact ⟨c, _, _, loaded, ⟨address, idle, rfl, rfl⟩, settled⟩
    · rintro ⟨c, _, _, loaded, ⟨address, idle, rfl, rfl⟩, settled⟩
      exact ⟨c, loaded, _, ⟨address, rfl⟩, idle, settled⟩
  | catchAttempt x rarity =>
    simp only [Instruction.charge, Option.map_eq_some_iff, Prod.mk.injEq] at charge
    obtain ⟨n, price, rfl, rfl⟩ := charge
    have price_eq : catchCostForRarity rarity.toNat = .ok n := by
      cases known : catchCostForRarity rarity.toNat with
      | ok k => rw [known] at price; exact congrArg _ (Option.some.inj price)
      | error e => rw [known] at price; cases price
    show catchAttemptHandler s tx x rarity.toNat = .ok s' ↔ _
    simp only [catchAttemptHandler, bind_eq_ok, Chain.loadPlayer_eq_ok, require_eq_ok, exists_const,
      checkedAdd_eq_ok, price_eq]
    constructor
    · rintro ⟨c, loaded, ps, ⟨address, record, bump, owner⟩, open_, deployed, _, ⟨⟩, _, ⟨fits, rfl⟩, settled⟩
      exact ⟨c, _, _, loaded, ⟨ps, record, ⟨address, bump, owner⟩, open_, deployed, fits, rfl, rfl⟩, settled⟩
    · rintro ⟨c, _, _, loaded, ⟨ps, record, ⟨address, bump, owner⟩, open_, deployed, fits, rfl, rfl⟩, settled⟩
      exact ⟨c, loaded, ps, ⟨address, record, bump, owner⟩, open_, deployed, n, rfl, _, ⟨fits, rfl⟩, settled⟩
  | gymChallenge x i =>
    cases charge
    show gymChallengeHandler s tx a i.toNat = .ok s' ↔ _
    simp only [gymChallengeHandler, bind_eq_ok, Chain.loadPlayer_eq_ok, require_eq_ok, exists_const]
    constructor
    · rintro ⟨c, loaded, ps, ⟨address, record, bump, owner⟩, deployed, below, fits, settled⟩
      exact ⟨c, _, _, loaded, ⟨ps, record, ⟨address, bump, owner⟩, deployed, below, fits, rfl, rfl⟩, settled⟩
    · rintro ⟨c, _, _, loaded, ⟨ps, record, ⟨address, bump, owner⟩, deployed, below, fits, rfl, rfl⟩, settled⟩
      exact ⟨c, loaded, ps, ⟨address, record, bump, owner⟩, deployed, below, fits, settled⟩
  | forceEvolve x =>
    cases charge
    show forceEvolveHandler s tx a = .ok s' ↔ _
    simp only [forceEvolveHandler, bind_eq_ok, Chain.loadPlayer_eq_ok, require_eq_ok, exists_const]
    constructor
    · rintro ⟨c, loaded, ps, ⟨address, record, bump, owner⟩, deployed, settled⟩
      exact ⟨c, _, _, loaded, ⟨ps, record, ⟨address, bump, owner⟩, deployed, rfl, rfl⟩, settled⟩
    · rintro ⟨c, _, _, loaded, ⟨ps, record, ⟨address, bump, owner⟩, deployed, rfl, rfl⟩, settled⟩
      exact ⟨c, loaded, ps, ⟨address, record, bump, owner⟩, deployed, settled⟩
  | _ => cases charge

/-- **A sink in full:** when it succeeds, and the chain it leaves. -/
theorem sink_iff {ix : Instruction} (charge : ix.charge = some (a, cost)) :
    step s (.program tx ix) = .ok s' ↔ ∃ c m f t ps event, Chargeable s tx a cost c m f t ∧
      Prepares c (s.players.get a.player) (s.bumpOf (.player a.player)) tx.now ix ps event ∧
      s' = s.sunk a cost c ps (event ⟨bps cost burnBps, cost - bps cost burnBps⟩) := by
  have table := Instruction.cost_of_charge charge
  rw [handle_iff charge]
  constructor
  · rintro ⟨c, ps, event, loaded, prepared, settled⟩
    obtain ⟨m, f, t, ready, after⟩ := settleSink_chargeable table loaded settled
    exact ⟨c, m, f, t, ps, event, ready, prepared, after⟩
  · rintro ⟨c, m, f, t, ps, event, ready, prepared, rfl⟩
    obtain ⟨loaded, settled⟩ := ready.settles table
    exact ⟨c, ps, event, loaded, prepared, settled⟩

end Sink

/-! ## Two sinks -/

/-- What a sink makes of the token account at `k`. -/
def sinkAt (a : SinkContext) (cost : ℕ) (k : Pubkey) (t : TokenAccount) : TokenAccount :=
  let t := if k = a.playerToken
    then (t.debit (bps cost burnBps)).debit (cost - bps cost burnBps) else t
  if k = a.poolToken then t.credit (cost - bps cost burnBps) else t

theorem get_sunkTokens (T : Tokens) (a : SinkContext) (cost : ℕ) (k : Pubkey) :
    (sunkTokens T a.sink cost).get k = (T.get k).map (sinkAt a cost k) := by
  unfold sunkTokens moveTokens sinkAt SinkContext.sink
  simp only [Store.get_modify]
  by_cases pool : k = a.poolToken
  · subst pool
    by_cases payer : a.poolToken = a.playerToken
    · simp [payer, Function.comp_def]
    · simp [payer]
  · by_cases payer : k = a.playerToken
    · subst payer
      simp [pool, Function.comp_def]
    · simp [pool, payer]

section SinkAt

variable {a : SinkContext} {cost : ℕ} {k : Pubkey} {t : TokenAccount}

@[simp] theorem sinkAt_mint : (sinkAt a cost k t).mint = t.mint := by
  unfold sinkAt
  split <;> split <;> rfl

@[simp] theorem sinkAt_owner : (sinkAt a cost k t).owner = t.owner := by
  unfold sinkAt
  split <;> split <;> rfl

theorem sinkAt_of_ne (payer : k ≠ a.playerToken) (pool : k ≠ a.poolToken) : sinkAt a cost k t = t := by
  unfold sinkAt
  rw [if_neg payer, if_neg pool]

theorem sinkAt_pool (payer : k ≠ a.playerToken) (pool : k = a.poolToken) :
    sinkAt a cost k t = t.credit (cost - bps cost burnBps) := by
  unfold sinkAt
  rw [if_neg payer, if_pos pool]

end SinkAt

/-- Two sinks of different players, none of which pays out of an account that the other pays into. -/
structure Apart (a b : SinkContext) : Prop where
  player : a.player ≠ b.player
  payer : a.playerToken ≠ b.playerToken
  left : a.poolToken ≠ b.playerToken
  right : b.poolToken ≠ a.playerToken

theorem Apart.symm {a b : SinkContext} (h : Apart a b) : Apart b a :=
  ⟨h.player.symm, h.payer.symm, h.right, h.left⟩

section Two

variable {s : Chain} {tx tx' : Tx} {a b : SinkContext} {cost cost' : ℕ} {c c' : Config} {m m' : Mint}
  {f f' t t' : TokenAccount} {ps ps' : PlayerState} {ev ev' : Event}

/-- Two sinks change an account in whichever order. -/
theorem sinkAt_comm (apart : Apart a b) (k : Pubkey) (t : TokenAccount) :
    sinkAt a cost k (sinkAt b cost' k t) = sinkAt b cost' k (sinkAt a cost k t) := by
  by_cases here : k = a.playerToken
  · have other : ∀ u, sinkAt b cost' k u = u := fun u =>
      sinkAt_of_ne (by rw [here]; exact apart.payer) (by rw [here]; exact apart.right.symm)
    rw [other, other]
  · by_cases there : k = b.playerToken
    · have other : ∀ u, sinkAt a cost k u = u := fun u =>
        sinkAt_of_ne here (by rw [there]; exact apart.left.symm)
      rw [other, other]
    · -- neither payer: at most two credits
      unfold sinkAt
      simp only [if_neg here, if_neg there]
      split <;> split <;> simp only [TokenAccount.credit, Nat.add_right_comm]

/-- **After another player's sink a sink finds what it found before,** but for the counter, the supply
and what has come into the pool's account. -/
theorem Chargeable.sunk (apart : Apart a b) (ready : Chargeable s tx a cost c m f t)
    (other : Chargeable s tx' b cost' c m' f' t')
    (supply : bps cost burnBps + bps cost' burnBps ≤ m.supply)
    (fits : c.totalBurned + bps cost' burnBps + bps cost burnBps < 2 ^ 64)
    (credit : a.poolToken ≠ a.playerToken → (sinkAt b cost' a.poolToken t).amount +
      (cost - bps cost burnBps) < 2 ^ 64) :
    Chargeable (s.sunk b cost' c ps' ev') tx a cost (c.counted (bps cost' burnBps))
      (m.burned (bps cost' burnBps)) f (sinkAt b cost' a.poolToken t) := by
  have page : b.pageMint = a.pageMint := other.pageMint.trans ready.pageMint.symm
  refine ⟨ready.signed, ready.address, rfl, ready.bump, ready.pageMint, ?_, ?_, ready.payerMint,
    ready.payerOwner, ?_, ?_, ready.covered, ?_, fits, ?_⟩
  · show (s.mints.modify b.pageMint _).get a.pageMint = _
    rw [page, Store.get_modify_self, ready.mint]
    rfl
  · show (sunkTokens s.tokens b.sink cost').get a.playerToken = _
    rw [get_sunkTokens, ready.payer, Option.map_some, sinkAt_of_ne apart.payer apart.right.symm]
  · show (sunkTokens s.tokens b.sink cost').get a.poolToken = _
    rw [get_sunkTokens, ready.pool, Option.map_some]
  · rw [sinkAt_mint]
    exact ready.poolMint
  · show bps cost burnBps ≤ m.supply - bps cost' burnBps
    omega
  · have before := ready.credit
    by_cases self : a.poolToken = a.playerToken
    · rw [if_pos self] at before ⊢
      exact before
    · rw [if_neg self]
      exact credit self

/-- Read backwards: what a sink found after another player's, it finds before it as well. -/
theorem Chargeable.of_sunk (apart : Apart a b) (other : Chargeable s tx' b cost' c m' f' t')
    (ready : Chargeable (s.sunk b cost' c ps' ev') tx a cost c' m f t) :
    c' = c.counted (bps cost' burnBps) ∧ m = m'.burned (bps cost' burnBps) ∧
      ∃ u, t = sinkAt b cost' a.poolToken u ∧ Chargeable s tx a cost c m' f u := by
  obtain rfl : c.counted (bps cost' burnBps) = c' := Option.some.inj ready.config
  have page : b.pageMint = a.pageMint := other.pageMint.trans ready.pageMint.symm
  have mint : (s.mints.modify b.pageMint (Mint.burned (bps cost' burnBps))).get a.pageMint = some m :=
    ready.mint
  rw [page, Store.get_modify_self, ← page, other.mint] at mint
  obtain rfl : m'.burned (bps cost' burnBps) = m := Option.some.inj mint
  have payer : (sunkTokens s.tokens b.sink cost').get a.playerToken = some f := ready.payer
  rw [get_sunkTokens] at payer
  obtain ⟨g, there, same⟩ := Option.map_eq_some_iff.1 payer
  rw [sinkAt_of_ne apart.payer apart.right.symm] at same
  subst same
  have pool : (sunkTokens s.tokens b.sink cost').get a.poolToken = some t := ready.pool
  rw [get_sunkTokens] at pool
  obtain ⟨u, held, rfl⟩ := Option.map_eq_some_iff.1 pool
  refine ⟨rfl, rfl, u, rfl, ready.signed, ready.address, other.config, ready.bump, ready.pageMint, ?_,
    there, ready.payerMint, ready.payerOwner, held, ?_, ready.covered, ?_, ?_, ?_⟩
  · rw [← page]
    exact other.mint
  · have same := ready.poolMint
    rwa [sinkAt_mint] at same
  · have supply := ready.supply
    exact supply.trans (Nat.sub_le _ _)
  · have fits : c.totalBurned + bps cost' burnBps + bps cost burnBps < 2 ^ 64 := ready.fits
    omega
  · have credit := ready.credit
    by_cases self : a.poolToken = a.playerToken
    · rwa [if_pos self] at credit ⊢
    · rw [if_neg self] at credit ⊢
      -- the other sink has taken nothing out of the pool's account
      have more : u.amount ≤ (sinkAt b cost' a.poolToken u).amount := by
        unfold sinkAt
        rw [if_neg apart.left]
        split
        · exact Nat.le_add_right _ _
        · exact le_rfl
      omega

/-- The pool's account has room for both in the one order if it has in the other. -/
theorem credit_sunk (apart : Apart a b) (ready : Chargeable s tx a cost c m f t)
    (other : Chargeable s tx' b cost' c m f' t')
    (after : (if b.poolToken = b.playerToken then f'.amount - cost'
      else (sinkAt a cost b.poolToken t').amount) + (cost' - bps cost' burnBps) < 2 ^ 64)
    (foreign : a.poolToken ≠ a.playerToken) :
    (sinkAt b cost' a.poolToken t).amount + (cost - bps cost burnBps) < 2 ^ 64 := by
  by_cases same : a.poolToken = b.poolToken
  · have pool := ready.pool
    rw [same, other.pool] at pool
    obtain rfl := Option.some.inj pool
    rw [if_neg (by rw [← same]; exact apart.left), sinkAt_pool apart.right same.symm,
      TokenAccount.credit_amount] at after
    rw [sinkAt_pool apart.left same, TokenAccount.credit_amount]
    omega
  · have credit := ready.credit
    rw [if_neg foreign] at credit
    rwa [sinkAt_of_ne apart.left same]

end Two

/-! ## Any order -/

/-- Two chains with the same accounts and the same events, logged in some order. -/
structure SameAccounts (s t : Chain) : Prop where
  accounts : t = { s with events := t.events }
  events : s.events.Perm t.events

/-- Whether two actions are sinks apart from one another. -/
def Independent : Action → Action → Prop
  | .program _ ix, .program _ jx =>
    ∃ a cost b cost', ix.charge = some (a, cost) ∧ jx.charge = some (b, cost') ∧ Apart a b
  | _, _ => False

/-- Whether an action is one of the four sinks. -/
def Action.isSink (x : Action) : Prop :=
  ∃ tx ix a cost, x = .program tx ix ∧ ix.charge = some (a, cost)

section Order

variable {s s' : Chain} {a b : SinkContext} {cost cost' : ℕ} {c : Config} {ps ps' : PlayerState}
  {ev ev' : Event}

/-- Both orders leave the same accounts. -/
theorem sunk_comm (apart : Apart a b) (page : a.pageMint = b.pageMint) :
    SameAccounts ((s.sunk a cost c ps ev).sunk b cost' (c.counted (bps cost burnBps)) ps' ev')
      ((s.sunk b cost' c ps' ev').sunk a cost (c.counted (bps cost' burnBps)) ps ev) where
  accounts := by
    have players : (s.players.set b.player ps').set a.player ps =
        (s.players.set a.player ps).set b.player ps' := by
      ext1 k
      simp only [Store.get_set]
      by_cases here : k = a.player
      · rw [if_pos here, if_neg (by rw [here]; exact apart.player), if_pos here]
      · rw [if_neg here, if_neg here]
    have tokens : sunkTokens (sunkTokens s.tokens b.sink cost') a.sink cost =
        sunkTokens (sunkTokens s.tokens a.sink cost) b.sink cost' := by
      ext1 k
      simp only [get_sunkTokens, Option.map_map, Function.comp_def, sinkAt_comm apart k]
    have mints : (s.mints.modify b.pageMint (Mint.burned (bps cost' burnBps))).modify a.pageMint
        (Mint.burned (bps cost burnBps)) = (s.mints.modify a.pageMint (Mint.burned
        (bps cost burnBps))).modify b.pageMint (Mint.burned (bps cost' burnBps)) := by
      ext1 k
      rw [page]
      simp only [Store.get_modify, if_true, Option.map_map, Function.comp_def, Mint.burned,
        Nat.sub_right_comm]
      split <;> rfl
    have counted : (c.counted (bps cost' burnBps)).counted (bps cost burnBps) =
        (c.counted (bps cost burnBps)).counted (bps cost' burnBps) := by
      simp only [Config.counted, Nat.add_right_comm]
    unfold Chain.sunk
    simp only [players, tokens, mints, counted]
  events := .swap _ _ _

/-- Counting a burn changes nothing a handler asks of the config. -/
theorem Prepares.counted {record : Option PlayerState} {bump n : ℕ} {now : ℤ} {ix : Instruction}
    {event : SinkSplit → Event} (h : Prepares c record bump now ix ps event) :
    Prepares (c.counted n) record bump now ix ps event := by
  cases ix <;> exact h

theorem Prepares.of_counted {record : Option PlayerState} {bump n : ℕ} {now : ℤ} {ix : Instruction}
    {event : SinkSplit → Event} (h : Prepares (c.counted n) record bump now ix ps event) :
    Prepares c record bump now ix ps event := by
  cases ix <;> exact h

/-- **Two sinks apart can be swapped.** -/
theorem step_swap {x y : Action} {s₁ s₂ : Chain} (indep : Independent x y) (first : step s x = .ok s₁)
    (second : step s₁ y = .ok s₂) :
    ∃ t₁ t₂, step s y = .ok t₁ ∧ step t₁ x = .ok t₂ ∧ SameAccounts s₂ t₂ := by
  cases x with
  | external tx e => cases indep
  | program tx ix =>
    cases y with
    | external tx' e => cases indep
    | program tx' jx =>
      obtain ⟨a, cost, b, cost', charge, charge', apart⟩ := indep
      obtain ⟨c, m, f, t, ps, event, ready, prepared, rfl⟩ := (sink_iff charge).1 first
      obtain ⟨c', m', f', t', ps', event', ready', prepared', rfl⟩ := (sink_iff charge').1 second
      have supply' := ready'.supply
      have fits' := ready'.fits
      have credit' := ready'.credit
      obtain ⟨rfl, rfl, u, rfl, other⟩ := Chargeable.of_sunk apart.symm ready ready'
      have page : a.pageMint = b.pageMint := ready.pageMint.trans other.pageMint.symm
      -- each player's record is where it was
      have record : ((s.players.set a.player ps).get b.player) = s.players.get b.player :=
        Store.get_set_ne _ _ apart.player.symm
      have record' : ((s.players.set b.player ps').get a.player) = s.players.get a.player :=
        Store.get_set_ne _ _ apart.player
      change Prepares _ ((s.players.set a.player ps).get b.player) (s.bumpOf _) _ _ _ _ at prepared'
      rw [record] at prepared'
      refine ⟨_, _, (sink_iff charge').2 ⟨c, m, f', u, ps', event', other, prepared'.of_counted, rfl⟩,
        (sink_iff charge).2 ⟨_, _, f, _, ps, event, ready.sunk apart other ?_ ?_
          (credit_sunk apart ready other credit'), ?_, rfl⟩, sunk_comm apart page⟩
      · have supply := ready.supply
        simp only [Mint.burned] at supply'
        omega
      · simp only [Config.counted] at fits'
        omega
      · show Prepares _ ((s.players.set b.player ps').get a.player) (s.bumpOf _) _ _ _ _
        rw [record']
        exact prepared.counted

/-- Another log leaves a sink all it needs. -/
theorem Chargeable.of_events {tx : Tx} {m : Mint} {f t : TokenAccount} {es : List Event}
    (h : Chargeable s tx a cost c m f t) : Chargeable { s with events := es } tx a cost c m f t :=
  ⟨h.signed, h.address, h.config, h.bump, h.pageMint, h.mint, h.payer, h.payerMint, h.payerOwner, h.pool,
    h.poolMint, h.covered, h.supply, h.fits, h.credit⟩

/-- No sink reads the log. -/
theorem step_congr {x : Action} {t : Chain} (sink : x.isSink) (same : SameAccounts s t)
    (stepped : step s x = .ok s') : ∃ t', step t x = .ok t' ∧ SameAccounts s' t' := by
  obtain ⟨tx, ix, a, cost, rfl, charge⟩ := sink
  obtain ⟨c, m, f, u, ps, event, ready, prepared, rfl⟩ := (sink_iff charge).1 stepped
  have accounts := same.accounts
  have events := same.events
  generalize t.events = es at accounts events
  subst accounts
  exact ⟨_, (sink_iff charge).2 ⟨c, m, f, u, ps, event, ready.of_events, prepared, rfl⟩, rfl,
    events.cons _⟩

/-- The rules of `Infra.Commute` for the sinks. -/
theorem commuting_sinks : Commuting step Action.isSink SameAccounts Independent where
  refl s := ⟨rfl, .refl _⟩
  trans s t u h h' := ⟨by rw [h'.accounts, h.accounts], h.events.trans h'.events⟩
  symm x y h := by
    cases x with
    | external tx e => cases h
    | program tx ix =>
      cases y with
      | external tx' e => cases h
      | program tx' jx =>
        obtain ⟨a, cost, b, cost', charge, charge', apart⟩ := h
        exact ⟨b, cost', a, cost, charge', charge, apart.symm⟩
  congr s t x s' sink same stepped := step_congr sink same stepped
  swap s x y s₁ s₂ indep first second := step_swap indep first second

end Order

/-- **Players' calls in any order.** When calls of different players, none of which pays out of an
account that another pays into, have all succeeded, then in every other order all of them succeed as
well, and leave the same accounts. -/
theorem sinks_any_order (s s' : Chain) (calls calls' : List Action) (perm : calls.Perm calls')
    (sinks : ∀ x ∈ calls, x.isSink) (apart : calls.Pairwise Independent)
    (done : Steps step s calls s') : ∃ t, Steps step s calls' t ∧ SameAccounts s' t :=
  done.perm commuting_sinks perm sinks apart

/-- A player deploys an agent, paying from the given account into account 10. -/
def deployBy (player account : ℕ) : Action :=
  .program (.by [player] 0) (.deployAgent
    { player := .key player, playerState := .player (.key player), config := .config,
      pageMint := .key 2, playerToken := .key account, poolToken := .key 10 })

/-- Users 6 and 7 deploy their agents in either order. -/
theorem sinks_any_order_deploy : ∃ s' t,
    Steps step (run step .standard (fundSink ++ fundTokens 11 7 1000000000))
      [deployBy 6 9, deployBy 7 11] s' ∧
    Steps step (run step .standard (fundSink ++ fundTokens 11 7 1000000000))
      [deployBy 7 11, deployBy 6 9] t ∧ SameAccounts s' t := by
  have first : (step (run step .standard (fundSink ++ fundTokens 11 7 1000000000))
      (deployBy 6 9)).isOk := by decide +kernel
  have second : (step (exec step (run step .standard (fundSink ++ fundTokens 11 7 1000000000))
      (deployBy 6 9)) (deployBy 7 11)).isOk := by decide +kernel
  have steps : Steps step (run step .standard (fundSink ++ fundTokens 11 7 1000000000))
      [deployBy 6 9, deployBy 7 11] _ := .cons (step_exec first) (.cons (step_exec second) (.nil _))
  have apart : Independent (deployBy 6 9) (deployBy 7 11) :=
    ⟨_, _, _, _, rfl, rfl, by decide, by decide, by decide, by decide⟩
  obtain ⟨t, others, same⟩ := sinks_any_order _ _ [deployBy 6 9, deployBy 7 11]
    [deployBy 7 11, deployBy 6 9] (.swap _ _ _) (by
      intro x hx
      simp only [List.mem_cons, List.not_mem_nil, or_false] at hx
      rcases hx with rfl | rfl <;> exact ⟨_, _, _, _, rfl, rfl⟩) (by simpa using apart) steps
  exact ⟨_, t, steps, others, same⟩

end Pokeage
