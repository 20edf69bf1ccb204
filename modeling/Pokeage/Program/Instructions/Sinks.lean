import Pokeage.Program.Shared

/-!
# The token sinks

`deploy_agent`, `catch_attempt`, `gym_challenge` and `force_evolve`. The four contexts declare the
same accounts and the four handlers end alike (`settleSink`); they differ in the gate, in what they
write into the player's record and in the cost.

`SinkOk` says everything a successful sink did. Each handler's `_ok` lemma gives it together with
what the handler's own gate established.
-/

namespace Pokeage

open Infra Infra.Balance

/-- The accounts of a sink, as the caller names them. -/
structure SinkContext where
  player : Pubkey
  playerState : Pubkey
  config : Pubkey
  pageMint : Pubkey
  playerToken : Pubkey
  poolToken : Pubkey
  deriving DecidableEq

/-- The accounts of `deploy_agent`. -/
abbrev DeployAgent := SinkContext
/-- The accounts of `catch_attempt`. -/
abbrev CatchAttempt := SinkContext
/-- The accounts of `gym_challenge`. -/
abbrev GymChallenge := SinkContext
/-- The accounts of `force_evolve`. -/
abbrev ForceEvolve := SinkContext

namespace SinkContext

/-- The constraints the four contexts share, the player's record apart. `pool_token` is held to the
mint alone. -/
def load (a : SinkContext) (s : Chain) (tx : Tx) : Result Config := do
  tx.signed a.player
  let config ← s.loadConfig a.config
  require (a.pageMint = config.pageMint) (.anchor .constraintAddress)
  let _ ← s.loadMint a.pageMint
  let _ ← s.loadTokenOf a.playerToken a.pageMint a.player
  let _ ← s.loadTokenOfMint a.poolToken a.pageMint
  return config

/-- The accounts handed on to `apply_sink`. -/
def sink (a : SinkContext) : SinkAccounts where
  pageMint := a.pageMint
  payerToken := a.playerToken
  poolToken := a.poolToken
  payer := a.player

end SinkContext

/-- The common end: store the player's record, run the sink, count the burn, emit. -/
def settleSink (s : Chain) (a : SinkContext) (config : Config) (ps : PlayerState) (cost : ℕ)
    (event : SinkSplit → Event) : Result Chain := do
  let (s, split) ← applySink { s with players := s.players.set a.player ps } a.sink cost
  let totalBurned ← checkedAdd config.totalBurned split.burned
  let s : Chain := { s with config := some { config with totalBurned } }
  return s.emit (event split)

/-- A zeroed or loaded record for `init_if_needed`. -/
def initPlayerIfNeeded (s : Chain) (k player : Pubkey) : Result PlayerState := do
  require (k = .player player) (.anchor .constraintSeeds)
  return (s.players.get player).getD .zeroed

/-- Deploy the agent of a player, once. -/
def deployAgentHandler (s : Chain) (tx : Tx) (a : DeployAgent) : Result Chain := do
  let config ← a.load s tx
  let ps ← initPlayerIfNeeded s a.playerState a.player
  require (ps.agentDeployed = false) (.pokeage .agentAlreadyDeployed)
  let ps := { ps with
    owner := a.player
    agentDeployed := true
    lastAction := tx.now
    bump := if ps.bump = 0 then s.bumpOf (.player a.player) else ps.bump }
  settleSink s a config ps deployCost fun split => .agentDeployed a.player split.burned

/-- Pay for a catch at the cost of its rarity. -/
def catchAttemptHandler (s : Chain) (tx : Tx) (a : CatchAttempt) (rarity : ℕ) : Result Chain := do
  let config ← a.load s tx
  let ps ← s.loadPlayer a.playerState a.player
  require (config.isPaused Config.pauseCatch = false) (.pokeage .featurePaused)
  require (ps.agentDeployed = true) (.pokeage .agentNotDeployed)
  let cost ← catchCostForRarity rarity
  let totalCaught ← checkedAdd ps.totalCaught 1
  let ps := { ps with totalCaught, lastAction := tx.now }
  settleSink s a config ps cost fun split =>
    .catchAttempted a.player rarity split.burned split.toPool

/-- Pay for a gym win and its badge. -/
def gymChallengeHandler (s : Chain) (tx : Tx) (a : GymChallenge) (badgeIndex : ℕ) :
    Result Chain := do
  let config ← a.load s tx
  let ps ← s.loadPlayer a.playerState a.player
  require (ps.agentDeployed = true) (.pokeage .agentNotDeployed)
  require (badgeIndex < badgeCount) (.pokeage .invalidBadgeIndex)
  let ps := ps.setBadge badgeIndex
  -- the win counter is a `u32`
  require (ps.gymWins + 1 < 2 ^ 32) (.pokeage .mathOverflow)
  let ps := { ps with gymWins := ps.gymWins + 1, lastAction := tx.now }
  settleSink s a config ps gymCost fun _ => .gymChallenged a.player badgeIndex

/-- Pay for an evolution. -/
def forceEvolveHandler (s : Chain) (tx : Tx) (a : ForceEvolve) : Result Chain := do
  let config ← a.load s tx
  let ps ← s.loadPlayer a.playerState a.player
  require (ps.agentDeployed = true) (.pokeage .agentNotDeployed)
  let ps := { ps with lastAction := tx.now }
  settleSink s a config ps forceEvolveCost fun split => .evolved a.player split.burned

/-! ## What a sink does -/

/-- Everything a successful sink of `cost` did: `c` was the config, `m` the mint of $PAGE, `f` and
`t` the player's and the pool's token account, `ps` the record it stored. -/
structure SinkOk (s : Chain) (tx : Tx) (a : SinkContext) (cost : ℕ) (c : Config) (m : Mint)
    (f t : TokenAccount) (ps : PlayerState) (s' : Chain) : Prop where
  signed : a.player ∈ tx.signers
  config : s.config = some c
  pageMint : a.pageMint = c.pageMint
  mint : s.mints.get a.pageMint = some m
  payer : s.tokens.get a.playerToken = some f
  payerMint : f.mint = a.pageMint
  payerOwner : f.owner = a.player
  pool : s.tokens.get a.poolToken = some t
  poolMint : t.mint = a.pageMint
  covered : cost ≤ f.amount
  supply : bps cost burnBps ≤ m.supply
  fits : c.totalBurned + bps cost burnBps < 2 ^ 64
  after : ∃ ev, s' = { s with
    config := some { c with totalBurned := c.totalBurned + bps cost burnBps }
    players := s.players.set a.player ps
    tokens := sunkTokens s.tokens a.sink cost
    mints := s.mints.modify a.pageMint (Mint.burned (bps cost burnBps))
    events := ev :: s.events }

/-- A sink burned one part out of the supply and moved the other to the pool account it names. -/
def Splits (s s' : Chain) (a : SinkContext) (burned toPool : ℕ) : Prop :=
  ∃ m, s.mints.get a.pageMint = some m ∧ burned ≤ m.supply ∧
    s'.mints.get a.pageMint = some (m.burned burned) ∧
    s'.tokens = moveTokens (s.tokens.modify a.playerToken (TokenAccount.debit burned))
      a.playerToken a.poolToken toPool

theorem SinkOk.splits {s s' : Chain} {tx : Tx} {a : SinkContext} {cost : ℕ} {c : Config} {m : Mint}
    {f t : TokenAccount} {ps : PlayerState} (h : SinkOk s tx a cost c m f t ps s') :
    Splits s s' a (bps cost burnBps) (cost - bps cost burnBps) := by
  have hm := h.mint
  have hs := h.supply
  obtain ⟨ev, rfl⟩ := h.after
  refine ⟨m, hm, hs, ?_, rfl⟩
  show (s.mints.modify a.pageMint _).get a.pageMint = _
  rw [Store.get_modify_self, hm]
  rfl

/-- The two accounts of the transfer once the burn part is gone. -/
theorem SinkOk.debited {s s' : Chain} {tx : Tx} {a : SinkContext} {cost : ℕ} {c : Config} {m : Mint}
    {f t : TokenAccount} {ps : PlayerState} (ok : SinkOk s tx a cost c m f t ps s') :
    (s.tokens.modify a.playerToken (TokenAccount.debit (bps cost burnBps))).get a.playerToken
        = some (f.debit (bps cost burnBps)) ∧
      ∃ t₁, (s.tokens.modify a.playerToken (TokenAccount.debit (bps cost burnBps))).get a.poolToken
        = some t₁ ∧ t₁.mint = a.pageMint ∧ t₁.owner = t.owner ∧
        (a.poolToken ≠ a.playerToken → t₁ = t) := by
  constructor
  · rw [Store.get_modify_self, ok.payer]
    rfl
  · by_cases hp : a.poolToken = a.playerToken
    · have hft : f = t := by
        have hpool := ok.pool
        rw [hp, ok.payer] at hpool
        exact Option.some.inj hpool
      refine ⟨f.debit (bps cost burnBps), ?_, ok.payerMint, by rw [hft]; rfl,
        fun h => absurd hp h⟩
      rw [hp, Store.get_modify_self, ok.payer]
      rfl
    · exact ⟨t, by rw [Store.get_modify_ne _ _ hp, ok.pool], ok.poolMint, rfl, fun _ => rfl⟩

theorem SinkContext.load_ok {s : Chain} {tx : Tx} {a : SinkContext} {c : Config}
    (h : a.load s tx = .ok c) :
    a.player ∈ tx.signers ∧ s.config = some c ∧ a.pageMint = c.pageMint ∧
      ∃ f, s.tokens.get a.playerToken = some f ∧ f.mint = a.pageMint ∧ f.owner = a.player := by
  simp only [load, bind_eq_ok, Tx.signed_eq_ok, require_eq_ok, exists_const,
    Chain.loadConfig_eq_ok, Chain.loadTokenOf_eq_ok, pure_eq_ok] at h
  obtain ⟨hs, c', ⟨-, hc, -⟩, hp, -, -, f, hf, -, -, rfl⟩ := h
  exact ⟨hs, hc, hp, f, hf⟩

theorem settleSink_ok {s s' : Chain} {tx : Tx} {a : SinkContext} {c : Config}
    {ps : PlayerState} {cost : ℕ} {event : SinkSplit → Event} (hl : a.load s tx = .ok c)
    (h2 : 2 ≤ cost) (h : settleSink s a c ps cost event = .ok s') :
    ∃ m f t, SinkOk s tx a cost c m f t ps s' := by
  obtain ⟨hsig, hc, hp, -⟩ := SinkContext.load_ok hl
  simp only [settleSink, bind_eq_ok, checkedAdd_eq_ok, pure_eq_ok] at h
  obtain ⟨⟨s₁, split⟩, hsink, b, ⟨hfit, rfl⟩, rfl⟩ := h
  obtain ⟨f, t, m, hf, ht, hm, hfm, hfo, htm, hcov, hsup, rfl, rfl⟩ := applySink_ok h2 hsink
  exact ⟨m, f, t, ⟨hsig, hc, hp, hm, hf, hfm, hfo, ht, htm, hcov, hsup, hfit, _, rfl⟩⟩

/-- A deploy finds no deployed agent and leaves one. -/
theorem deployAgentHandler_ok {s s' : Chain} {tx : Tx} {a : DeployAgent}
    (h : deployAgentHandler s tx a = .ok s') :
    ∃ c m f t ps, ps = (s.players.get a.player).getD .zeroed ∧ ps.agentDeployed = false ∧
      SinkOk s tx a deployCost c m f t { ps with
        owner := a.player
        agentDeployed := true
        lastAction := tx.now
        bump := if ps.bump = 0 then s.bumpOf (.player a.player) else ps.bump } s' := by
  simp only [deployAgentHandler, initPlayerIfNeeded, bind_eq_ok, require_eq_ok, exists_const,
    pure_eq_ok] at h
  obtain ⟨c, hl, ps, ⟨-, rfl⟩, hd, h⟩ := h
  obtain ⟨m, f, t, hok⟩ := settleSink_ok hl (by decide) h
  exact ⟨c, m, f, t, _, rfl, hd, hok⟩

/-- A catch is charged to a deployed agent while catching is not paused. -/
theorem catchAttemptHandler_ok {s s' : Chain} {tx : Tx} {a : CatchAttempt} {rarity : ℕ}
    (h : catchAttemptHandler s tx a rarity = .ok s') :
    ∃ cost c m f t ps, catchCostForRarity rarity = .ok cost ∧
      s.players.get a.player = some ps ∧ ps.agentDeployed = true ∧
      c.isPaused Config.pauseCatch = false ∧ ps.totalCaught + 1 < 2 ^ 64 ∧
      SinkOk s tx a cost c m f t
        { ps with totalCaught := ps.totalCaught + 1, lastAction := tx.now } s' := by
  simp only [catchAttemptHandler, bind_eq_ok, Chain.loadPlayer_eq_ok, require_eq_ok, exists_const,
    checkedAdd_eq_ok] at h
  obtain ⟨c, hl, ps, ⟨-, hps, -, -⟩, hpause, hd, cost, hcost, n, ⟨hn, rfl⟩, h⟩ := h
  have h2 : 2 ≤ cost := by
    unfold catchCostForRarity at hcost
    split at hcost <;> cases hcost <;> decide
  obtain ⟨m, f, t, hok⟩ := settleSink_ok hl h2 h
  exact ⟨cost, c, m, f, t, ps, hcost, hps, hd, hpause, hn, hok⟩

/-- A gym challenge sets the badge it names and counts a win. -/
theorem gymChallengeHandler_ok {s s' : Chain} {tx : Tx} {a : GymChallenge} {i : ℕ}
    (h : gymChallengeHandler s tx a i = .ok s') :
    ∃ c m f t ps, s.players.get a.player = some ps ∧ ps.agentDeployed = true ∧ i < badgeCount ∧
      ps.gymWins + 1 < 2 ^ 32 ∧
      SinkOk s tx a gymCost c m f t { ps with
        badges := ps.badges ||| (1 <<< i)
        gymWins := ps.gymWins + 1
        lastAction := tx.now } s' := by
  simp only [gymChallengeHandler, bind_eq_ok, Chain.loadPlayer_eq_ok, require_eq_ok,
    exists_const] at h
  obtain ⟨c, hl, ps, ⟨-, hps, -, -⟩, hd, hi, hw, h⟩ := h
  simp only [PlayerState.setBadge, if_pos hi] at hw h
  obtain ⟨m, f, t, hok⟩ := settleSink_ok hl (by decide) h
  exact ⟨c, m, f, t, ps, hps, hd, hi, hw, hok⟩

theorem forceEvolveHandler_ok {s s' : Chain} {tx : Tx} {a : ForceEvolve}
    (h : forceEvolveHandler s tx a = .ok s') :
    ∃ c m f t ps, s.players.get a.player = some ps ∧ ps.agentDeployed = true ∧
      SinkOk s tx a forceEvolveCost c m f t { ps with lastAction := tx.now } s' := by
  simp only [forceEvolveHandler, bind_eq_ok, Chain.loadPlayer_eq_ok, require_eq_ok,
    exists_const] at h
  obtain ⟨c, hl, ps, ⟨-, hps, -, -⟩, hd, h⟩ := h
  obtain ⟨m, f, t, hok⟩ := settleSink_ok hl (by decide) h
  exact ⟨c, m, f, t, ps, hps, hd, hok⟩

end Pokeage
