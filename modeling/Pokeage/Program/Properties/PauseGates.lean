import Pokeage.Program.Properties.Pause

/-!
# A pause bit stops its feature and nothing else

A run under a pause byte is the run with nothing paused that leaves out the instructions of the paused
features (`paused_run`): the same steps succeed, and the chains differ in the byte alone.

`Chain.repause` is the chain with another byte. Every operation commutes with it by a lemma of its own,
each handler step by step.
-/

namespace Pokeage

open Infra Infra.Balance Infra.Machine

/-- The config with other pause flags. -/
def Config.repause (x : ℕ) (c : Config) : Config := { c with paused := x }

/-- The chain with another pause byte. -/
def Chain.repause (x : ℕ) (s : Chain) : Chain := { s with config := s.config.map (Config.repause x) }

/-- The pause bit that gates an instruction. -/
def Instruction.gate : Instruction → Option ℕ
  | .catchAttempt .. => some Config.pauseCatch
  | .mintCard .. => some Config.pauseMint
  | .listCard .. | .buyCard .. => some Config.pauseMarket
  | .instantSell .. => some Config.pauseInstantSell
  | _ => none

/-- Whether an action passes a pause byte. -/
def Action.passes (paused : ℕ) : Action → Bool
  | .program _ ix => ix.gate.all fun flag => paused &&& flag == 0
  | .external .. => true

/-- The same step on chains with other pause flags. -/
def Step.repause (x : ℕ) (d : Step) : Step := ⟨d.before.repause x, d.act, d.after.repause x⟩

section Operations

-- the other chain is a variable of its own: a handler changes it on the way
variable {s s' : Chain} {x : ℕ} {c : Config}

/-! ## Loading -/

/-- Flags change no owner. -/
theorem owner_repause (k : Pubkey) : (s.repause x).owner k = s.owner k := by
  have records : (s.repause x).hasRecord k = s.hasRecord k := by
    cases k with
    | config => exact Option.isSome_map
    | _ => rfl
  unfold Chain.owner
  rw [records]
  rfl

/-- Flags change nothing of loading the config. -/
theorem loadConfig_repause (k : Pubkey) :
    (s.repause x).loadConfig k = (s.loadConfig k).map (Config.repause x) := by
  unfold Chain.loadConfig
  refine bind_same fun _ _ => bind_map (g := Config.repause x) ?_ fun c _ => bind_same fun _ _ => rfl
  show orError (s.config.map _) _ = _
  cases s.config <;> rfl

theorem loadConfigOf_repause (k authority : Pubkey) :
    (s.repause x).loadConfigOf k authority = (s.loadConfigOf k authority).map (Config.repause x) :=
  bind_map (loadConfig_repause k) fun _ _ => bind_same fun _ _ => rfl

/-! ## Moving -/

theorem systemTransfer_repause (src dst : Pubkey) (n : ℕ) (e : s' = s.repause x) :
    s'.systemTransfer src dst n = (s.systemTransfer src dst n).map (Chain.repause x) := by
  subst e
  unfold Chain.systemTransfer
  rw [owner_repause]
  exact bind_same fun _ _ => bind_same fun _ _ => bind_same fun _ _ => rfl

/-- Payments do not ask for flags. -/
theorem pay_repause (src dst : Pubkey) (n : ℕ) (e : s' = s.repause x) :
    s'.pay src dst n = (s.pay src dst n).map (Chain.repause x) := by
  subst e
  unfold Chain.pay
  split
  · exact systemTransfer_repause src dst n rfl
  · rfl

theorem moveLamportsPda_repause (src dst : Pubkey) (n : ℕ) (e : s' = s.repause x) :
    s'.moveLamportsPda src dst n = (s.moveLamportsPda src dst n).map (Chain.repause x) := by
  subst e
  exact bind_same fun _ _ => bind_same fun _ _ => bind_same fun _ _ => rfl

theorem verifySpend_repause (paid : Chain) (k : Pubkey) :
    (s.repause x).verifySpend (paid.repause x) k = s.verifySpend paid k := by
  unfold Chain.verifySpend
  rw [owner_repause]
  rfl

theorem sweepLamports_repause (src dst : Pubkey) (e : s' = s.repause x) :
    s'.sweepLamports src dst = (s.sweepLamports src dst).map (Chain.repause x) := by
  subst e
  exact bind_same fun _ _ => rfl

theorem closeListing_repause (m dst : Pubkey) (e : s' = s.repause x) :
    s'.closeListing m dst = (s.closeListing m dst).map (Chain.repause x) := by
  subst e
  exact bind_map (sweepLamports_repause _ _ rfl) fun _ _ => rfl

theorem initAtaIfNeeded_repause (k mint authority : Pubkey) (e : s' = s.repause x) :
    s'.initAtaIfNeeded k mint authority =
      (s.initAtaIfNeeded k mint authority).map (Chain.repause x) := by
  subst e
  refine bind_same fun _ _ => ?_
  dsimp only [Chain.repause]
  cases s.tokens.get k with
  | none => rfl
  | some t => exact bind_same fun _ _ => bind_same fun _ _ => rfl

/-- Nor do token transfers. -/
theorem transferChecked_repause (src mint dst authority : Pubkey) (n d : ℕ) (e : s' = s.repause x) :
    s'.transferChecked src mint dst authority n d =
      (s.transferChecked src mint dst authority n d).map (Chain.repause x) := by
  subst e
  exact bind_same fun _ _ => bind_same fun _ _ => bind_same fun _ _ => bind_same fun _ _ =>
    bind_same fun _ _ => bind_same fun _ _ => bind_same fun _ _ => bind_same fun _ _ => rfl

theorem burn_repause (src mint authority : Pubkey) (n : ℕ) (e : s' = s.repause x) :
    s'.burn src mint authority n = (s.burn src mint authority n).map (Chain.repause x) := by
  subst e
  exact bind_same fun _ _ => bind_same fun _ _ => bind_same fun _ _ => bind_same fun _ _ =>
    bind_same fun _ _ => bind_same fun _ _ => rfl

theorem closeAccount_repause (k dst authority : Pubkey) (e : s' = s.repause x) :
    s'.closeAccount k dst authority = (s.closeAccount k dst authority).map (Chain.repause x) := by
  subst e
  exact bind_same fun _ _ => bind_same fun _ _ => bind_same fun _ _ => bind_same fun _ _ =>
    bind_map (sweepLamports_repause _ _ rfl) fun _ _ => rfl

theorem burnPart_repause (a : SinkAccounts) (n : ℕ) (e : s' = s.repause x) :
    burnPart s' a n = (burnPart s a n).map (Chain.repause x) := by
  subst e
  unfold burnPart
  split
  · exact burn_repause _ _ _ _ rfl
  · rfl

theorem poolPart_repause (a : SinkAccounts) (n d : ℕ) (e : s' = s.repause x) :
    poolPart s' a n d = (poolPart s a n d).map (Chain.repause x) := by
  subst e
  unfold poolPart
  split
  · exact transferChecked_repause _ _ _ _ _ _ rfl
  · rfl

/-- Nor do sinks. -/
theorem applySink_repause (a : SinkAccounts) (total : ℕ) (e : s' = s.repause x) :
    applySink s' a total =
      (applySink s a total).map (Prod.map (Chain.repause x) id) := by
  subst e
  exact bind_same fun _ _ => bind_same fun _ _ => bind_same fun _ _ => bind_same fun _ _ =>
    bind_map (burnPart_repause _ _ rfl) fun _ _ => bind_map (poolPart_repause _ _ _ rfl) fun _ _ => rfl

end Operations

/-! ## The handlers -/

section Handlers

variable {s : Chain} {x : ℕ} {tx : Tx}

/-- The config of `s` and the one with the other pause byte let the same through at this bit. -/
def OpenAlike (s : Chain) (x flag : ℕ) : Prop :=
  ∀ c, s.config = some c → (c.repause x).isPaused flag = c.isPaused flag

theorem SinkContext.load_repause (a : SinkContext) :
    a.load (s.repause x) tx = (a.load s tx).map (Config.repause x) :=
  bind_same fun _ _ => bind_map (loadConfig_repause _) fun _ _ => bind_same fun _ _ =>
    bind_same fun _ _ => bind_same fun _ _ => bind_same fun _ _ => rfl

/-- Nor does the end of a sink. -/
theorem settleSink_repause (a : SinkContext) (c : Config) (ps : PlayerState) (cost : ℕ)
    (event : SinkSplit → Event) :
    settleSink (s.repause x) a (c.repause x) ps cost event =
      (settleSink s a c ps cost event).map (Chain.repause x) := by
  unfold settleSink
  refine bind_map (applySink_repause a.sink cost rfl) ?_
  rintro ⟨s₁, split⟩ -
  exact bind_same fun _ _ => rfl

/-- `deploy_agent` reads no flag. -/
theorem deployAgent_repause (a : DeployAgent) :
    deployAgentHandler (s.repause x) tx a = (deployAgentHandler s tx a).map (Chain.repause x) :=
  bind_map (SinkContext.load_repause a) fun _ _ => bind_same fun _ _ => bind_same fun _ _ =>
    settleSink_repause _ _ _ _ _

/-- `catch_attempt` reads its own. -/
theorem catchAttempt_repause (a : CatchAttempt) (rarity : ℕ)
    (gate : OpenAlike s x Config.pauseCatch) :
    catchAttemptHandler (s.repause x) tx a rarity =
      (catchAttemptHandler s tx a rarity).map (Chain.repause x) := by
  refine bind_map (SinkContext.load_repause a) fun c hc => bind_same fun ps _ => ?_
  rw [gate c (SinkContext.load_ok hc).2.1]
  exact bind_same fun _ _ => bind_same fun _ _ => bind_same fun _ _ => bind_same fun _ _ =>
    settleSink_repause _ _ _ _ _

/-- `gym_challenge` reads none. -/
theorem gymChallenge_repause (a : GymChallenge) (i : ℕ) :
    gymChallengeHandler (s.repause x) tx a i =
      (gymChallengeHandler s tx a i).map (Chain.repause x) :=
  bind_map (SinkContext.load_repause a) fun _ _ => bind_same fun _ _ => bind_same fun _ _ =>
    bind_same fun _ _ => bind_same fun _ _ => settleSink_repause _ _ _ _ _

/-- Nor does `force_evolve`. -/
theorem forceEvolve_repause (a : ForceEvolve) :
    forceEvolveHandler (s.repause x) tx a = (forceEvolveHandler s tx a).map (Chain.repause x) :=
  bind_map (SinkContext.load_repause a) fun _ _ => bind_same fun _ _ => bind_same fun _ _ =>
    settleSink_repause _ _ _ _ _

/-- `mint_card` reads its own. -/
theorem mintCard_repause (a : MintCard) (tier stage level : ℕ)
    (gate : OpenAlike s x Config.pauseMint) :
    mintCardHandler (s.repause x) tx a tier stage level =
      (mintCardHandler s tx a tier stage level).map (Chain.repause x) := by
  refine bind_same fun _ _ => bind_map (loadConfig_repause _) fun c hc => bind_same fun p _ => ?_
  refine bind_same fun _ _ => bind_same fun _ _ => bind_same fun _ _ => bind_same fun _ _ => ?_
  rw [gate c (Chain.loadConfig_eq_ok.1 hc).2.1]
  refine bind_same fun _ _ => bind_same fun _ _ => bind_same fun _ _ => bind_same fun _ _ => ?_
  refine bind_same fun _ _ => bind_same fun _ _ => bind_same fun _ _ => bind_same fun _ _ => ?_
  exact bind_map (pay_repause _ _ _ rfl) fun _ _ => bind_map (pay_repause _ _ _ rfl) fun _ _ => rfl

/-- `list_card` reads the market's. -/
theorem listCard_repause (a : ListCard) (price tier level stage : ℕ)
    (gate : OpenAlike s x Config.pauseMarket) :
    listCardHandler (s.repause x) tx a price tier level stage =
      (listCardHandler s tx a price tier level stage).map (Chain.repause x) := by
  refine bind_same fun _ _ => bind_map (loadConfig_repause _) fun c hc => bind_same fun p _ => ?_
  refine bind_same fun _ _ => bind_same fun _ _ => bind_same fun _ _ => bind_same fun _ _ => ?_
  refine bind_map (initAtaIfNeeded_repause _ _ _ rfl) fun _ _ => bind_same fun _ _ => ?_
  rw [gate c (Chain.loadConfig_eq_ok.1 hc).2.1]
  refine bind_same fun _ _ => bind_same fun _ _ => bind_same fun _ _ => bind_same fun _ _ => ?_
  exact bind_map (pay_repause _ _ _ rfl) fun _ _ => bind_map (transferChecked_repause _ _ _ _ _ _ rfl)
    fun _ _ => rfl

/-- `cancel_listing` reads none. -/
theorem cancelListing_repause (a : CancelListing) :
    cancelListingHandler (s.repause x) tx a =
      (cancelListingHandler s tx a).map (Chain.repause x) := by
  refine bind_same fun _ _ => bind_same fun _ _ => bind_same fun _ _ => bind_same fun _ _ => ?_
  refine bind_same fun _ _ => bind_same fun _ _ => bind_same fun _ _ => bind_same fun _ _ => ?_
  exact bind_map (transferChecked_repause _ _ _ _ _ _ rfl) fun _ _ =>
    bind_map (closeAccount_repause _ _ _ rfl) fun _ _ => closeListing_repause _ _ rfl

/-- `buy_card` reads the market's. -/
theorem buyCard_repause (a : BuyCard) (gate : OpenAlike s x Config.pauseMarket) :
    buyCardHandler (s.repause x) tx a = (buyCardHandler s tx a).map (Chain.repause x) := by
  refine bind_same fun _ _ => bind_map (loadConfig_repause _) fun c hc => bind_same fun p _ => ?_
  refine bind_same fun _ _ => bind_same fun _ _ => bind_same fun _ _ => bind_same fun _ _ => ?_
  refine bind_same fun _ _ => bind_map (initAtaIfNeeded_repause _ _ _ rfl) fun _ _ => ?_
  refine bind_same fun _ _ => bind_same fun _ _ => bind_same fun _ _ => ?_
  rw [gate c (Chain.loadConfig_eq_ok.1 hc).2.1]
  refine bind_same fun _ _ => bind_same fun _ _ => bind_same fun _ _ => bind_same fun _ _ => ?_
  refine bind_same fun _ _ => bind_same fun _ _ => bind_same fun _ _ => ?_
  refine bind_map (pay_repause _ _ _ rfl) fun _ _ => bind_map (pay_repause _ _ _ rfl) fun _ _ => ?_
  exact bind_map (pay_repause _ _ _ rfl) fun _ _ => bind_map (transferChecked_repause _ _ _ _ _ _ rfl)
    fun _ _ => bind_map (closeAccount_repause _ _ _ rfl) fun _ _ => closeListing_repause _ _ rfl

/-- `instant_sell` reads its own. -/
theorem instantSell_repause (a : InstantSell) (gate : OpenAlike s x Config.pauseInstantSell) :
    instantSellHandler (s.repause x) tx a = (instantSellHandler s tx a).map (Chain.repause x) := by
  refine bind_same fun _ _ => bind_map (loadConfig_repause _) fun c hc => bind_same fun p _ => ?_
  refine bind_same fun _ _ => bind_same fun _ _ => bind_map (initAtaIfNeeded_repause _ _ _ rfl) fun _ _ => ?_
  refine bind_same fun _ _ => ?_
  rw [gate c (Chain.loadConfig_eq_ok.1 hc).2.1]
  refine bind_same fun _ _ => bind_same fun _ _ => bind_same fun _ _ => bind_same fun _ _ => ?_
  refine bind_same fun _ _ => bind_same fun _ _ => bind_same fun _ _ => ?_
  refine bind_map (transferChecked_repause _ _ _ _ _ _ rfl) fun _ _ => ?_
  refine bind_map (moveLamportsPda_repause _ _ _ rfl) fun _ _ => ?_
  rw [verifySpend_repause]
  exact bind_same fun _ _ => rfl

theorem updateFloor_repause (a : UpdateFloor) (floor : ℕ) :
    updateFloor (s.repause x) tx a floor = (updateFloor s tx a floor).map (Chain.repause x) := by
  refine bind_same fun _ _ => bind_map (loadConfigOf_repause _ _) fun _ _ => bind_same fun _ _ => ?_
  dsimp only
  split
  · rfl
  · refine bind_same fun _ _ => ?_
    split <;> rfl

theorem setInstantSell_repause (a : SetInstantSell) (enabled : Bool) :
    setInstantSell (s.repause x) tx a enabled =
      (setInstantSell s tx a enabled).map (Chain.repause x) :=
  bind_same fun _ _ => bind_map (loadConfigOf_repause _ _) fun _ _ => bind_same fun _ _ =>
    bind_same fun _ _ => rfl

theorem withdrawTreasury_repause (a : WithdrawTreasury) (n : ℕ) :
    withdrawTreasury (s.repause x) tx a n = (withdrawTreasury s tx a n).map (Chain.repause x) := by
  refine bind_same fun _ _ => bind_map (loadConfigOf_repause _ _) fun _ _ => bind_same fun _ _ => ?_
  refine bind_same fun _ _ => bind_map (moveLamportsPda_repause _ _ _ rfl) fun _ _ => ?_
  rw [verifySpend_repause]
  exact bind_same fun _ _ => rfl

theorem createTokenAccount_repause (k mint owner : Pubkey) :
    (s.repause x).createTokenAccount tx k mint owner =
      (s.createTokenAccount tx k mint owner).map (Chain.repause x) :=
  bind_same fun _ _ => bind_same fun _ _ => bind_same fun _ _ => rfl

theorem mintTo_repause (mint dst authority : Pubkey) (n : ℕ) :
    (s.repause x).mintTo mint dst authority n =
      (s.mintTo mint dst authority n).map (Chain.repause x) :=
  bind_same fun _ _ => bind_same fun _ _ => bind_same fun _ _ => bind_same fun _ _ =>
    bind_same fun _ _ => rfl

/-- Nothing outside the program reads a flag. -/
theorem External.apply_repause (e : External) :
    e.apply (s.repause x) tx = (e.apply s tx).map (Chain.repause x) := by
  cases e with
  | systemTransfer src dst amount => exact bind_same fun _ _ => systemTransfer_repause _ _ _ rfl
  | assign account owner =>
    refine bind_same fun _ _ => ?_
    rw [owner_repause]
    exact bind_same fun _ _ => rfl
  | createMint => exact bind_same fun _ _ => bind_same fun _ _ => rfl
  | createTokenAccount k mint owner => exact createTokenAccount_repause k mint owner
  | createAta authority mint => exact bind_same fun _ _ => initAtaIfNeeded_repause _ _ _ rfl
  | mintTo mint dst authority amount => exact bind_same fun _ _ => mintTo_repause _ _ _ _
  | setMintAuthority => exact bind_same fun _ _ => bind_same fun _ _ => bind_same fun _ _ => rfl
  | tokenTransfer =>
    exact bind_same fun _ _ => bind_same fun _ _ => transferChecked_repause _ _ _ _ _ _ rfl
  | tokenBurn => exact bind_same fun _ _ => burn_repause _ _ _ _ rfl
  | closeTokenAccount => exact bind_same fun _ _ => closeAccount_repause _ _ _ rfl
  | setTokenOwner => exact bind_same fun _ _ => bind_same fun _ _ => bind_same fun _ _ => rfl

end Handlers

/-! ## Steps -/

section Step

variable {s s' : Chain} {act : Action} {c : Config} {x : ℕ}

/-- The program is open, with nothing paused. -/
def Unpaused (s : Chain) : Prop := ∃ c, s.config = some c ∧ c.paused = 0

theorem Unpaused.openAlike (h : Unpaused s) {flag : ℕ} (passes : (x &&& flag == 0) = true) :
    OpenAlike s x flag := by
  obtain ⟨c, config, hc⟩ := h
  intro c' config'
  obtain rfl := Option.some.inj (config.symm.trans config')
  show (x &&& flag != 0) = (c.paused &&& flag != 0)
  rw [hc, Nat.zero_and, bne, passes]
  rfl

/-- No other instruction writes the pause byte. -/
theorem step_unpaused (h : step s act = .ok s') (hset : ¬act.setsPause) (open_ : Unpaused s) :
    Unpaused s' := by
  obtain ⟨c, config, hc⟩ := open_
  cases step_effect h with
  | initializeProgram ok =>
    rw [ok.config] at config
    cases config
  | sink _ ok =>
    obtain ⟨ev, rfl⟩ := ok.after
    obtain rfl := Option.some.inj (ok.config.symm.trans config)
    exact ⟨_, rfl, hc⟩
  | mintCard ok =>
    obtain rfl := Option.some.inj (ok.config.symm.trans config)
    obtain rfl := ok.after
    exact ⟨_, rfl, hc⟩
  | listCard ok => exact ⟨c, by rw [ok.after]; exact config, hc⟩
  | cancelListing ok => exact ⟨c, by rw [ok.after]; exact config, hc⟩
  | buyCard ok => exact ⟨c, by rw [ok.after]; exact config, hc⟩
  | instantSell ok => exact ⟨c, by rw [ok.after]; exact config, hc⟩
  | updateFloor _ _ after => exact ⟨c, by rw [after]; exact config, hc⟩
  | setInstantSell _ _ _ after => exact ⟨c, by rw [after]; exact config, hc⟩
  | withdrawTreasury _ _ _ after => exact ⟨c, by rw [after]; exact config, hc⟩
  | setPause _ _ => exact absurd trivial hset
  | external ok => exact ⟨c, (External.sameRecords ok).config.trans config, hc⟩

/-- **An action that passes steps as if nothing were paused.** -/
theorem step_repause (open_ : Unpaused s) (hset : ¬act.setsPause) (passes : act.passes x = true) :
    step (s.repause x) act = (step s act).map (Chain.repause x) := by
  cases act with
  | external tx e => exact External.apply_repause e
  | program tx ix =>
    cases ix with
    | initializeProgram a b p m l =>
      obtain ⟨c, config, -⟩ := open_
      have taken : ¬s.config = none := by rw [config]; nofun
      have taken' : ¬(s.repause x).config = none := by
        show ¬s.config.map _ = none
        rw [config]
        nofun
      refine bind_same fun _ _ => bind_same fun _ _ => ?_
      rw [require_of_not taken, require_of_not taken']
      rfl
    | deployAgent a => exact deployAgent_repause a
    | catchAttempt a rarity => exact catchAttempt_repause a _ (open_.openAlike passes)
    | gymChallenge a i => exact gymChallenge_repause a _
    | forceEvolve a => exact forceEvolve_repause a
    | mintCard a tier stage level => exact mintCard_repause a _ _ _ (open_.openAlike passes)
    | listCard a price tier level stage => exact listCard_repause a _ _ _ _ (open_.openAlike passes)
    | cancelListing a => exact cancelListing_repause a
    | buyCard a => exact buyCard_repause a (open_.openAlike passes)
    | instantSell a => exact instantSell_repause a (open_.openAlike passes)
    | updateFloor a floor => exact updateFloor_repause a _
    | setInstantSell a enabled => exact setInstantSell_repause a _
    | withdrawTreasury a amount => exact withdrawTreasury_repause a _
    | setPause a flags => exact absurd trivial hset

/-- An action that does not pass is refused. -/
theorem step_refused (config : s.config = some c) (passes : act.passes c.paused = false) :
    ∃ e, step s act = .error e := by
  cases h : step s act with
  | error e => exact ⟨e, rfl⟩
  | ok s' =>
    have gate : ∀ {c' : Config} {flag : ℕ}, s.config = some c' →
        (c.paused &&& flag == 0) = false → c'.isPaused flag = false → False := by
      intro c' flag config' closed free
      obtain rfl := Option.some.inj (config.symm.trans config')
      rw [Config.isPaused, bne, closed] at free
      cases free
    cases act with
    | external => cases passes
    | program tx ix =>
      cases ix with
      | catchAttempt a rarity =>
        obtain ⟨_, c', _, _, _, _, -, -, -, free, -, ok⟩ := catchAttemptHandler_ok h
        exact (gate ok.config passes free).elim
      | mintCard a tier stage level =>
        obtain ⟨_, _, _, ok⟩ := mintCardHandler_ok h
        exact (gate ok.config passes ok.unpaused).elim
      | listCard a price tier level stage =>
        obtain ⟨_, _, _, _, _, ok⟩ := listCardHandler_ok h
        exact (gate ok.config passes ok.unpaused).elim
      | buyCard a =>
        obtain ⟨_, _, _, _, _, ok⟩ := buyCardHandler_ok h
        exact (gate ok.config passes ok.unpaused).elim
      | instantSell a =>
        obtain ⟨_, _, _, _, ok⟩ := instantSellHandler_ok h
        exact (gate ok.config passes ok.unpaused).elim
      | _ => cases passes

end Step

/-! ## Runs -/

/-- **A run under a pause byte.** Without `set_pause`, it is the run of the actions that pass the byte
on the chain with nothing paused: the same steps succeed, and the chains differ in the byte alone. -/
theorem paused_run {s : Chain} {c : Config} (config : s.config = some c) {as : List Action}
    (quiet : ∀ a ∈ as, ¬a.setsPause) :
    run step s as =
        (run step (s.repause 0) (as.filter (Action.passes c.paused))).repause c.paused ∧
      trace step s as =
        (trace step (s.repause 0) (as.filter (Action.passes c.paused))).map (Step.repause c.paused) := by
  have here : (s.repause 0).repause c.paused = s := by
    cases s
    cases config
    rfl
  have open_ : Unpaused (s.repause 0) := ⟨c.repause 0, by rw [Chain.repause, config]; rfl, rfl⟩
  have keep : ∀ s₁ a s₂, Unpaused s₁ → ¬a.setsPause → step s₁ a = .ok s₂ → Unpaused s₂ :=
    fun _ _ _ open_ hset h => step_unpaused h hset open_
  have go : ∀ s₁ a, Unpaused s₁ → ¬a.setsPause → a.passes c.paused = true →
      step (s₁.repause c.paused) a = (step s₁ a).map (Chain.repause c.paused) :=
    fun _ _ open_ hset passes => step_repause open_ hset passes
  have refuse : ∀ s₁ a, Unpaused s₁ → ¬a.setsPause → a.passes c.paused = false →
      ∃ e, step (s₁.repause c.paused) a = .error e := by
    rintro s₁ a ⟨c₁, config₁, -⟩ _ passes
    exact step_refused (c := c₁.repause c.paused) (by rw [Chain.repause, config₁]; rfl) passes
  have split := run_refusing keep go refuse open_ quiet
  rw [here] at split
  exact split

/-- User 6 has an account of $PAGE and a unit to sell when the market is paused. -/
def pauseMarketEarly : List Action := fundSink ++ openCard 8 12 6 1 ++ [pauseOnStandard 4]

/-- It can still deploy an agent; its listing is as if it had never been sent. -/
theorem paused_run_market :
    run step (run step .standard pauseMarketEarly)
        [deployOnStandard (.key 10), listOnStandard 8 12 6 1000] =
      (run step ((run step .standard pauseMarketEarly).repause 0)
        [deployOnStandard (.key 10)]).repause 4 := by
  have byte : (run step .standard pauseMarketEarly).config.any fun c => c.paused = 4 := by
    decide +kernel
  cases config : (run step .standard pauseMarketEarly).config with
  | none =>
    rw [config] at byte
    cases byte
  | some c =>
    rw [config] at byte
    have four : c.paused = 4 := of_decide_eq_true byte
    have quiet : ∀ a ∈ [deployOnStandard (.key 10), listOnStandard 8 12 6 1000], ¬a.setsPause := by
      intro a ha
      rcases List.mem_cons.1 ha with rfl | ha
      · exact id
      · obtain rfl := List.mem_singleton.1 ha
        exact id
    have split := (paused_run config quiet).1
    rw [four] at split
    exact split

end Pokeage
