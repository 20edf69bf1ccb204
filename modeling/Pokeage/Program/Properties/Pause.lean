import Pokeage.Program.Properties.Escrow

/-!
# Full pause

With all four pause flags set, minting, trading, catching and instant sells are refused. The other
three sinks carry no flag: `deploy_agent`, `gym_challenge` and `force_evolve` burn and route tokens
as ever. `freezes_iff` says that a run without `set_pause` freezes all value exactly if it has none of
these, and returns no listed $PAGE out of escrow.
-/

namespace Pokeage

open Infra Infra.Balance Infra.Machine

/-- All four pause flags are set. -/
def Config.FullyPaused (c : Config) : Prop :=
  ∀ flag ∈ [pauseCatch, pauseMint, pauseMarket, pauseInstantSell], c.isPaused flag = true

/-- The chain has a config with every flag set. -/
def FullyPaused (s : Chain) : Prop := ∃ c, s.config = some c ∧ c.FullyPaused

/-- What must stay constant: the totals of config and pool, and every player's record. -/
def Chain.counters (s : Chain) : Option (ℕ × ℕ) × Option (ℕ × ℕ × ℕ) × Store Pubkey PlayerState :=
  (s.config.map fun c => (c.totalBurned, c.totalCardsMinted),
    s.pool.map fun p => (p.totalLamports, p.lifetimeIn, p.lifetimeOut), s.players)

/-- No token of the mint is burned or changes its account. -/
def SparesMint (s s' : Chain) (mint : Pubkey) : Prop :=
  s'.mints.get mint = s.mints.get mint ∧
    ∀ k t, t.mint = mint → (s'.tokens.get k = some t ↔ s.tokens.get k = some t)

/-- A seller takes a listed card back, with what its two accounts held. -/
def ReturnsCard (s : Chain) (act : Action) (s' : Chain) : Prop :=
  ∃ tx a l f, act = .program tx (.cancelListing a) ∧ s.listings.get a.cardMint = some l ∧
    l.seller ∈ tx.signers ∧ s.tokens.get a.sellerCard = some f ∧ f.owner = l.seller ∧
    s'.tokens = (moveTokens s.tokens a.escrowCard a.sellerCard 1).erase a.escrowCard ∧
    s'.lamports = closedLamports s.lamports a.escrowCard (.listing a.cardMint) l.seller

/-- The authority withdraws lamports of the treasury. -/
def WithdrawsTreasury (s : Chain) (act : Action) (s' : Chain) : Prop :=
  ∃ tx a amount c, act = .program tx (.withdrawTreasury a amount) ∧ s.config = some c ∧
    c.authority ∈ tx.signers ∧ s'.tokens = s.tokens ∧
    s'.lamports = move s.lamports c.treasury c.authority amount.toNat

/-- An instruction of the program burns and moves no $PAGE, and moves other value in two ways only. -/
def MovesLittle (d : Step) : Prop :=
  match d.act with
  | .external .. => True
  | .program .. =>
    (∀ c, d.before.config = some c → SparesMint d.before d.after c.pageMint) ∧
      d.after.mints = d.before.mints ∧ d.after.cards = d.before.cards ∧
      (d.after.tokens = d.before.tokens ∧ d.after.lamports = d.before.lamports ∨
        ReturnsCard d.before d.act d.after ∨ WithdrawsTreasury d.before d.act d.after)

/-- Nothing of value changes along the run but what `MovesLittle` allows. -/
def Freezes (s : Chain) (as : List Action) : Prop :=
  Always step s as (fun s' => s'.counters = s.counters) ∧ ∀ d ∈ trace step s as, MovesLittle d

/-- The action is a `set_pause`. -/
def Action.setsPause : Action → Prop
  | .program _ (.setPause ..) => True
  | _ => False

/-- The step is a sink without a pause flag, or takes listed $PAGE out of escrow. -/
def Leaks (d : Step) : Prop :=
  match d.act with
  | .program _ (.deployAgent _) | .program _ (.gymChallenge ..) | .program _ (.forceEvolve _) => True
  | .program _ (.cancelListing a) => ∃ c, d.before.config = some c ∧ a.cardMint = c.pageMint
  | _ => False

section Step

variable {s s' : Chain} {act : Action} {mint : Pubkey}

theorem SparesMint.refl (s : Chain) (mint : Pubkey) : SparesMint s s mint :=
  ⟨rfl, fun _ _ _ => Iff.rfl⟩

/-- A step that leaves the token program's books alone. -/
theorem movesLittle_of_eq {tx : Tx} {ix : Instruction} (hm : s'.mints = s.mints)
    (hc : s'.cards = s.cards) (ht : s'.tokens = s.tokens)
    (hl : s'.lamports = s.lamports ∨ WithdrawsTreasury s (.program tx ix) s') :
    MovesLittle ⟨s, .program tx ix, s'⟩ := by
  refine ⟨fun c _ => ⟨by rw [hm], fun k t _ => by rw [ht]⟩, hm, hc, ?_⟩
  rcases hl with hl | hw
  · exact .inl ⟨ht, hl⟩
  · exact .inr (.inr hw)

/-- Returning a card of another mint touches no account of this one. -/
theorem CancelListing.Ok.sparesMint {tx : Tx} {a : CancelListing} {l : Listing}
    {f t : TokenAccount} (ok : CancelListing.Ok s tx a l f t s') (hne : a.cardMint ≠ mint) :
    SparesMint s s' mint := by
  have hesc := ok.escrow
  have hescMint := ok.escrowMint
  have hcard := ok.card
  have hcardMint := ok.cardMint
  obtain rfl := ok.after
  refine ⟨rfl, fun k u hu => ?_⟩
  show ((moveTokens s.tokens a.escrowCard a.sellerCard 1).erase a.escrowCard).get k = some u ↔ _
  by_cases hk : k = a.escrowCard
  · subst hk
    rw [Store.get_erase, if_pos rfl, hesc]
    refine ⟨nofun, fun h => ?_⟩
    obtain rfl := Option.some.inj h
    exact absurd (hescMint.symm.trans hu) hne
  · rw [Store.get_erase_ne _ hk]
    by_cases hd : k = a.sellerCard
    · subst hd
      rw [get_moveTokens_dst (Ne.symm hk) hcard, hcard]
      constructor
      · intro h
        obtain rfl := Option.some.inj h
        exact absurd (hcardMint.symm.trans hu) hne
      · intro h
        obtain rfl := Option.some.inj h
        exact absurd (hcardMint.symm.trans hu) hne
    · rw [get_moveTokens_ne hk hd]

theorem CancelListing.Ok.returnsCard {tx : Tx} {a : CancelListing} {l : Listing}
    {f t : TokenAccount} (ok : CancelListing.Ok s tx a l f t s') :
    ReturnsCard s (.program tx (.cancelListing a)) s' :=
  ⟨tx, a, l, f, rfl, ok.listing, ok.seller ▸ ok.signed, ok.card, ok.cardOwner.trans ok.seller.symm,
    by rw [ok.after], by rw [ok.after, ok.seller]⟩

/-- A flag that is set is not clear. -/
theorem Config.FullyPaused.not_clear {c : Config} (hp : c.FullyPaused) {flag : ℕ}
    (hf : flag ∈ [pauseCatch, pauseMint, pauseMarket, pauseInstantSell])
    (h : c.isPaused flag = false) : False := by
  rw [hp flag hf] at h
  cases h

/-- **One step under full pause.** It moves little and changes no counter, unless it leaks. -/
theorem frozen_step (h : step s act = .ok s') (hp : FullyPaused s) (hset : ¬act.setsPause)
    (hleak : ¬Leaks ⟨s, act, s'⟩) :
    s'.counters = s.counters ∧ FullyPaused s' ∧ MovesLittle ⟨s, act, s'⟩ := by
  have hpaused := hp
  obtain ⟨c, hc, hflags⟩ := hp
  cases step_effect h with
  | initializeProgram ok =>
    rw [ok.config] at hc
    cases hc
  | @sink tx ix a cost _ _ _ _ _ _ hix ok =>
    cases ix with
    | catchAttempt a rarity =>
      obtain ⟨_, c', _, _, _, _, -, -, -, hclear, -, ok'⟩ := catchAttemptHandler_ok h
      obtain rfl := Option.some.inj (hc.symm.trans ok'.config)
      exact (hflags.not_clear (by simp) hclear).elim
    | deployAgent a => exact absurd trivial hleak
    | gymChallenge a i => exact absurd trivial hleak
    | forceEvolve a => exact absurd trivial hleak
    | _ => cases hix
  | mintCard ok =>
    obtain rfl := Option.some.inj (hc.symm.trans ok.config)
    exact (hflags.not_clear (by simp) ok.unpaused).elim
  | listCard ok =>
    obtain rfl := Option.some.inj (hc.symm.trans ok.config)
    exact (hflags.not_clear (by simp) ok.unpaused).elim
  | buyCard ok =>
    obtain rfl := Option.some.inj (hc.symm.trans ok.config)
    exact (hflags.not_clear (by simp) ok.unpaused).elim
  | instantSell ok =>
    obtain rfl := Option.some.inj (hc.symm.trans ok.config)
    exact (hflags.not_clear (by simp) ok.unpaused).elim
  | cancelListing ok =>
    have hspare : ∀ c, s.config = some c → SparesMint s s' c.pageMint := by
      intro c₁ hc₁
      exact ok.sparesMint fun he => hleak ⟨c₁, hc₁, he⟩
    have hreturn := ok.returnsCard
    obtain rfl := ok.after
    exact ⟨rfl, hpaused, hspare, rfl, rfl, .inr (.inl hreturn)⟩
  | updateFloor _ pool after =>
    subst after
    refine ⟨?_, hpaused, movesLittle_of_eq rfl rfl rfl (.inl rfl)⟩
    simp only [Chain.counters, pool, Option.map_some]
  | setInstantSell _ pool _ after =>
    subst after
    refine ⟨?_, hpaused, movesLittle_of_eq rfl rfl rfl (.inl rfl)⟩
    simp only [Chain.counters, pool, Option.map_some]
  | @withdrawTreasury tx a amount c' _ admin treasury _ after =>
    subst after
    refine ⟨rfl, hpaused, movesLittle_of_eq rfl rfl rfl (.inr ?_)⟩
    refine ⟨tx, a, amount, c', rfl, admin.config, admin.authority ▸ admin.signed, rfl, ?_⟩
    rw [treasury, admin.authority]
  | setPause _ _ => exact absurd trivial hset
  | external ok =>
    have hsame := External.sameRecords ok
    refine ⟨?_, ⟨c, hsame.config.trans hc, hflags⟩, trivial⟩
    unfold Chain.counters
    rw [hsame.config, hsame.pool, hsame.players]

/-- A leak shows in a counter or in an account of $PAGE. -/
theorem counters_ne_or_of_leaks (h : step s act = .ok s') (hleak : Leaks ⟨s, act, s'⟩) :
    s'.counters ≠ s.counters ∨ ¬MovesLittle ⟨s, act, s'⟩ := by
  cases step_effect h with
  | @sink tx ix a cost c m f t ps _ hix ok =>
    refine .inl fun he => ?_
    have hconf := ok.config
    obtain ⟨k, hk, rfl⟩ := Instruction.charge_cost hix
    have hpos : 0 < bps (k * 10000000) burnBps := (bps_burnBps_pos (by omega)).1
    obtain ⟨ev, rfl⟩ := ok.after
    have hfst := congrArg Prod.fst he
    simp only [Chain.counters, hconf, Option.map_some, Option.some.injEq, Prod.mk.injEq] at hfst
    omega
  | @cancelListing tx a l f t _ ok =>
    refine .inr fun hm => ?_
    obtain ⟨c, hc, hpage⟩ := hleak
    -- the escrow account held $PAGE and is gone
    have hspare := ((hm.1 c hc).2 a.escrowCard t (ok.escrowMint.trans hpage)).2 ok.escrow
    rw [ok.after] at hspare
    change ((moveTokens s.tokens a.escrowCard a.sellerCard 1).erase a.escrowCard).get a.escrowCard
      = some t at hspare
    rw [Store.get_erase, if_pos rfl] at hspare
    cases hspare
  | _ => cases hleak

end Step

/-- **When a full pause freezes value.** From a fully paused state, a run without `set_pause` freezes
value exactly if none of its steps leaks. -/
theorem freezes_iff (s : Chain) (hp : FullyPaused s) (as : List Action)
    (hset : ∀ a ∈ as, ¬a.setsPause) :
    Freezes s as ↔ ∀ d ∈ trace step s as, ¬Leaks d := by
  have hunset : ∀ d ∈ trace step s as, ¬d.act.setsPause := fun d hd =>
    hset _ (act_mem_of_mem_trace step hd)
  constructor
  · rintro ⟨hcounters, hmoves⟩ d hd hleak
    obtain ⟨hbefore, hafter⟩ := hcounters.around step hd
    rcases counters_ne_or_of_leaks (step_of_mem_trace step hd) hleak with hne | hno
    · exact hne (hafter.trans hbefore.symm)
    · exact hno (hmoves d hd)
  · intro hleak
    have hinv : Always step s as fun s' => s'.counters = s.counters ∧ FullyPaused s' := by
      refine always_of_steps step (C := fun d => ¬d.act.setsPause ∧ ¬Leaks d) ⟨rfl, hp⟩ ?_
        (fun d hd => ⟨hunset d hd, hleak d hd⟩)
      rintro s₁ a s₂ ⟨hcount, hpaused⟩ ⟨hset, hleak⟩ hstep
      obtain ⟨hcount', hpaused', -⟩ := frozen_step hstep hpaused hset hleak
      exact ⟨hcount'.trans hcount, hpaused'⟩
    refine ⟨fun pre hpre => (hinv pre hpre).1, fun d hd => ?_⟩
    exact (frozen_step (step_of_mem_trace step hd) (hinv.around step hd).1.2 (hunset d hd)
      (hleak d hd)).2.2

/-! ## A gym under full pause -/

/-- The authority of the standard chain sets the pause byte. -/
def pauseOnStandard (flags : UInt8) : Action :=
  .program (.by [1] 0) (.setPause { authority := .key 1, config := .config } flags)

/-- User 6 has deployed an agent, then everything is paused. -/
def pauseDeployed : List Action := fundSink ++ [deployOnStandard (.key 10), pauseOnStandard 15]

/-- User 6 challenges the first gym. -/
def gymOnStandard : Action :=
  .program (.by [6] 0) (.gymChallenge
    { player := .key 6, playerState := .player (.key 6), config := .config, pageMint := .key 2,
      playerToken := .key 9, poolToken := .key 10 } 0)

instance (c : Config) : Decidable c.FullyPaused :=
  inferInstanceAs (Decidable (∀ flag ∈ _, _))

theorem fullyPaused_of_any {s : Chain} (h : s.config.any fun c => decide c.FullyPaused) :
    FullyPaused s := by
  cases hc : s.config with
  | none => rw [hc] at h; cases h
  | some c =>
    rw [hc] at h
    exact ⟨c, hc, of_decide_eq_true h⟩

/-- The challenge is charged, and part of it burned, as if nothing were paused. -/
theorem not_freezes_gym :
    ∃ s as, Reachable s ∧ FullyPaused s ∧ (∀ a ∈ as, ¬a.setsPause) ∧ ¬Freezes s as := by
  refine ⟨run step .standard pauseDeployed, [gymOnStandard],
    Chain.initialized_standard.reachable.run _, fullyPaused_of_any (by decide +kernel), ?_, ?_⟩
  · intro a ha
    obtain rfl := List.mem_singleton.1 ha
    exact id
  · rintro ⟨hcounters, -⟩
    have hsame := congrArg Prod.fst (hcounters [gymOnStandard] (List.prefix_refl _))
    revert hsame
    decide +kernel

/-- Under full pause the owner of a listed card takes it back. -/
theorem freezes_iff_cancel :
    Freezes (run step .standard (listUnit ++ [pauseOnStandard 15]))
        [cancelOnStandard 8 12 6 (.ata (.listing (.key 8)) (.key 8))] ↔
      ∀ d ∈ trace step (run step .standard (listUnit ++ [pauseOnStandard 15]))
        [cancelOnStandard 8 12 6 (.ata (.listing (.key 8)) (.key 8))], ¬Leaks d := by
  refine freezes_iff _ (fullyPaused_of_any (by decide +kernel)) _ ?_
  intro a ha
  obtain rfl := List.mem_singleton.1 ha
  exact id

end Pokeage
