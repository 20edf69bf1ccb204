import Pokeage.Program.Opening
import Pokeage.Program.Properties.Records

/-!
# The counters are exact

What each successful step charges into the pool, pays out of it and burns is read off the action and
the state before it. `Ledger` says that the counters of the config and the pool are the sums of these
over the run so far; `ledger_step` is the step lemma and `ledger_exact` the result.
-/

namespace Pokeage

open Infra Infra.Machine

/-- The pool's half of the mint fee of a tier. -/
def mintPoolCut (tier : ℕ) : ℕ :=
  match mintFeeForTier tier with
  | .ok fee => bps fee 5000
  | .error _ => 0

/-- What a step charges into the pool: a mint-fee cut, a listing fee or a trade-fee cut. -/
def poolIn (d : Step) : ℕ :=
  match d.act with
  | .program _ (.mintCard _ tier _ _) => mintPoolCut tier.toNat
  | .program _ (.listCard ..) => d.before.config.elim 0 Config.listingFee
  | .program _ (.buyCard a) =>
    d.before.config.elim 0 fun c => (d.before.listings.get a.cardMint).elim 0 (tradePoolCut c)
  | _ => 0

/-- What a step pays out of the pool. -/
def poolOut (d : Step) : ℕ :=
  match d.act with
  | .program _ (.instantSell _) => d.before.pool.elim 0 payout
  | _ => 0

/-- What a step burns. -/
def burnedBy (d : Step) : ℕ :=
  match d.act with
  | .program _ ix => ix.charge.elim 0 fun ac => bps ac.2 burnBps
  | .external .. => 0

/-- The counters after the steps `t` that led to `s`. -/
structure Ledger (t : List Step) (s : Chain) (c : Config) (p : BuybackPool) : Prop where
  config : s.config = some c
  pool : s.pool = some p
  balance : p.lifetimeIn = p.totalLamports + p.lifetimeOut
  charged : p.lifetimeIn = (t.map poolIn).sum
  paid : p.lifetimeOut = (t.map poolOut).sum
  burned : c.totalBurned = (t.map burnedBy).sum
  minted : c.totalCardsMinted = s.cards.card

section Step

variable {t : List Step} {s s' : Chain} {a : Action} {c c' : Config} {p p' : BuybackPool}

/-- A step keeps the ledger when it moves each counter by what it charges, pays and burns. -/
theorem Ledger.append (hl : Ledger t s c p) (hc : s'.config = some c') (hp : s'.pool = some p')
    (hin : p'.lifetimeIn = p.lifetimeIn + poolIn ⟨s, a, s'⟩)
    (hout : p'.lifetimeOut = p.lifetimeOut + poolOut ⟨s, a, s'⟩)
    (hbal : p'.lifetimeIn = p'.totalLamports + p'.lifetimeOut)
    (hburn : c'.totalBurned = c.totalBurned + burnedBy ⟨s, a, s'⟩)
    (hmint : c'.totalCardsMinted + s.cards.card = c.totalCardsMinted + s'.cards.card) :
    Ledger (t ++ [⟨s, a, s'⟩]) s' c' p' where
  config := hc
  pool := hp
  balance := hbal
  charged := by rw [hin, hl.charged]; simp
  paid := by rw [hout, hl.paid]; simp
  burned := by rw [hburn, hl.burned]; simp
  minted := by have := hl.minted; omega

/-- A step that leaves pool, config and cards and is neither a charge, a payout nor a burn. -/
theorem Ledger.idle (hl : Ledger t s c p) (hc : s'.config = s.config) (hp : s'.pool = s.pool)
    (hcards : s'.cards = s.cards) (hin : poolIn ⟨s, a, s'⟩ = 0) (hout : poolOut ⟨s, a, s'⟩ = 0)
    (hburn : burnedBy ⟨s, a, s'⟩ = 0) : Ledger (t ++ [⟨s, a, s'⟩]) s' c p :=
  hl.append (hc.trans hl.config) (hp.trans hl.pool) (by rw [hin]; rfl) (by rw [hout]; rfl)
    hl.balance (by rw [hburn]; rfl) (by rw [hcards])

/-- A sink is neither a charge nor a payout. -/
theorem sink_not_pool {tx : Tx} {ix : Instruction} {ac : SinkContext × ℕ}
    (h : ix.charge = some ac) :
    poolIn ⟨s, .program tx ix, s'⟩ = 0 ∧ poolOut ⟨s, .program tx ix, s'⟩ = 0 := by
  cases ix <;> first | exact ⟨rfl, rfl⟩ | cases h

/-- **The step lemma.** -/
theorem ledger_step (hl : Ledger t s c p) (h : step s a = .ok s') :
    ∃ c' p', Ledger (t ++ [⟨s, a, s'⟩]) s' c' p' := by
  have hbal := hl.balance
  cases step_effect h with
  | initializeProgram ok =>
    have hnone := ok.config
    rw [hl.config] at hnone
    cases hnone
  | sink hix ok =>
    obtain ⟨hin, hout⟩ := @sink_not_pool s s' _ _ _ hix
    obtain rfl := Option.some.inj (hl.config.symm.trans ok.config)
    obtain ⟨ev, rfl⟩ := ok.after
    refine ⟨_, p, hl.append rfl hl.pool ?_ ?_ hbal ?_ rfl⟩
    · rw [hin]; rfl
    · rw [hout]; rfl
    · simp [burnedBy, hix]
  | mintCard ok =>
    obtain rfl := Option.some.inj (hl.config.symm.trans ok.config)
    obtain rfl := Option.some.inj (hl.pool.symm.trans ok.pool)
    have hfee := ok.fee_eq
    have hcard := Store.card_set_new ok.fresh
    obtain rfl := ok.after
    refine ⟨_, _, hl.append rfl rfl ?_ rfl ?_ rfl ?_⟩
    · simp only [poolIn, mintPoolCut, hfee]
    · show p.lifetimeIn + _ = p.totalLamports + _ + p.lifetimeOut
      omega
    · show c.totalCardsMinted + 1 + _ = _ + Store.card (Store.set _ _ _)
      rw [hcard]
      omega
  | listCard ok =>
    obtain rfl := Option.some.inj (hl.config.symm.trans ok.config)
    obtain rfl := Option.some.inj (hl.pool.symm.trans ok.pool)
    obtain rfl := ok.after
    refine ⟨_, _, hl.append hl.config rfl ?_ rfl ?_ rfl rfl⟩
    · simp [poolIn, hl.config]
    · show p.lifetimeIn + _ = p.totalLamports + _ + p.lifetimeOut
      omega
  | buyCard ok =>
    obtain rfl := Option.some.inj (hl.config.symm.trans ok.config)
    obtain rfl := Option.some.inj (hl.pool.symm.trans ok.pool)
    have hlist := ok.listing
    obtain rfl := ok.after
    refine ⟨_, _, hl.append hl.config rfl ?_ rfl ?_ rfl rfl⟩
    · simp [poolIn, hl.config, hlist]
    · show p.lifetimeIn + _ = p.totalLamports + _ + p.lifetimeOut
      omega
  | instantSell ok =>
    obtain rfl := Option.some.inj (hl.pool.symm.trans ok.pool)
    have hle := ok.enough
    obtain rfl := ok.after
    refine ⟨_, _, hl.append hl.config rfl rfl ?_ ?_ rfl rfl⟩
    · simp [poolOut, hl.pool]
    · show p.lifetimeIn = p.totalLamports - payout p + (p.lifetimeOut + payout p)
      omega
  | updateFloor _ pool after =>
    obtain rfl := Option.some.inj (hl.pool.symm.trans pool)
    subst after
    exact ⟨_, _, hl.append hl.config rfl rfl rfl hbal rfl rfl⟩
  | setInstantSell _ pool _ after =>
    obtain rfl := Option.some.inj (hl.pool.symm.trans pool)
    subst after
    exact ⟨_, _, hl.append hl.config rfl rfl rfl hbal rfl rfl⟩
  | setPause admin after =>
    obtain rfl := Option.some.inj (hl.config.symm.trans admin.config)
    subst after
    exact ⟨_, _, hl.append rfl hl.pool rfl rfl hbal rfl rfl⟩
  | cancelListing ok =>
    obtain rfl := ok.after
    exact ⟨c, p, hl.idle rfl rfl rfl rfl rfl rfl⟩
  | withdrawTreasury _ _ _ after =>
    subst after
    exact ⟨c, p, hl.idle rfl rfl rfl rfl rfl rfl⟩
  | external ok =>
    obtain ⟨-, hc, hp, -, hcards, -, -⟩ := External.sameRecords ok
    exact ⟨c, p, hl.idle hc hp hcards rfl rfl rfl⟩

end Step

/-- The books open at zero. -/
theorem Initialized.ledger {s : Chain} (h : Initialized s) : ∃ c p, Ledger [] s c p := by
  obtain ⟨a, b, p, m, l, ⟨g, tx, hg, hstep⟩⟩ := h
  have ok := initializeHandler_ok hstep
  have hcards : g.cards.card = 0 := by
    rw [Store.card_eq_total]
    refine Store.total_eq_zero fun k v hk => ?_
    rw [hg.cards k] at hk
    cases hk
  obtain rfl := ok.after
  exact ⟨_, _, ⟨rfl, rfl, rfl, rfl, rfl, rfl, hcards.symm⟩⟩

/-- A sink step burns its part of the cost and routes the rest. -/
def SplitsCost (d : Step) : Prop :=
  ∀ tx ix a cost, d.act = .program tx ix → ix.charge = some (a, cost) →
    ∃ burned toPool, burned + toPool = cost ∧ burned = bps cost 7000 ∧
      Splits d.before d.after a burned toPool

theorem splitsCost_of_step {d : Step} (h : step d.before d.act = .ok d.after) : SplitsCost d := by
  obtain ⟨s, act, s'⟩ := d
  rintro tx ix a cost rfl hix
  change step s (.program tx ix) = .ok s' at h
  cases step_effect h with
  | sink hix' ok =>
    rw [hix] at hix'
    cases hix'
    have hle : bps cost burnBps ≤ cost := bps_le (by decide) cost
    exact ⟨_, _, Nat.add_sub_of_le hle, rfl, ok.splits⟩
  | _ => cases hix

theorem ledger_run {s₀ : Chain} (h : Initialized s₀) (as : List Action) :
    ∃ c p, Ledger (trace step s₀ as) (run step s₀ as) c p := by
  refine trace_induction step (P := fun t s => ∃ c p, Ledger t s c p) h.ledger ?_ as
  rintro t s a s' ⟨c, p, hl⟩ hstep
  exact ledger_step hl hstep

/-- **The ledger is exact in every state of every run,** and every sink splits its whole cost. -/
theorem ledger_exact (s₀ : Chain) (h : Initialized s₀) (as : List Action) :
    (∃ c p, Ledger (trace step s₀ as) (run step s₀ as) c p) ∧
      ∀ d ∈ trace step s₀ as, SplitsCost d :=
  ⟨ledger_run h as, fun _ hd => splitsCost_of_step (step_of_mem_trace step hd)⟩

/-- Two mints, the second of a card that is there already: it reverts and is not counted. -/
theorem ledger_exact_two_mints :
    ∃ c p, Ledger
        (trace step .standard [mintOnStandard (.key 8) 2, mintOnStandard (.key 8) 2])
        (run step .standard [mintOnStandard (.key 8) 2, mintOnStandard (.key 8) 2]) c p ∧
      p.lifetimeIn = 5000000 ∧ c.totalCardsMinted = 1 := by
  obtain ⟨⟨c, p, hl⟩, -⟩ := ledger_exact .standard Chain.initialized_standard
    [mintOnStandard (.key 8) 2, mintOnStandard (.key 8) 2]
  refine ⟨c, p, hl, ?_, ?_⟩
  · have hp : ((run step .standard [mintOnStandard (.key 8) 2, mintOnStandard (.key 8) 2]).pool.map
        BuybackPool.lifetimeIn) = some 5000000 := by decide +kernel
    rw [hl.pool] at hp
    exact Option.some.inj hp
  · have hc : ((run step .standard [mintOnStandard (.key 8) 2, mintOnStandard (.key 8) 2]).config.map
        Config.totalCardsMinted) = some 1 := by decide +kernel
    rw [hl.config] at hc
    exact Option.some.inj hc

end Pokeage
