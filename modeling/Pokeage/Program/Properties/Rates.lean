import Pokeage.Program.Opening
import Pokeage.Program.Properties.Records
import Mathlib.Tactic.Ring

/-!
# Stored and charged rates

`Config` stores four rates and a fee. `ChargesStored` says that a step charged at the stored ones,
read off what it did to lamports, token accounts and the supply. Trades, listings and instant sells
always do. The sinks burn at the constant `BURN_BPS`, which `initialize` does not force the stored
`burn_bps` to be.
-/

namespace Pokeage

open Infra Infra.Balance Infra.Machine

/-- The step charged at the rates that `c`, the config before it, stores. -/
structure ChargesAt (d : Step) (c : Config) : Prop where
  sink : ∀ tx ix a cost, d.act = .program tx ix → ix.charge = some (a, cost) →
    ∃ toPool, bps cost c.burnBps + toPool = cost ∧
      Splits d.before d.after a (bps cost c.burnBps) toPool
  trade : ∀ tx a, d.act = .program tx (.buyCard a) → ∃ l fee cut,
    d.before.listings.get a.cardMint = some l ∧ fee = bps l.price c.marketFeeBps ∧
      cut ≤ fee ∧ fee ≤ l.price ∧
      d.after.lamports = closedLamports (move (move (move d.before.lamports
        a.buyer l.seller (l.price - fee)) a.buyer c.buybackVault cut) a.buyer c.treasury (fee - cut))
        a.escrowCard (.listing a.cardMint) l.seller
  listing : ∀ tx a price tier level stage,
    d.act = .program tx (.listCard a price tier level stage) →
      c.listingFee ≤ d.before.lamports a.seller ∧
        d.after.lamports = move d.before.lamports a.seller c.buybackVault c.listingFee
  sell : ∀ tx a, d.act = .program tx (.instantSell a) → ∃ p,
    d.before.pool = some p ∧
      bps p.floorPrice c.instantSellBps ≤ d.before.lamports c.buybackVault ∧
      d.after.lamports = move d.before.lamports c.buybackVault a.seller
        (bps p.floorPrice c.instantSellBps)

/-- The step charges at the rates of the config it finds. -/
def ChargesStored (d : Step) : Prop := ∃ c, d.before.config = some c ∧ ChargesAt d c

/-- Whether a step is one of the four sinks. -/
def IsSink (d : Step) : Prop :=
  ∃ tx ix a cost, d.act = .program tx ix ∧ ix.charge = some (a, cost)

section Step

variable {s s' : Chain} {act : Action} {c : Config}

/-- Every step charges at the stored rates, a sink only where the stored rate is the constant. -/
theorem chargesAt_step (h : step s act = .ok s') (hc : s.config = some c)
    (hsell : c.instantSellBps = instantSellBps)
    (hburn : c.burnBps = burnBps ∨ ¬IsSink ⟨s, act, s'⟩) : ChargesAt ⟨s, act, s'⟩ c where
  sink := by
    rintro tx ix a cost rfl hix
    rcases hburn with hburn | hno
    · cases step_effect h with
      | sink hix' ok =>
        rw [hix] at hix'
        cases hix'
        rw [hburn]
        exact ⟨_, Nat.add_sub_of_le (bps_le (by decide) cost), ok.splits⟩
      | _ => cases hix
    · exact absurd ⟨tx, ix, a, cost, rfl, hix⟩ hno
  trade := by
    rintro tx a rfl
    cases step_effect h with
    | @sink _ _ _ _ _ _ _ _ _ _ hix _ => cases hix
    | @buyCard _ _ c' p l f t _ ok =>
      obtain rfl := Option.some.inj (hc.symm.trans ok.config)
      refine ⟨l, tradeFee c l, tradePoolCut c l, ok.listing, rfl, ok.poolCut_le, ok.fee_le, ?_⟩
      show s'.lamports = _
      rw [ok.after, ← ok.vault, ← ok.treasury, ← ok.seller]
      rfl
  listing := by
    rintro tx a price tier level stage rfl
    cases step_effect h with
    | @sink _ _ _ _ _ _ _ _ _ _ hix _ => cases hix
    | listCard ok =>
      obtain rfl := Option.some.inj (hc.symm.trans ok.config)
      refine ⟨ok.covered, ?_⟩
      show s'.lamports = _
      rw [ok.after, ← ok.vault]
  sell := by
    rintro tx a rfl
    cases step_effect h with
    | @sink _ _ _ _ _ _ _ _ _ _ hix _ => cases hix
    | @instantSell _ _ c' p f t _ ok =>
      obtain rfl := Option.some.inj (hc.symm.trans ok.config)
      rw [hsell, ← ok.vault]
      refine ⟨p, ok.pool, ok.covered, ?_⟩
      show s'.lamports = _
      rw [ok.after]
      rfl

/-- Costs are whole multiples of the denominator, so different rates burn different amounts. -/
theorem bps_cost_inj {ix : Instruction} {a : SinkContext} {cost r₁ r₂ : ℕ}
    (hix : ix.charge = some (a, cost)) (h : bps cost r₁ = bps cost r₂) : r₁ = r₂ := by
  obtain ⟨k, hk, rfl⟩ := Instruction.charge_cost hix
  have hexact : ∀ r, bps (k * 10000000) r = k * 1000 * r := by
    intro r
    unfold bps bpsDenom
    rw [show k * 10000000 * r = k * 1000 * r * 10000 by ring]
    exact Nat.mul_div_cancel _ (by norm_num)
  rw [hexact, hexact] at h
  exact Nat.eq_of_mul_eq_mul_left (by omega) h

/-- A sink that charged at the stored rate shows that this is the constant. -/
theorem burnBps_of_sink (h : step s act = .ok s') (hs : IsSink ⟨s, act, s'⟩)
    (hc : ChargesAt ⟨s, act, s'⟩ c) : c.burnBps = burnBps := by
  obtain ⟨tx, ix, a, cost, rfl, hix⟩ := hs
  obtain ⟨-, -, m, hm, hle, hm', -⟩ := hc.sink tx ix a cost rfl hix
  cases step_effect h with
  | sink hix' ok =>
    rw [hix] at hix'
    cases hix'
    obtain ⟨m₂, hm₂, hle₂, hm₂', -⟩ := ok.splits
    obtain rfl := Option.some.inj (hm.symm.trans hm₂)
    have hsup := congrArg Mint.supply (Option.some.inj (hm'.symm.trans hm₂'))
    change m.supply - _ = m.supply - _ at hsup
    exact bps_cost_inj hix (by omega)
  | _ => cases hix

end Step

section Run

variable {s₀ : Chain} {a : Initialize} {b p m : UInt16} {l : UInt64}

/-- The rates of the config before any step are those `initialize` stored. -/
theorem InitializedWith.rates_of_mem (h : InitializedWith s₀ a b p m l) {as : List Action}
    {d : Step} (hd : d ∈ trace step s₀ as) : ∃ c, d.before.config = some c ∧
      c.burnBps = b.toNat ∧ c.instantSellBps = instantSellBps := by
  refine before_of_mem_trace step (P := fun s => ∃ c, s.config = some c ∧
    c.burnBps = b.toNat ∧ c.instantSellBps = instantSellBps) ?_ ?_ hd
  · obtain ⟨c, q, hl, -, hb, -, -, hi⟩ := h.live
    exact ⟨c, hl.config, hb, hi⟩
  · rintro s act s' ⟨c, hc, hb, hi⟩ hstep
    obtain ⟨c', hc', hr⟩ := step_config hstep hc
    exact ⟨c', hc', (Config.of_rates Config.burnBps (fun _ => rfl) hr).trans hb,
      (Config.of_rates Config.instantSellBps (fun _ => rfl) hr).trans hi⟩

/-- **When the stored rates are the charged ones.** Every step of a run charges at them exactly if
`initialize` stored the constant burn rate or the run has no sink. -/
theorem chargesStored_iff (s₀ : Chain) (a : Initialize) (b p m : UInt16) (l : UInt64)
    (h : InitializedWith s₀ a b p m l) (as : List Action) :
    (∀ d ∈ trace step s₀ as, ChargesStored d) ↔
      b.toNat = 7000 ∨ ∀ d ∈ trace step s₀ as, ¬IsSink d := by
  constructor
  · intro hall
    by_contra hcon
    push Not at hcon
    obtain ⟨hb, d, hd, hsink⟩ := hcon
    obtain ⟨c, hc, hcb, -⟩ := h.rates_of_mem hd
    obtain ⟨c', hc', hch⟩ := hall d hd
    obtain rfl := Option.some.inj (hc.symm.trans hc')
    exact hb (hcb.symm.trans (burnBps_of_sink (step_of_mem_trace step hd) hsink hch))
  · intro hcond d hd
    obtain ⟨c, hc, hcb, hci⟩ := h.rates_of_mem hd
    refine ⟨c, hc, chargesAt_step (step_of_mem_trace step hd) hc hci ?_⟩
    rcases hcond with hb | hno
    · exact Or.inl (hcb.trans hb)
    · exact Or.inr (hno d hd)

end Run

/-! ## An even split -/

/-- A chain whose config stores an even split between burn and pool. -/
def Chain.evenSplit : Chain :=
  opened [(.key 6, 1000000000000)] [.key 4] 1 (.key 2) (.key 3) (.key 4) 5000 5000 500 10000000

theorem initializedWith_evenSplit : InitializedWith .evenSplit
    { authority := .key 1, config := .config, buybackPool := .buybackPool, pageMint := .key 2,
      treasury := .key 3, buybackVault := .key 4 } 5000 5000 500 10000000 :=
  Chain.initializedWith_opened (by decide) (by decide) (by decide)

/-- A deploy for a thousand tokens burns seven hundred of them where the config says five hundred. -/
theorem not_chargesStored_evenSplit : Initialized .evenSplit ∧
    ∃ d ∈ trace step .evenSplit (fundSink ++ [deployOnStandard (.key 10)]), ¬ChargesStored d := by
  refine ⟨⟨_, _, _, _, _, initializedWith_evenSplit⟩, _, mem_trace_concat (by decide +kernel), ?_⟩
  rintro ⟨c, hc, hch⟩
  obtain ⟨-, -, m, hm, -, hm', -⟩ := hch.sink _ _ _ _ rfl rfl
  have hconf : (run step .evenSplit fundSink).config.map Config.burnBps = some 5000 := by
    decide +kernel
  have hbefore : (run step .evenSplit fundSink).mints.get (.key 2) =
      some ⟨2000000000, 6, some (.key 1)⟩ := by decide +kernel
  have hafter : (run step .evenSplit (fundSink ++ [deployOnStandard (.key 10)])).mints.get (.key 2)
      = some ⟨1300000000, 6, some (.key 1)⟩ := by decide +kernel
  rw [hc] at hconf
  obtain rfl := Option.some.inj (hbefore.symm.trans hm)
  rw [Option.some.inj hconf] at hm'
  have hsup := congrArg Mint.supply (Option.some.inj (hafter.symm.trans hm'))
  exact absurd hsup (by decide)

theorem chargesStored_iff_evenSplit :
    (∀ d ∈ trace step .evenSplit (fundSink ++ [deployOnStandard (.key 10)]), ChargesStored d) ↔
      (5000 : UInt16).toNat = 7000 ∨
        ∀ d ∈ trace step .evenSplit (fundSink ++ [deployOnStandard (.key 10)]), ¬IsSink d :=
  chargesStored_iff _ _ _ _ _ _ initializedWith_evenSplit _

end Pokeage
