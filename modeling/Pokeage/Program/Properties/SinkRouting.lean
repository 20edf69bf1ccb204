import Pokeage.Program.Opening
import Pokeage.Program.Effect

/-!
# Where a sink's tokens go

A sink names the account that takes the pool part, and its context holds that account to the mint
alone. `Routed` is what the split promises: the player's own accounts lose the whole cost. It holds
exactly where the named account is not the player's.
-/

namespace Pokeage

open Infra Infra.Machine

/-- The player lost the cost: one part of it left the supply and the other reached an account of
someone else. -/
structure Routed (s s' : Chain) (a : SinkContext) (cost : ℕ) : Prop where
  lost : heldBy s'.tokens a.pageMint a.player + cost = heldBy s.tokens a.pageMint a.player
  burned : ∃ m m', s.mints.get a.pageMint = some m ∧ s'.mints.get a.pageMint = some m' ∧
    m'.supply + bps cost 7000 = m.supply
  pooled : ∃ t t', s.tokens.get a.poolToken = some t ∧ s'.tokens.get a.poolToken = some t' ∧
    t'.owner ≠ a.player ∧ t'.amount + bps cost 7000 = t.amount + cost

section Sink

variable {s s' : Chain} {tx : Tx} {a : SinkContext} {cost : ℕ} {c : Config} {m : Mint}
  {f t : TokenAccount} {ps : PlayerState}

/-- **What the player's accounts lose together.** The pool part comes back if the pool account is
one of them. -/
theorem SinkOk.heldBy_player (ok : SinkOk s tx a cost c m f t ps s') :
    heldBy s'.tokens a.pageMint a.player + cost = heldBy s.tokens a.pageMint a.player +
      (if t.owner = a.player then cost - bps cost burnBps else 0) := by
  have hle : bps cost burnBps ≤ cost := bps_le (by decide) cost
  have hcov := ok.covered
  obtain ⟨hsrc, t₁, hdst, hmint, howner, -⟩ := ok.debited
  have hburn := held_debit (p := fun m o => m = a.pageMint && o = a.player) ok.payer
    (n := bps cost burnBps) (by omega)
  have hmove := held_moveTokens (p := fun m o => m = a.pageMint && o = a.player) hsrc hdst
    (n := cost - bps cost burnBps) (by rw [TokenAccount.debit_amount]; omega)
  simp only [ok.payerMint, ok.payerOwner, TokenAccount.debit_mint, TokenAccount.debit_owner,
    decide_true, Bool.and_self, if_true, hmint, howner, Bool.true_and, decide_eq_true_eq]
    at hburn hmove
  obtain ⟨ev, rfl⟩ := ok.after
  change held (sunkTokens s.tokens a.sink cost) _ + cost = held s.tokens _ + _
  change held (sunkTokens s.tokens a.sink cost) _ + _ = _ at hmove
  omega

/-- The supply loses the burn part. -/
theorem SinkOk.supply_after (ok : SinkOk s tx a cost c m f t ps s') :
    ∃ m', s'.mints.get a.pageMint = some m' ∧ m'.supply + bps cost burnBps = m.supply := by
  obtain ⟨m₂, hm₂, hle, hm', -⟩ := ok.splits
  obtain rfl := Option.some.inj (ok.mint.symm.trans hm₂)
  refine ⟨_, hm', ?_⟩
  show m.supply - bps cost burnBps + _ = _
  omega

/-- A pool account of someone else receives the pool part. -/
theorem SinkOk.pool_after (ok : SinkOk s tx a cost c m f t ps s') (ho : t.owner ≠ a.player) :
    s'.tokens.get a.poolToken = some (t.credit (cost - bps cost burnBps)) := by
  have hne : a.poolToken ≠ a.playerToken := by
    intro he
    have hpool := ok.pool
    rw [he, ok.payer] at hpool
    exact ho (by rw [← Option.some.inj hpool]; exact ok.payerOwner)
  obtain ⟨-, t₁, hdst, -, -, htt⟩ := ok.debited
  rw [htt hne] at hdst
  obtain ⟨ev, rfl⟩ := ok.after
  exact get_moveTokens_dst hne.symm hdst

end Sink

/-- **When a sink routes its cost.** Exactly if the pool account it names has another owner than the
player. -/
theorem routed_iff (s s' : Chain) (tx : Tx) (ix : Instruction) (a : SinkContext) (cost : ℕ)
    (hix : ix.charge = some (a, cost)) (h : step s (.program tx ix) = .ok s') :
    Routed s s' a cost ↔ ∀ t, s.tokens.get a.poolToken = some t → t.owner ≠ a.player := by
  cases step_effect h with
  | @sink _ _ _ _ c m f t ps _ hix' ok =>
    rw [hix] at hix'
    cases hix'
    have hheld := ok.heldBy_player
    have hpart : bps cost burnBps < cost := by
      obtain ⟨k, hk, hcost⟩ := Instruction.charge_cost hix
      exact (bps_burnBps_pos (by omega)).2
    constructor
    · intro hr t' ht' ho
      obtain rfl := Option.some.inj (ok.pool.symm.trans ht')
      rw [if_pos ho] at hheld
      have hlost := hr.lost
      omega
    · intro hown
      have ho := hown t ok.pool
      rw [if_neg ho] at hheld
      obtain ⟨m', hm', hsup⟩ := ok.supply_after
      refine ⟨hheld, ⟨m, m', ok.mint, hm', hsup⟩, t, _, ok.pool, ok.pool_after ho, ho, ?_⟩
      show t.amount + (cost - bps cost burnBps) + bps cost burnBps = _
      omega
  | _ => cases hix

/-- Naming the paying account as the pool account keeps three hundred of the thousand tokens. -/
theorem not_routed_self : Reachable (run step .standard fundSink) ∧
    ∃ s', step (run step .standard fundSink) (deployOnStandard (.key 9)) = .ok s' ∧
      ¬Routed (run step .standard fundSink) s'
        { player := .key 6, playerState := .player (.key 6), config := .config, pageMint := .key 2,
          playerToken := .key 9, poolToken := .key 9 } deployCost := by
  refine ⟨(Chain.initialized_standard.reachable).run _, _,
    step_exec (by decide +kernel), fun hr => ?_⟩
  obtain ⟨t, t', -, ht', howner, -⟩ := hr.pooled
  have hafter : ((exec step (run step .standard fundSink) (deployOnStandard (.key 9))).tokens.get
      (.key 9)).map TokenAccount.owner = some (.key 6) := by decide +kernel
  rw [ht'] at hafter
  exact howner (Option.some.inj hafter)

/-- The pool's own account is routed to. -/
theorem routed_iff_pool :
    Routed (run step .standard fundSink)
        (exec step (run step .standard fundSink) (deployOnStandard (.key 10)))
        { player := .key 6, playerState := .player (.key 6), config := .config, pageMint := .key 2,
          playerToken := .key 9, poolToken := .key 10 } deployCost ↔
      ∀ t, (run step .standard fundSink).tokens.get (.key 10) = some t → t.owner ≠ .key 6 :=
  routed_iff _ _ _ _ _ _ rfl (step_exec (by decide +kernel))

end Pokeage
