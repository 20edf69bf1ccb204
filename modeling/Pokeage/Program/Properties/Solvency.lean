import Pokeage.Program.Opening
import Pokeage.Program.Properties.Records

/-!
# The vault behind the pool

`totalLamports` is a counter; the money it counts lies in `buyback_vault`. Every charge raises both
and every payout lowers both by the same amount. What can take the vault's lamports without the
counter noticing is a role that the vault plays on the side: the treasury, a payer, or an account
that a closing listing empties. `SparesVault` says that a step gives it none of these.
-/

namespace Pokeage

open Infra Infra.Balance Infra.Machine

/-- The vault holds at least what the pool counts. -/
def VaultSolvent (s : Chain) : Prop :=
  ∀ c p, s.config = some c → s.pool = some p → p.totalLamports ≤ s.lamports c.buybackVault

/-- The vault is in no role of the step that pays. -/
def SparesVault (d : Step) : Prop :=
  ∀ c, d.before.config = some c →
    match d.act with
    | .program _ (.mintCard a _ _ _) => a.payer ≠ c.buybackVault
    | .program _ (.listCard a _ _ _ _) => a.seller ≠ c.buybackVault ∨ c.listingFee = 0
    | .program _ (.buyCard a) => a.buyer ≠ c.buybackVault ∧ a.escrowCard ≠ c.buybackVault ∧
        .listing a.cardMint ≠ c.buybackVault
    | .program _ (.cancelListing a) =>
      a.escrowCard ≠ c.buybackVault ∧ .listing a.cardMint ≠ c.buybackVault
    | .program _ (.withdrawTreasury a amount) =>
      c.treasury ≠ c.buybackVault ∨ a.authority = c.buybackVault ∨ amount = 0
    | _ => True

/-- Only the program's instructions move the vault's lamports. -/
def VaultLeftAlone (d : Step) : Prop :=
  match d.act with
  | .external .. => ∀ c, d.before.config = some c →
      d.after.lamports c.buybackVault = d.before.lamports c.buybackVault
  | .program .. => True

/-- Closing a listing takes nothing from an account that is not closed. -/
theorem le_closedLamports {l : Pubkey → ℕ} {escrow listing dst k : Pubkey} (he : k ≠ escrow)
    (hl : k ≠ listing) : l k ≤ closedLamports l escrow listing dst k :=
  le_trans (le_sweep he) (le_sweep hl)

/-- A purchase by someone else gives the vault at least its share of the fee. -/
theorem le_paidLamports {s : Chain} {a : BuyCard} {c : Config} {l : Listing}
    (hbuyer : a.buyer ≠ a.buybackVault) :
    s.lamports a.buybackVault + tradePoolCut c l ≤ paidLamports s a c l a.buybackVault :=
  calc s.lamports a.buybackVault + tradePoolCut c l
      ≤ move s.lamports a.buyer a.seller (l.price - tradeFee c l) a.buybackVault
          + tradePoolCut c l := Nat.add_le_add_right (le_move hbuyer.symm) _
    _ = move (move s.lamports a.buyer a.seller (l.price - tradeFee c l)) a.buyer a.buybackVault
          (tradePoolCut c l) a.buybackVault := (move_dst hbuyer).symm
    _ ≤ paidLamports s a c l a.buybackVault := le_move hbuyer.symm

/-- A withdrawal takes nothing from another account, from the one it goes to, or if it is of nothing. -/
theorem le_withdrawn {l : Pubkey → ℕ} {src dst k : Pubkey} {n : ℕ} (hn : n ≤ l src)
    (spared : src ≠ k ∨ dst = k ∨ n = 0) : l k ≤ move l src dst n k := by
  by_cases hs : src = k
  · rcases spared with hne | rfl | rfl
    · exact absurd hs hne
    · rw [hs, move_self (hs ▸ hn)]
    · rw [move_zero]
  · exact le_move (Ne.symm hs)

section Step

variable {s s' : Chain} {a : Action} {c c' : Config} {p p' : BuybackPool} {n : ℕ}

/-- A step that raises the counter by `n` and the vault by at least as much. -/
theorem VaultSolvent.raise (hv : VaultSolvent s) (hc : s.config = some c) (hp : s.pool = some p)
    (hc' : s'.config = some c') (hp' : s'.pool = some p')
    (hvault : c'.buybackVault = c.buybackVault)
    (hcount : p'.totalLamports = p.totalLamports + n)
    (hmoney : s.lamports c.buybackVault + n ≤ s'.lamports c.buybackVault) : VaultSolvent s' := by
  intro c₁ p₁ hc₁ hp₁
  obtain rfl := Option.some.inj (hc'.symm.trans hc₁)
  obtain rfl := Option.some.inj (hp'.symm.trans hp₁)
  have := hv c p hc hp
  rw [hvault, hcount]
  omega

/-- A step that leaves config and pool and takes nothing from the vault. -/
theorem VaultSolvent.of_le (hv : VaultSolvent s) (hc : s.config = some c)
    (hconf : s'.config = s.config) (hp : s'.pool = s.pool)
    (h : s.lamports c.buybackVault ≤ s'.lamports c.buybackVault) : VaultSolvent s' := by
  intro c₁ p₁ hc₁ hp₁
  rw [hconf, hc] at hc₁
  rw [hp] at hp₁
  cases hc₁
  exact le_trans (hv c p₁ hc hp₁) h

theorem vaultSolvent_step (hv : VaultSolvent s) (hc : s.config = some c)
    (hs : SparesVault ⟨s, a, s'⟩) (hx : VaultLeftAlone ⟨s, a, s'⟩) (h : step s a = .ok s') :
    VaultSolvent s' := by
  cases step_effect h with
  | initializeProgram ok =>
    rw [ok.config] at hc
    cases hc
  | sink _ ok =>
    obtain rfl := Option.some.inj (hc.symm.trans ok.config)
    obtain ⟨ev, rfl⟩ := ok.after
    exact fun c₁ p₁ hc₁ hp₁ => by cases hc₁; exact hv c p₁ hc hp₁
  | @mintCard tx a tier stage level c₁ p fee _ ok =>
    obtain rfl := Option.some.inj (hc.symm.trans ok.config)
    have hpayer : a.payer ≠ c.buybackVault := hs c hc
    have hvault := ok.vault
    have hpool := ok.pool
    obtain rfl := ok.after
    refine hv.raise (n := bps fee 5000) hc hpool rfl rfl rfl rfl ?_
    rw [← hvault] at hpayer ⊢
    calc s.lamports a.buybackVault + bps fee 5000
        = move s.lamports a.payer a.buybackVault (bps fee 5000) a.buybackVault :=
          (move_dst hpayer).symm
      _ ≤ _ := le_move hpayer.symm
  | @listCard tx a price tier level stage c₁ p m f t _ ok =>
    obtain rfl := Option.some.inj (hc.symm.trans ok.config)
    have hseller : a.seller ≠ c.buybackVault ∨ c.listingFee = 0 := hs c hc
    have hvault := ok.vault
    have hpool := ok.pool
    obtain rfl := ok.after
    refine hv.raise (n := c.listingFee) hc hpool hc rfl rfl rfl ?_
    rcases hseller with hne | hzero
    · rw [← hvault] at hne ⊢
      exact (move_dst hne).ge
    · rw [hzero, Nat.add_zero]
      exact le_of_eq (congrFun move_zero.symm _)
  | @cancelListing tx a l f t _ ok =>
    obtain ⟨hesc, hlist⟩ := hs c hc
    obtain rfl := ok.after
    exact hv.of_le hc rfl rfl (le_closedLamports hesc.symm hlist.symm)
  | @buyCard tx a c₁ p l f t _ ok =>
    obtain rfl := Option.some.inj (hc.symm.trans ok.config)
    obtain ⟨hbuyer, hesc, hlist⟩ := hs c hc
    have hvault := ok.vault
    have hpool := ok.pool
    obtain rfl := ok.after
    refine hv.raise (n := tradePoolCut c l) hc hpool hc rfl rfl rfl ?_
    rw [← hvault] at hbuyer hesc hlist ⊢
    exact (le_paidLamports hbuyer).trans (le_closedLamports hesc.symm hlist.symm)
  | @instantSell tx a c₁ p f t _ ok =>
    obtain rfl := Option.some.inj (hc.symm.trans ok.config)
    have hbacked := ok.backed (hv c p hc ok.pool)
    obtain rfl := ok.after
    intro c₁ p₁ hc₁ hp₁
    obtain rfl := Option.some.inj (hc.symm.trans hc₁)
    cases hp₁
    exact hbacked
  | updateFloor _ pool after =>
    subst after
    exact hv.raise (n := 0) hc pool hc rfl rfl rfl le_rfl
  | setInstantSell _ pool _ after =>
    subst after
    exact hv.raise (n := 0) hc pool hc rfl rfl rfl le_rfl
  | setPause admin after =>
    obtain rfl := Option.some.inj (hc.symm.trans admin.config)
    subst after
    exact fun c₁ p₁ hc₁ hp₁ => by cases hc₁; exact hv c p₁ hc hp₁
  | @withdrawTreasury tx a amount c₁ _ admin treasury covered after =>
    obtain rfl := Option.some.inj (hc.symm.trans admin.config)
    have hwd : c.treasury ≠ c.buybackVault ∨ a.authority = c.buybackVault ∨ amount = 0 := hs c hc
    subst after
    refine hv.of_le hc rfl rfl ?_
    rw [← treasury] at hwd
    exact le_withdrawn covered <| hwd.imp_right (Or.imp_right fun hzero => by rw [hzero]; rfl)
  | external ok =>
    have hsame := External.sameRecords ok
    exact hv.of_le hc hsame.config hsame.pool (le_of_eq (hx c hc).symm)

end Step

/-- **When the vault stays solvent.** In every run whose steps give the vault no paying role, the
vault covers the pool in every state. -/
theorem vaultSolvent_run (s₀ : Chain) (h : Initialized s₀) (as : List Action)
    (hx : ∀ d ∈ trace step s₀ as, VaultLeftAlone d)
    (hs : ∀ d ∈ trace step s₀ as, SparesVault d) : Always step s₀ as VaultSolvent := by
  have hboth : Always step s₀ as fun s => VaultSolvent s ∧ ∃ c, s.config = some c := by
    refine always_of_steps step (C := fun d => VaultLeftAlone d ∧ SparesVault d) ?_ ?_
      (fun d hd => ⟨hx d hd, hs d hd⟩)
    · obtain ⟨c, p, hl⟩ := h.reachable.live
      refine ⟨?_, c, hl.config⟩
      obtain ⟨a, b, q, m, f, ⟨g, tx, -, hstep⟩⟩ := h
      intro c₁ p₁ _ hp₁
      rw [(initializeHandler_ok hstep).after] at hp₁
      cases hp₁
      exact Nat.zero_le _
    · rintro s a s' ⟨hv, c, hc⟩ ⟨hx, hs⟩ hstep
      obtain ⟨c', hc', -⟩ := step_config hstep hc
      exact ⟨vaultSolvent_step hv hc hs hx hstep, c', hc'⟩
  intro pre hpre
  exact (hboth pre hpre).1

/-! ## One address for treasury and vault -/

/-- A chain initialized with address 4 as both treasury and vault. -/
def Chain.sharedVault : Chain :=
  opened [(.key 6, 1000000000000)] [.key 4] 1 (.key 2) (.key 4) (.key 4) 7000 3000 500 10000000

theorem initialized_sharedVault : Initialized .sharedVault :=
  ⟨_, _, _, _, _, Chain.initializedWith_opened (by decide) (by decide) (by decide)⟩

/-- A card of the top tier is minted, then the authority withdraws the whole fee. -/
def withdrawShared : List Action :=
  [.program (.by [6] 0) (.mintCard
    { payer := .key 6, config := .config, buybackPool := .buybackPool, cardMint := .key 8,
      cardMeta := .card (.key 8), buybackVault := .key 4, treasury := .key 4 } 5 1 5),
   .program (.by [1] 0) (.withdrawTreasury
    { authority := .key 1, config := .config, treasury := .key 4 } 1000000000)]

/-- The pool counts half a SOL and the vault is empty. -/
theorem not_vaultSolvent_withdrawShared :
    Initialized .sharedVault ∧ ¬VaultSolvent (run step .sharedVault withdrawShared) := by
  refine ⟨initialized_sharedVault, fun hv => ?_⟩
  obtain ⟨c, p, hl⟩ := (initialized_sharedVault.reachable.run withdrawShared).live
  have hle := hv c p hl.config hl.pool
  have hvault : (run step .sharedVault withdrawShared).config.map Config.buybackVault
      = some (.key 4) := by decide +kernel
  have hpool : (run step .sharedVault withdrawShared).pool.map BuybackPool.totalLamports
      = some 500000000 := by decide +kernel
  have hlam : (run step .sharedVault withdrawShared).lamports (.key 4) = 0 := by decide +kernel
  rw [hl.config] at hvault
  rw [hl.pool] at hpool
  rw [Option.some.inj hvault, Option.some.inj hpool, hlam] at hle
  exact absurd hle (by decide)

/-- A mint paid by user 6 gives the vault no paying role. -/
theorem vaultSolvent_mint : Always step .standard [mintOnStandard (.key 8) 5] VaultSolvent := by
  have hdone : (step .standard (mintOnStandard (.key 8) 5)).isOk := by decide +kernel
  have hconf : Chain.standard.config.map Config.buybackVault = some (.key 4) := by decide +kernel
  refine vaultSolvent_run _ Chain.initialized_standard _ ?_ ?_
  · intro d hd
    rw [trace_cons_ok (step_exec hdone), trace_nil, List.mem_singleton] at hd
    subst hd
    trivial
  · intro d hd
    rw [trace_cons_ok (step_exec hdone), trace_nil, List.mem_singleton] at hd
    subst hd
    intro c hc
    change Chain.standard.config = some c at hc
    rw [hc] at hconf
    show Pubkey.key 6 ≠ c.buybackVault
    rw [Option.some.inj hconf]
    decide

end Pokeage
