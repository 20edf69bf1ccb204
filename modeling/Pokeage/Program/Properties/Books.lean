import Pokeage.Program.Opening
import Pokeage.Program.Properties.Records

/-!
# The books of the system and token programs

What the runtime guarantees, as invariants of the whole machine: supplies match what is held
(`Reachable.books`) and all lamports there are fit in a `u64` (`Reachable.bounded`). Each kind of
effect keeps the books by a lemma of its own; the step lemma picks the ones a step consists of.
-/

namespace Pokeage

open Infra Infra.Balance Infra.Machine

/-! ## Token books -/

namespace TokenBooks

variable {M : Store Pubkey Mint} {T : Tokens} {k src dst mint w : Pubkey} {f t : TokenAccount}
  {n : ℕ}

theorem isSome_of_get (h : TokenBooks M T) (ht : T.get k = some t) (hm : t.mint = mint) :
    (M.get mint).isSome := hm ▸ h.minted k t ht

theorem moveTokens (h : TokenBooks M T) (hf : T.get src = some f) (ht : T.get dst = some t)
    (hn : n ≤ f.amount) (hm : f.mint = t.mint) : TokenBooks M (moveTokens T src dst n) where
  supply k m hk := by
    rw [heldOf_moveTokens hf ht hn hm]
    exact h.supply k m hk
  minted k t' ht' := by
    obtain ⟨t₀, ht₀, hm₀, -⟩ := get_moveTokens_cases ht'
    rw [hm₀]
    exact h.minted k t₀ ht₀
  ata w k t' ht' := by
    obtain ⟨t₀, ht₀, hm₀, ho₀⟩ := get_moveTokens_cases ht'
    rw [hm₀, ho₀]
    exact h.ata w k t₀ ht₀

theorem ensureAta (h : TokenBooks M T) (hm : (M.get mint).isSome) :
    TokenBooks M (ensureAta T (.ata w mint) mint w) where
  supply k m hk := by
    rw [heldOf, held_ensureAta]
    exact h.supply k m hk
  minted k t' ht' := by
    rcases get_ensureAta_cases ht' with ht' | ⟨-, -, rfl⟩
    · exact h.minted k t' ht'
    · exact hm
  ata w' k t' ht' := by
    rcases get_ensureAta_cases ht' with ht' | ⟨hk, -, rfl⟩
    · exact h.ata w' k t' ht'
    · cases hk
      exact ⟨rfl, fun _ => rfl⟩

theorem erase (h : TokenBooks M T) (hf : T.get k = some f) (h0 : f.amount = 0) :
    TokenBooks M (T.erase k) where
  supply j m hj := by
    rw [heldOf, held_erase_empty hf h0]
    exact h.supply j m hj
  minted j t' ht' := by
    rw [Store.get_erase] at ht'
    split at ht'
    · cases ht'
    · exact h.minted j t' ht'
  ata w j t' ht' := by
    rw [Store.get_erase] at ht'
    split at ht'
    · cases ht'
    · exact h.ata w j t' ht'

/-- Rewriting one account without touching its mint or owner keeps the last two books. -/
theorem of_modify {g : TokenAccount → TokenAccount} (h : TokenBooks M T)
    {M' : Store Pubkey Mint} (hM : ∀ k, (M.get k).isSome → (M'.get k).isSome)
    (hmint : ∀ t, (g t).mint = t.mint) (howner : ∀ t, (g t).owner = t.owner)
    (hsup : ∀ k m, M'.get k = some m → heldOf (T.modify src g) k = m.supply ∧ m.supply < 2 ^ 64) :
    TokenBooks M' (T.modify src g) where
  supply := hsup
  minted k t' ht' := by
    rw [Store.get_modify] at ht'
    split at ht'
    · obtain ⟨t₀, ht₀, rfl⟩ := Option.map_eq_some_iff.mp ht'
      rw [hmint]
      exact hM _ (h.minted _ t₀ ht₀)
    · exact hM _ (h.minted k t' ht')
  ata w k t' ht' := by
    rw [Store.get_modify] at ht'
    split at ht'
    · next hk =>
      obtain ⟨t₀, ht₀, rfl⟩ := Option.map_eq_some_iff.mp ht'
      rw [hmint, howner]
      exact h.ata w k t₀ (by rw [hk]; exact ht₀)
    · exact h.ata w k t' ht'

/-- Burning takes the same from an account and from the supply of its mint. -/
theorem burn (h : TokenBooks M T) (hf : T.get src = some f) (hn : n ≤ f.amount) :
    TokenBooks (M.modify f.mint (Mint.burned n)) (T.modify src (TokenAccount.debit n)) := by
  refine h.of_modify ?_ (fun _ => rfl) (fun _ => rfl) ?_
  · intro k hk
    rw [Store.get_modify]
    split
    · next he => subst he; simpa using hk
    · exact hk
  · intro k m hk
    have hheld := held_debit (p := fun m _ => m = k) hf hn
    rw [Store.get_modify] at hk
    split at hk
    · next he =>
      subst he
      obtain ⟨m₀, hm₀, rfl⟩ := Option.map_eq_some_iff.mp hk
      obtain ⟨hs, hlt⟩ := h.supply f.mint m₀ hm₀
      simp only [decide_true, if_true] at hheld
      change heldOf T f.mint = _ at hs
      change heldOf (T.modify src _) f.mint + n = heldOf T f.mint at hheld
      show heldOf (T.modify src _) f.mint = m₀.supply - n ∧ m₀.supply - n < 2 ^ 64
      omega
    · next he =>
      rw [if_neg (by simpa using Ne.symm he)] at hheld
      change heldOf (T.modify src _) k + 0 = heldOf T k at hheld
      rw [← Nat.add_zero (heldOf _ _), hheld]
      exact h.supply k m hk

/-- Minting adds the same to both. -/
theorem mintTo (h : TokenBooks M T) {m : Mint} (hf : T.get dst = some f) (hm : M.get f.mint = some m)
    (hfit : m.supply + n < 2 ^ 64) :
    TokenBooks (M.modify f.mint fun m => { m with supply := m.supply + n })
      (T.modify dst (TokenAccount.credit n)) := by
  refine h.of_modify ?_ (fun _ => rfl) (fun _ => rfl) ?_
  · intro k hk
    rw [Store.get_modify]
    split
    · next he => subst he; simpa using hk
    · exact hk
  · intro k m' hk
    have hheld := held_credit (p := fun m _ => m = k) (n := n) hf
    change heldOf (T.modify dst _) k = heldOf T k + _ at hheld
    rw [hheld]
    rw [Store.get_modify] at hk
    split at hk
    · next he =>
      subst he
      rw [hm] at hk
      cases hk
      rw [(h.supply f.mint m hm).1]
      simpa using hfit
    · next he =>
      rw [if_neg (by simpa using Ne.symm he)]
      exact h.supply k m' hk

/-- A new mint has no supply, and nobody holds any of it. -/
theorem createMint (h : TokenBooks M T) {m : Mint} (hnew : M.get k = none) (h0 : m.supply = 0) :
    TokenBooks (M.set k m) T where
  supply j m' hj := by
    rw [Store.get_set] at hj
    split at hj
    · next he =>
      subst he
      cases hj
      rw [h0]
      refine ⟨Store.total_eq_zero fun i t ht => ?_, Nat.two_pow_pos 64⟩
      have hmint := h.minted i t ht
      have hne : t.mint ≠ j := by
        rintro rfl
        rw [hnew] at hmint
        cases hmint
      simp [hne]
    · exact h.supply j m' hj
  minted j t ht := by
    rw [Store.get_set]
    split
    · rfl
    · exact h.minted j t ht
  ata := h.ata

/-- Changing what a mint says of anything but its supply. -/
theorem setMint (h : TokenBooks M T) {m m' : Mint} (hm : M.get k = some m)
    (hs : m'.supply = m.supply) : TokenBooks (M.set k m') T where
  supply j m₁ hj := by
    rw [Store.get_set] at hj
    split at hj
    · next he =>
      subst he
      cases hj
      rw [hs]
      exact h.supply j m hm
    · exact h.supply j m₁ hj
  minted j t ht := by
    rw [Store.get_set]
    split
    · rfl
    · exact h.minted j t ht
  ata := h.ata

/-- An empty account opened at an address that signs. -/
theorem createTokenAccount (h : TokenBooks M T) {authority : Pubkey} (hkey : k.isKey)
    (hnew : T.get k = none) (hm : (M.get mint).isSome) :
    TokenBooks M (T.set k { mint, owner := authority, amount := 0 }) where
  supply j m hj := by
    rw [heldOf, held_set_empty hnew]
    exact h.supply j m hj
  minted j t ht := by
    rw [Store.get_set] at ht
    split at ht
    · cases ht; exact hm
    · exact h.minted j t ht
  ata w j t ht := by
    rw [Store.get_set_ne] at ht
    · exact h.ata w j t ht
    · rintro rfl
      cases hkey

/-- Handing an account of a key to another owner. -/
theorem setTokenOwner (h : TokenBooks M T) {next : Pubkey} (hf : T.get k = some f)
    (hkey : f.owner.isKey) : TokenBooks M (T.set k { f with owner := next }) where
  supply j m hj := by
    have htotal := T.total_set (fun _ t => if t.mint = j then t.amount else 0) k
      { f with owner := next }
    rw [Store.share_some hf] at htotal
    have hheld : heldOf (T.set k { f with owner := next }) j = heldOf T j := by
      simpa [heldOf, held] using htotal
    rw [hheld]
    exact h.supply j m hj
  minted j t ht := by
    rw [Store.get_set] at ht
    split at ht
    · cases ht; exact h.minted k f hf
    · exact h.minted j t ht
  ata w j t ht := by
    rw [Store.get_set] at ht
    split at ht
    · next hk =>
      subst hk
      cases ht
      obtain ⟨hmint, howner⟩ := h.ata w j f hf
      refine ⟨hmint, fun hw => ?_⟩
      rw [howner hw, hw] at hkey
      cases hkey
    · exact h.ata w j t ht

end TokenBooks

section Step

variable {s s' : Chain}

/-- The token program keeps its books. -/
theorem External.books {tx : Tx} {e : External} (h : e.apply s tx = .ok s')
    (hb : TokenBooks s.mints s.tokens) : TokenBooks s'.mints s'.tokens := by
  cases External.effect h with
  | systemTransfer _ => exact hb
  | assign => exact hb
  | createMint vacant => exact hb.createMint vacant.1 rfl
  | createTokenAccount signed vacant hm =>
    exact hb.createTokenAccount (tx.keys _ signed) vacant.2.1 (by rw [hm]; rfl)
  | createAta hm => exact hb.ensureAta (by rw [hm]; rfl)
  | mintTo hm ht htm fits =>
    subst htm
    exact hb.mintTo ht hm fits
  | setMintAuthority hm => exact hb.setMint hm rfl
  | tokenTransfer _ ok =>
    exact hb.moveTokens ok.src ok.dst ok.covered (ok.srcMint.trans ok.dstMint.symm)
  | tokenBurn _ card covered card_mint _ =>
    subst card_mint
    exact hb.burn card covered
  | closeTokenAccount _ card empty _ => exact hb.erase card empty
  | setTokenOwner signed card owner =>
    subst owner
    exact hb.setTokenOwner card (tx.keys _ signed)

/-- The unit leaves the escrow and the emptied escrow account is closed. -/
theorem EscrowOk.books_released {m escrow dst : Pubkey} {l : Listing} {t f : TokenAccount}
    {M : Store Pubkey Mint} {T : Tokens} (ok : EscrowOk s m escrow l t) (hb : TokenBooks M T)
    (hT : T.get escrow = some t) (hf : T.get dst = some f) (hfm : f.mint = m) (hfo : f.owner.isKey) :
    TokenBooks M ((moveTokens T escrow dst 1).erase escrow) := by
  have hne : escrow ≠ dst := by
    rintro rfl
    rw [hT] at hf
    cases hf
    rw [ok.escrowOwner] at hfo
    cases hfo
  refine (hb.moveTokens hT hf ok.unit.ge (ok.escrowMint.trans hfm.symm)).erase
    (get_moveTokens_src hne hT) ?_
  show t.amount - 1 = 0
  rw [ok.unit]

/-- So does every step. -/
theorem books_step {a : Action} (h : step s a = .ok s') (hb : TokenBooks s.mints s.tokens) :
    TokenBooks s'.mints s'.tokens := by
  cases step_effect h with
  | external ok => exact External.books ok hb
  | @sink tx ix a cost c m f t _ _ _ ok =>
    have hle : bps cost burnBps ≤ cost := bps_le (by decide) cost
    have hcov := ok.covered
    have hburn := hb.burn ok.payer (n := bps cost burnBps) (by omega)
    obtain ⟨hsrc, t₁, ht₁, hm₁, -, -⟩ := ok.debited
    have hpm := ok.payerMint
    obtain ⟨ev, rfl⟩ := ok.after
    rw [hpm] at hburn
    refine hburn.moveTokens hsrc ht₁ ?_ (hpm.trans hm₁.symm)
    show cost - bps cost burnBps ≤ f.amount - bps cost burnBps
    omega
  | @listCard tx a _ _ _ _ _ _ m f t _ ok =>
    have hm : (s.mints.get a.cardMint).isSome := by rw [ok.mint]; rfl
    have hata : TokenBooks s.mints (ListCard.escrowed s a) := hb.ensureAta hm
    rw [ok.after]
    exact hata.moveTokens (get_ensureAta ok.card) ok.escrow ok.cardCovered
      (ok.cardMint.trans ok.escrowMint.symm)
  | cancelListing ok =>
    have hkey := Tx.keys _ _ ok.signed
    rw [← ok.cardOwner] at hkey
    rw [ok.after]
    exact ok.toEscrowOk.books_released hb ok.escrow ok.card ok.cardMint hkey
  | @buyCard tx a _ _ _ f t _ ok =>
    have hkey := Tx.keys _ _ ok.signed
    rw [← ok.cardOwner] at hkey
    have hm := hb.isSome_of_get ok.escrow ok.escrowMint
    have hata : TokenBooks s.mints (BuyCard.opened s a) := hb.ensureAta hm
    rw [ok.after]
    exact ok.toEscrowOk.books_released hata (get_ensureAta ok.escrow) ok.card ok.cardMint hkey
  | @instantSell tx a _ _ f t _ ok =>
    have hm := hb.isSome_of_get ok.card ok.cardMint
    have hata : TokenBooks s.mints (InstantSell.opened s a) := by
      rw [InstantSell.opened, ok.vaultCard_eq]
      exact hb.ensureAta hm
    rw [ok.after]
    exact hata.moveTokens (get_ensureAta ok.card) ok.vaultCard ok.cardCovered
      (ok.cardMint.trans ok.vaultCardMint.symm)
  | initializeProgram ok => rw [ok.after]; exact hb
  | mintCard ok => rw [ok.after]; exact hb
  | updateFloor _ _ after => rw [after]; exact hb
  | setInstantSell _ _ _ after => rw [after]; exact hb
  | withdrawTreasury _ _ _ after => rw [after]; exact hb
  | setPause _ after => rw [after]; exact hb

/-! ## Lamports -/

/-- No step makes lamports. -/
theorem bounded_step {a : Action} (h : step s a = .ok s') (hb : Bounded s.lamports (2 ^ 64)) :
    Bounded s'.lamports (2 ^ 64) := by
  cases step_effect h with
  | mintCard ok => rw [ok.after]; exact (hb.move ok.covered).move ok.coveredRest
  | listCard ok => rw [ok.after]; exact hb.move ok.covered
  | cancelListing ok => rw [ok.after]; exact hb.sweep.sweep
  | buyCard ok =>
    rw [ok.after]
    exact (((hb.move ok.coveredNet).move ok.coveredPool).move ok.coveredBurn).sweep.sweep
  | instantSell ok => rw [ok.after]; exact hb.move ok.covered
  | withdrawTreasury _ _ covered after => rw [after]; exact hb.move covered
  | sink _ ok => obtain ⟨ev, rfl⟩ := ok.after; exact hb
  | initializeProgram ok => rw [ok.after]; exact hb
  | updateFloor _ _ after => rw [after]; exact hb
  | setInstantSell _ _ _ after => rw [after]; exact hb
  | setPause _ after => rw [after]; exact hb
  | external ok =>
    cases External.effect ok with
    | systemTransfer covered => exact hb.move covered
    | closeTokenAccount _ _ _ _ => exact hb.sweep
    | _ => exact hb

end Step

/-! ## In every reachable state -/

/-- Every reachable chain has its books in order. -/
theorem Reachable.books {s : Chain} (h : Reachable s) : TokenBooks s.mints s.tokens := by
  refine Reachable.induction (P := fun s => TokenBooks s.mints s.tokens) ?_
    (fun s a s' hb hstep => books_step hstep hb) h
  rintro s ⟨a, b, p, m, l, ⟨g, tx, hg, hstep⟩⟩
  rw [(initializeHandler_ok hstep).after]
  exact hg.books

/-- All its lamports fit in a `u64`. -/
theorem Reachable.bounded {s : Chain} (h : Reachable s) : Bounded s.lamports (2 ^ 64) := by
  refine Reachable.induction (P := fun s => Bounded s.lamports (2 ^ 64)) ?_
    (fun s a s' hb hstep => bounded_step hstep hb) h
  rintro s ⟨a, b, p, m, l, ⟨g, tx, hg, hstep⟩⟩
  rw [(initializeHandler_ok hstep).after]
  exact hg.lamports

end Pokeage
