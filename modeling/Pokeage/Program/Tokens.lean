import Pokeage.Program.State
import Mathlib.Tactic.Linarith

/-!
# The system and token programs

The operations of the two programs that the handlers call, and their effect on the books they keep.
Each returns the chain it leaves, or refuses. Beside each stands the lemma that says when it
succeeds and what it then changed; nothing later unfolds an operation.

* `systemTransfer`, `pay` — lamports of a system account, `pay` skipping an amount of zero
* `transferChecked`, `burn`, `closeAccount`, `initAtaIfNeeded` — token accounts

A token operation takes the authority it is done under. That the authority signed, itself or by the
seeds of its address, is for the caller to see to.
-/

namespace Pokeage

open Infra Infra.Balance

/-- Token accounts by address. -/
abbrev Tokens := Store Pubkey TokenAccount

/-! ## Pure effects on token accounts -/

/-- Debit one account, then credit the other. They may be the same one. -/
def moveTokens (T : Tokens) (src dst : Pubkey) (n : ℕ) : Tokens :=
  (T.modify src (TokenAccount.debit n)).modify dst (TokenAccount.credit n)

/-- Open the account at `k` with nothing in it, unless there is one. -/
def ensureAta (T : Tokens) (k mint authority : Pubkey) : Tokens :=
  match T.get k with
  | none => T.set k { mint, owner := authority, amount := 0 }
  | some _ => T

/-- What the accounts hold together whose mint and owner satisfy `p`. -/
def held (T : Tokens) (p : Pubkey → Pubkey → Bool) : ℕ :=
  T.total fun _ t => if p t.mint t.owner then t.amount else 0

/-- What `owner` holds of `mint`. -/
def heldBy (T : Tokens) (mint owner : Pubkey) : ℕ := held T fun m o => m = mint && o = owner

/-- What all owners together hold of `mint`. -/
def heldOf (T : Tokens) (mint : Pubkey) : ℕ := held T fun m _ => m = mint

section Effects

variable {T : Tokens} {src dst k mint authority : Pubkey} {n : ℕ} {f t : TokenAccount}
  {p : Pubkey → Pubkey → Bool}

theorem get_ensureAta_of_some (h : T.get k = some t) : ensureAta T k mint authority = T := by
  unfold ensureAta
  rw [h]

theorem get_ensureAta_ne {j : Pubkey} (h : j ≠ k) :
    (ensureAta T k mint authority).get j = T.get j := by
  unfold ensureAta
  split
  · exact T.get_set_ne _ h
  · rfl

/-- The account is there afterwards. -/
theorem get_ensureAta_self : ∃ t, (ensureAta T k mint authority).get k = some t ∧
    (T.get k = some t ∨ T.get k = none ∧ t = { mint, owner := authority, amount := 0 }) := by
  unfold ensureAta
  cases h : T.get k with
  | none => exact ⟨_, T.get_set_self _ _, Or.inr ⟨rfl, rfl⟩⟩
  | some t => exact ⟨t, h, Or.inl rfl⟩

/-- An account that was there is there unchanged. -/
theorem get_ensureAta (h : T.get src = some f) :
    (ensureAta T k mint authority).get src = some f := by
  by_cases hk : src = k
  · subst hk; rw [get_ensureAta_of_some h]; exact h
  · rw [get_ensureAta_ne hk, h]

/-- An account that is there afterwards was there, or is the new empty one. -/
theorem get_ensureAta_cases (h : (ensureAta T k mint authority).get src = some f) :
    T.get src = some f ∨
      src = k ∧ T.get k = none ∧ f = { mint, owner := authority, amount := 0 } := by
  by_cases hk : src = k
  · subst hk
    obtain ⟨t, ht, hc⟩ := @get_ensureAta_self T src mint authority
    rw [h] at ht
    cases ht
    rcases hc with hc | ⟨hn, he⟩
    · exact Or.inl hc
    · exact Or.inr ⟨rfl, hn, he⟩
  · rw [get_ensureAta_ne hk] at h
    exact Or.inl h

/-! ### Moving tokens -/

theorem get_moveTokens_ne {j : Pubkey} (hs : j ≠ src) (hd : j ≠ dst) :
    (moveTokens T src dst n).get j = T.get j := by
  unfold moveTokens
  rw [Store.get_modify_ne _ _ hd, Store.get_modify_ne _ _ hs]

theorem get_moveTokens_src (h : src ≠ dst) (hf : T.get src = some f) :
    (moveTokens T src dst n).get src = some (f.debit n) := by
  unfold moveTokens
  rw [Store.get_modify_ne _ _ h, Store.get_modify_self, hf]
  rfl

theorem get_moveTokens_dst (h : src ≠ dst) (ht : T.get dst = some t) :
    (moveTokens T src dst n).get dst = some (t.credit n) := by
  unfold moveTokens
  rw [Store.get_modify_self, Store.get_modify_ne _ _ h.symm, ht]
  rfl

/-- A move neither opens nor closes an account, and none changes mint or owner. -/
theorem get_moveTokens {j : Pubkey} (hj : T.get j = some t) :
    ∃ t', (moveTokens T src dst n).get j = some t' ∧ t'.mint = t.mint ∧ t'.owner = t.owner ∧
      (j ≠ src → t.amount ≤ t'.amount) := by
  unfold moveTokens
  rw [Store.get_modify, Store.get_modify, Store.get_modify]
  by_cases hd : j = dst
  · subst hd
    by_cases hs : j = src
    · subst hs; simp [hj]
    · simp [hj, hs]
  · by_cases hs : j = src
    · subst hs; simp [hj, hd]
    · simp [hj, hd, hs]

/-- A transfer changes no mint and no owner. -/
theorem get_moveTokens_cases {j : Pubkey} {t' : TokenAccount}
    (hj : (moveTokens T src dst n).get j = some t') :
    ∃ t, T.get j = some t ∧ t'.mint = t.mint ∧ t'.owner = t.owner := by
  cases h : T.get j with
  | none =>
    unfold moveTokens at hj
    rw [Store.get_modify, Store.get_modify, Store.get_modify] at hj
    by_cases hd : j = dst <;> by_cases hs : j = src <;> simp_all
  | some t =>
    obtain ⟨t₂, ht₂, hm, ho, -⟩ := @get_moveTokens T src dst n t j h
    rw [hj] at ht₂
    cases ht₂
    exact ⟨t, rfl, hm, ho⟩

/-- **What a move does to a group of holders.** Debits and credits stand on opposite sides. -/
theorem held_moveTokens (hf : T.get src = some f) (ht : T.get dst = some t)
    (hn : n ≤ f.amount) :
    held (moveTokens T src dst n) p + (if p f.mint f.owner then n else 0)
      = held T p + (if p t.mint t.owner then n else 0) := by
  unfold held moveTokens
  have h1 := Store.total_modify hf (fun _ t => if p t.mint t.owner then t.amount else 0)
    (TokenAccount.debit n)
  obtain ⟨t₁, ht₁, hm₁, ho₁⟩ : ∃ t₁, (T.modify src (TokenAccount.debit n)).get dst = some t₁ ∧
      t₁.mint = t.mint ∧ t₁.owner = t.owner := by
    by_cases h : dst = src
    · subst h
      rw [hf] at ht
      cases ht
      exact ⟨f.debit n, by rw [Store.get_modify_self, hf]; rfl, rfl, rfl⟩
    · exact ⟨t, by rw [Store.get_modify_ne _ _ h, ht], rfl, rfl⟩
  have h2 := Store.total_modify ht₁ (fun _ t => if p t.mint t.owner then t.amount else 0)
    (TokenAccount.credit n)
  simp only [TokenAccount.debit_mint, TokenAccount.debit_owner, TokenAccount.debit_amount] at h1
  simp only [TokenAccount.credit_mint, TokenAccount.credit_owner, TokenAccount.credit_amount,
    hm₁, ho₁] at h2
  split at h1 <;> split at h2 <;> simp_all <;> omega

/-- A move under one mint keeps what is held of every mint. -/
theorem heldOf_moveTokens (hf : T.get src = some f) (ht : T.get dst = some t)
    (hn : n ≤ f.amount) (hm : f.mint = t.mint) (mint : Pubkey) :
    heldOf (moveTokens T src dst n) mint = heldOf T mint := by
  have := held_moveTokens (p := fun m _ => m = mint) hf ht hn
  unfold heldOf
  rw [hm] at this
  omega

/-- A debit takes from those who hold. -/
theorem held_debit (hf : T.get src = some f) (hn : n ≤ f.amount) :
    held (T.modify src (TokenAccount.debit n)) p + (if p f.mint f.owner then n else 0)
      = held T p := by
  unfold held
  have h := Store.total_modify hf (fun _ t => if p t.mint t.owner then t.amount else 0)
    (TokenAccount.debit n)
  simp only [TokenAccount.debit_mint, TokenAccount.debit_owner, TokenAccount.debit_amount] at h
  split at h
  · simp_all; omega
  · simp_all

/-- A credit adds to them. -/
theorem held_credit (hf : T.get dst = some f) :
    held (T.modify dst (TokenAccount.credit n)) p
      = held T p + (if p f.mint f.owner then n else 0) := by
  unfold held
  have h := Store.total_modify hf (fun _ t => if p t.mint t.owner then t.amount else 0)
    (TokenAccount.credit n)
  simp only [TokenAccount.credit_mint, TokenAccount.credit_owner, TokenAccount.credit_amount] at h
  split at h
  · simp_all; omega
  · simp_all

theorem held_set_empty (h : T.get k = none) :
    held (T.set k { mint, owner := authority, amount := 0 }) p = held T p := by
  unfold held
  rw [Store.total_set_new h]
  simp

theorem held_ensureAta : held (ensureAta T k mint authority) p = held T p := by
  unfold ensureAta
  split
  · next h => exact held_set_empty h
  · rfl

theorem held_erase_empty (hf : T.get k = some f) (h0 : f.amount = 0) :
    held (T.erase k) p = held T p := by
  unfold held
  have h := T.total_erase (fun _ t => if p t.mint t.owner then t.amount else 0) k
  rw [Store.share_some hf, h0] at h
  simpa using h

/-- Each account holds at most what all hold. -/
theorem amount_le_heldOf (hf : T.get k = some f) : f.amount ≤ heldOf T f.mint := by
  have h := Store.le_total hf (fun _ t => if t.mint = f.mint then t.amount else 0)
  simpa [heldOf, held] using h

/-- Two accounts of one mint hold at most what is held of it. -/
theorem amount_add_le_heldOf (hsd : src ≠ dst) (hf : T.get src = some f)
    (ht : T.get dst = some t) (hm : t.mint = f.mint) :
    f.amount + t.amount ≤ heldOf T f.mint := by
  have h := Store.add_le_total hsd hf ht (fun _ u => if u.mint = f.mint then u.amount else 0)
  simpa [heldOf, held, hm] using h

end Effects

namespace Chain

/-! ## Lamports -/

/-- A system transfer. The source must be a system account and cover the amount. -/
def systemTransfer (s : Chain) (src dst : Pubkey) (n : ℕ) : Result Chain := do
  require (s.owner src = .system) (.runtime .fromMustNotCarryData)
  require (n ≤ s.lamports src) (.runtime .resultWithNegativeLamports)
  require (Function.update s.lamports src (s.lamports src - n) dst + n < 2 ^ 64)
    (.runtime .arithmeticOverflow)
  return { s with lamports := move s.lamports src dst n }

/-- `if amount > 0 { transfer(..)?; }`, as every handler writes it. -/
def pay (s : Chain) (src dst : Pubkey) (n : ℕ) : Result Chain :=
  if 0 < n then s.systemTransfer src dst n else .ok s

/-- What a successful transfer of lamports did. -/
theorem systemTransfer_ok {s s' : Chain} {src dst : Pubkey} {n : ℕ}
    (h : s.systemTransfer src dst n = .ok s') :
    s.owner src = .system ∧ n ≤ s.lamports src ∧
      s' = { s with lamports := move s.lamports src dst n } := by
  simp only [systemTransfer, bind_eq_ok, require_eq_ok, exists_const, pure_eq_ok] at h
  exact ⟨h.1, h.2.1, h.2.2.2.symm⟩

/-- A payment moves its amount, and a positive one comes from a system account. -/
theorem pay_ok {s s' : Chain} {src dst : Pubkey} {n : ℕ} (h : s.pay src dst n = .ok s') :
    (0 < n → s.owner src = .system) ∧ n ≤ s.lamports src ∧
      s' = { s with lamports := move s.lamports src dst n } := by
  unfold pay at h
  split at h
  · obtain ⟨ho, hn, hs⟩ := systemTransfer_ok h
    exact ⟨fun _ => ho, hn, hs⟩
  · next h0 =>
    obtain rfl : n = 0 := by omega
    rw [move_zero]
    exact ⟨fun h => absurd h h0, Nat.zero_le _, (Except.ok.inj h).symm⟩

/-- A system account is no token account. -/
theorem tokens_of_system {s : Chain} {k : Pubkey} (h : s.owner k = .system) :
    s.tokens.get k = none := by
  unfold Chain.owner at h
  split at h
  · cases h
  · split at h
    · cases h
    · next hno =>
      rw [Bool.or_eq_true, not_or, Bool.not_eq_true, Bool.not_eq_true] at hno
      cases ht : s.tokens.get k with
      | none => rfl
      | some t =>
        rw [ht] at hno
        cases hno.2

/-- Move all lamports of an account that is being closed. -/
def sweepLamports (s : Chain) (src dst : Pubkey) : Result Chain := do
  require (s.lamports dst + s.lamports src < 2 ^ 64) (.runtime .arithmeticOverflow)
  return { s with lamports := sweep s.lamports src dst }

@[simp] theorem sweepLamports_eq_ok {s s' : Chain} {src dst : Pubkey} :
    s.sweepLamports src dst = .ok s' ↔ s.lamports dst + s.lamports src < 2 ^ 64 ∧
      s' = { s with lamports := sweep s.lamports src dst } := by
  simp only [sweepLamports, bind_eq_ok, require_eq_ok, exists_const, pure_eq_ok]
  exact and_congr_right fun _ => eq_comm

/-! ## Loading accounts -/

/-- A mint account. -/
def loadMint (s : Chain) (k : Pubkey) : Result Mint :=
  orError (s.mints.get k) (.anchor .accountNotInitialized)

/-- A token account. -/
def loadToken (s : Chain) (k : Pubkey) : Result TokenAccount :=
  orError (s.tokens.get k) (.anchor .accountNotInitialized)

@[simp] theorem loadMint_eq_ok {s : Chain} {k : Pubkey} {m : Mint} :
    s.loadMint k = .ok m ↔ s.mints.get k = some m := orError_eq_ok

@[simp] theorem loadToken_eq_ok {s : Chain} {k : Pubkey} {t : TokenAccount} :
    s.loadToken k = .ok t ↔ s.tokens.get k = some t := orError_eq_ok

/-- `token::mint = mint`. -/
def loadTokenOfMint (s : Chain) (k mint : Pubkey) : Result TokenAccount := do
  let t ← s.loadToken k
  require (t.mint = mint) (.anchor .constraintTokenMint)
  return t

/-- `token::mint = mint, token::authority = authority`. -/
def loadTokenOf (s : Chain) (k mint authority : Pubkey) : Result TokenAccount := do
  let t ← s.loadTokenOfMint k mint
  require (t.owner = authority) (.anchor .constraintTokenOwner)
  return t

@[simp] theorem loadTokenOfMint_eq_ok {s : Chain} {k mint : Pubkey} {t : TokenAccount} :
    s.loadTokenOfMint k mint = .ok t ↔ s.tokens.get k = some t ∧ t.mint = mint := by
  simp only [loadTokenOfMint, bind_eq_ok, loadToken_eq_ok, require_eq_ok, exists_const, pure_eq_ok]
  constructor
  · rintro ⟨t, ht, hm, rfl⟩; exact ⟨ht, hm⟩
  · rintro ⟨ht, hm⟩; exact ⟨t, ht, hm, rfl⟩

@[simp] theorem loadTokenOf_eq_ok {s : Chain} {k mint authority : Pubkey} {t : TokenAccount} :
    s.loadTokenOf k mint authority = .ok t ↔
      s.tokens.get k = some t ∧ t.mint = mint ∧ t.owner = authority := by
  simp only [loadTokenOf, bind_eq_ok, loadTokenOfMint_eq_ok, require_eq_ok, exists_const, pure_eq_ok]
  constructor
  · rintro ⟨t, ⟨ht, hm⟩, ho, rfl⟩; exact ⟨ht, hm, ho⟩
  · rintro ⟨ht, hm, ho⟩; exact ⟨t, ⟨ht, hm⟩, ho, rfl⟩

/-! ## Token operations -/

/-- `init_if_needed` on an associated token account. The rent that its payer owes for a new one is left
out, as account rent is throughout. -/
def initAtaIfNeeded (s : Chain) (k mint authority : Pubkey) : Result Chain := do
  require (k = .ata authority mint) (.anchor .accountNotAssociatedTokenAccount)
  match s.tokens.get k with
  | none => return { s with tokens := s.tokens.set k { mint, owner := authority, amount := 0 } }
  | some t =>
    require (t.mint = mint) (.anchor .constraintTokenMint)
    require (t.owner = authority) (.anchor .constraintTokenOwner)
    return s

/-- Afterwards there is an account of `authority` for `mint` at `k`. -/
theorem initAtaIfNeeded_ok {s s' : Chain} {k mint authority : Pubkey}
    (h : s.initAtaIfNeeded k mint authority = .ok s') :
    k = .ata authority mint ∧ s' = { s with tokens := ensureAta s.tokens k mint authority } ∧
      ∃ t, s'.tokens.get k = some t ∧ t.mint = mint ∧ t.owner = authority := by
  simp only [initAtaIfNeeded, bind_eq_ok, require_eq_ok, exists_const] at h
  obtain ⟨hk, h⟩ := h
  cases hg : s.tokens.get k with
  | none =>
    simp only [hg, pure_eq_ok] at h
    subst h
    exact ⟨hk, by simp [ensureAta, hg], _, Store.get_set_self _ _ _, rfl, rfl⟩
  | some t =>
    simp only [hg, bind_eq_ok, require_eq_ok, exists_const, pure_eq_ok] at h
    obtain ⟨hm, ho, rfl⟩ := h
    exact ⟨hk, by rw [get_ensureAta_of_some hg], t, hg, hm, ho⟩

/-- `transfer_checked`: the same mint on both sides and the decimals the caller expects. -/
def transferChecked (s : Chain) (src mint dst authority : Pubkey) (n decimals : ℕ) :
    Result Chain := do
  let f ← s.loadToken src
  let t ← s.loadToken dst
  require (n ≤ f.amount) (.runtime .insufficientTokens)
  require (f.mint = mint ∧ t.mint = mint) (.runtime .mintMismatch)
  let m ← s.loadMint mint
  require (m.decimals = decimals) (.runtime .mintDecimalsMismatch)
  require (f.owner = authority) (.runtime .ownerMismatch)
  -- the credit reads the destination after the debit, which may have been the same account
  require ((if dst = src then f.amount - n else t.amount) + n < 2 ^ 64)
    (.runtime .arithmeticOverflow)
  return { s with tokens := moveTokens s.tokens src dst n }

/-- The two token accounts of a transfer of `n` that the token program accepts. -/
structure Transferable (s : Chain) (src mint dst authority : Pubkey) (n : ℕ)
    (f t : TokenAccount) : Prop where
  src : s.tokens.get src = some f
  dst : s.tokens.get dst = some t
  covered : n ≤ f.amount
  srcMint : f.mint = mint
  dstMint : t.mint = mint
  owner : f.owner = authority

/-- What a successful token transfer did. -/
theorem transferChecked_ok {s s' : Chain} {src mint dst authority : Pubkey} {n d : ℕ}
    (h : s.transferChecked src mint dst authority n d = .ok s') :
    ∃ f t, Transferable s src mint dst authority n f t ∧
      s' = { s with tokens := moveTokens s.tokens src dst n } := by
  simp only [transferChecked, bind_eq_ok, loadToken_eq_ok, loadMint_eq_ok, require_eq_ok, exists_const,
    pure_eq_ok] at h
  obtain ⟨f, hf, t, ht, hn, ⟨hfm, htm⟩, m, -, -, ho, -, rfl⟩ := h
  exact ⟨f, t, ⟨hf, ht, hn, hfm, htm, ho⟩, rfl⟩

/-- A transfer between two accounts succeeds when the source covers it and the credit fits. -/
theorem transferChecked_eq_ok {s : Chain} {src mint dst authority : Pubkey} {n : ℕ}
    {f t : TokenAccount} {m : Mint} (h : Transferable s src mint dst authority n f t)
    (hm : s.mints.get mint = some m) (hne : dst ≠ src) (hfit : t.amount + n < 2 ^ 64) :
    s.transferChecked src mint dst authority n m.decimals
      = .ok { s with tokens := moveTokens s.tokens src dst n } := by
  simp only [transferChecked, bind_eq_ok, loadToken_eq_ok, loadMint_eq_ok, require_eq_ok, exists_const,
    pure_eq_ok]
  exact ⟨f, h.src, t, h.dst, h.covered, ⟨h.srcMint, h.dstMint⟩, m, hm, rfl, h.owner,
    by rw [if_neg hne]; exact hfit, trivial⟩

/-- `burn`: out of an account and out of the supply. -/
def burn (s : Chain) (src mint authority : Pubkey) (n : ℕ) : Result Chain := do
  let f ← s.loadToken src
  let m ← s.loadMint mint
  require (n ≤ f.amount) (.runtime .insufficientTokens)
  require (f.mint = mint) (.runtime .mintMismatch)
  require (f.owner = authority) (.runtime .ownerMismatch)
  require (n ≤ m.supply) (.runtime .arithmeticOverflow)
  return { s with
    tokens := s.tokens.modify src (TokenAccount.debit n)
    mints := s.mints.modify mint (Mint.burned n) }

/-- What a successful burn did. -/
theorem burn_ok {s s' : Chain} {src mint authority : Pubkey} {n : ℕ}
    (h : s.burn src mint authority n = .ok s') :
    ∃ f m, s.tokens.get src = some f ∧ s.mints.get mint = some m ∧ n ≤ f.amount ∧
      f.mint = mint ∧ f.owner = authority ∧ n ≤ m.supply ∧
      s' = { s with
        tokens := s.tokens.modify src (TokenAccount.debit n)
        mints := s.mints.modify mint (Mint.burned n) } := by
  simp only [burn, bind_eq_ok, loadToken_eq_ok, loadMint_eq_ok, require_eq_ok, exists_const,
    pure_eq_ok] at h
  obtain ⟨f, hf, m, hm, hn, hfm, ho, hs, rfl⟩ := h
  exact ⟨f, m, hf, hm, hn, hfm, ho, hs, rfl⟩

/-- Close an empty token account and send its lamports to `dst`. -/
def closeAccount (s : Chain) (k dst authority : Pubkey) : Result Chain := do
  let t ← s.loadToken k
  require (k ≠ dst) (.runtime .invalidAccountData)
  require (t.amount = 0) (.runtime .nonNativeHasBalance)
  require (t.owner = authority) (.runtime .ownerMismatch)
  let s ← s.sweepLamports k dst
  return { s with tokens := s.tokens.erase k }

theorem closeAccount_eq_ok {s s' : Chain} {k dst authority : Pubkey} :
    s.closeAccount k dst authority = .ok s' ↔
      ∃ t, s.tokens.get k = some t ∧ k ≠ dst ∧ t.amount = 0 ∧ t.owner = authority ∧
        s.lamports dst + s.lamports k < 2 ^ 64 ∧
        s' = { s with lamports := sweep s.lamports k dst, tokens := s.tokens.erase k } := by
  simp only [closeAccount, bind_eq_ok, loadToken_eq_ok, require_eq_ok, exists_const, sweepLamports_eq_ok,
    pure_eq_ok]
  constructor
  · rintro ⟨t, ht, hk, h0, ho, s₁, ⟨hfit, rfl⟩, rfl⟩
    exact ⟨t, ht, hk, h0, ho, hfit, rfl⟩
  · rintro ⟨t, ht, hk, h0, ho, hfit, rfl⟩
    exact ⟨t, ht, hk, h0, ho, _, ⟨hfit, rfl⟩, rfl⟩

end Chain

end Pokeage
