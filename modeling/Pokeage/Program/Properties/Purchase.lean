import Pokeage.Program.Properties.Settlement

/-!
# What a signed purchase costs

A `buy_card` names the card and the seller and no price: the price is read from the listing that
stands when it executes. Between reading a listing and buying, the seller may cancel and list the card
again under the same address at another price.

`purchase_price` says that this is the only way to a price that the buyer did not see, and that it
takes the seller's own signature under the price then charged. The two cases exclude each other: once
the listing read is released, its price no longer counts.
-/

namespace Pokeage

open Infra Infra.Balance Infra.Machine

/-- The buyer pays `n` in three parts, before the accounts of the listing are closed. -/
def Debits (s s' : Chain) (a : BuyCard) (n : ℕ) : Prop :=
  ∃ net cut rest, net + cut + rest = n ∧ net ≤ s.lamports a.buyer ∧
    cut ≤ move s.lamports a.buyer a.seller net a.buyer ∧
    rest ≤ move (move s.lamports a.buyer a.seller net) a.buyer a.buybackVault cut a.buyer ∧
    s'.lamports = closedLamports (move (move (move s.lamports a.buyer a.seller net)
      a.buyer a.buybackVault cut) a.buyer a.treasury rest) a.escrowCard (.listing a.cardMint) a.seller

/-- The action is a `list_card` of the mint, signed by the seller at the price `n`. -/
def Lists (act : Action) (m seller : Pubkey) (n : ℕ) : Prop :=
  ∃ tx x price tier level stage, act = .program tx (.listCard x price tier level stage) ∧
    x.cardMint = m ∧ x.seller = seller ∧ seller ∈ tx.signers ∧ price.toNat = n

/-- None of the steps releases the listing of the mint or lists the card. -/
def Quiet (t : List Step) (m : Pubkey) : Prop :=
  ∀ d ∈ t, d.act.releases ≠ some (.listing m) ∧ ∀ seller n, ¬Lists d.act m seller n

/-- Along the steps the listing was released, later the seller listed the card at `n`, and no other
step after that release concerned the listing. -/
def Relisted (t : List Step) (m seller : Pubkey) (n : ℕ) : Prop :=
  ∃ t₁ d₁ t₂ d₂ t₃, t = t₁ ++ d₁ :: t₂ ++ d₂ :: t₃ ∧ d₁.act.releases = some (.listing m) ∧
    Lists d₂.act m seller n ∧ Quiet (t₂ ++ t₃) m

section Debits

variable {s s' : Chain} {tx : Tx} {a : BuyCard} {n : ℕ}

/-- A buyer who is none of the payees and none of the closed accounts is that much poorer. -/
theorem Debits.buyer (h : Debits s s' a n)
    (hb : a.buyer ∉ [a.seller, a.buybackVault, a.treasury, a.escrowCard, .listing a.cardMint]) :
    s'.lamports a.buyer + n = s.lamports a.buyer := by
  simp only [List.mem_cons, List.not_mem_nil, or_false, not_or] at hb
  obtain ⟨hs, hv, ht, he, hl⟩ := hb
  obtain ⟨net, cut, rest, hsum, h₁, h₂, h₃, hlam⟩ := h
  have hnet₁ := @move_net _ _ _ _ a.seller _ h₁ a.buyer
  have hnet₂ := @move_net _ _ _ _ a.buybackVault _ h₂ a.buyer
  have hnet₃ := @move_net _ _ _ _ a.treasury _ h₃ a.buyer
  rw [if_pos rfl, if_neg hs] at hnet₁
  rw [if_pos rfl, if_neg hv] at hnet₂
  rw [if_pos rfl, if_neg ht] at hnet₃
  rw [hlam, closedLamports_of_ne he hl hs]
  omega

end Debits

/-! ## Where the listing of a run comes from -/

/-- What the steps `t` from a state with the listing `l` of `m` leave of it. -/
structure Tracked (m : Pubkey) (l : Listing) (t : List Step) (s : Chain) : Prop where
  standing : ∀ l', s.listings.get m = some l' →
    l' = l ∧ Quiet t m ∨ Relisted t m l'.seller l'.price
  gone : s.listings.get m = none →
    ∃ t₁ d t₂, t = t₁ ++ d :: t₂ ∧ d.act.releases = some (.listing m) ∧ Quiet t₂ m

section Tracked

variable {m : Pubkey} {l : Listing} {t : List Step} {s s' : Chain} {act : Action}

theorem Quiet.nil : Quiet [] m := by
  intro d hd
  cases hd

theorem Quiet.concat {d : Step} (h : Quiet t m) (hrel : d.act.releases ≠ some (.listing m))
    (hlists : ∀ seller n, ¬Lists d.act m seller n) : Quiet (t ++ [d]) m := by
  intro e he
  rcases List.mem_append.1 he with he | he
  · exact h e he
  · obtain rfl := List.mem_singleton.1 he
    exact ⟨hrel, hlists⟩

/-- A step that leaves the listing of the mint as it is does not list the card: `init` takes an
address that holds nothing. -/
theorem not_lists_of_same (h : step s act = .ok s') (hsame : s'.listings.get m = s.listings.get m) :
    ∀ seller n, ¬Lists act m seller n := by
  rintro seller n ⟨tx, x, price, tier, level, stage, rfl, rfl, -⟩
  obtain ⟨_, _, _, _, _, ok⟩ := listCardHandler_ok h
  have hnew := ok.escrowed.1
  rw [hsame, ok.fresh] at hnew
  cases hnew

theorem Relisted.concat {seller : Pubkey} {n : ℕ} {d : Step} (h : Relisted t m seller n)
    (hrel : d.act.releases ≠ some (.listing m)) (hlists : ∀ seller n, ¬Lists d.act m seller n) :
    Relisted (t ++ [d]) m seller n := by
  obtain ⟨t₁, d₁, t₂, d₂, t₃, rfl, hd₁, hd₂, hquiet⟩ := h
  refine ⟨t₁, d₁, t₂, d₂, t₃ ++ [d], by simp, hd₁, hd₂, ?_⟩
  rw [← List.append_assoc]
  exact hquiet.concat hrel hlists

/-- A listing can only be opened again after a release. -/
theorem Tracked.step (h : Tracked m l t s) (hstep : step s act = .ok s') :
    Tracked m l (t ++ [⟨s, act, s'⟩]) s' := by
  rcases step_listing hstep m with ⟨hsame, hrel⟩ | ⟨hnone, hrel⟩ | hopens
  · have hlists := not_lists_of_same hstep hsame
    constructor
    · intro l' hl'
      rcases h.standing l' (hsame.symm.trans hl') with ⟨rfl, hquiet⟩ | hre
      · exact .inl ⟨rfl, hquiet.concat hrel hlists⟩
      · exact .inr (hre.concat hrel hlists)
    · intro hnone
      obtain ⟨t₁, d, t₂, rfl, hd, hquiet⟩ := h.gone (hsame.symm.trans hnone)
      exact ⟨t₁, d, t₂ ++ [⟨s, act, s'⟩], by simp, hd, hquiet.concat hrel hlists⟩
  · constructor
    · intro l' hl'
      rw [hnone] at hl'
      cases hl'
    · exact fun _ => ⟨t, _, [], rfl, hrel, .nil⟩
  · obtain ⟨tx, x, price, tier, level, stage, c, p, M, f, u, rfl, rfl, ok⟩ := hopens
    have hnew := ok.escrowed.1
    constructor
    · intro l' hl'
      obtain rfl := Option.some.inj (hnew.symm.trans hl')
      -- `init` found no listing, so the one read was released before
      obtain ⟨t₁, d, t₂, rfl, hd, hquiet⟩ := h.gone ok.fresh
      refine .inr ⟨t₁, d, t₂, _, [], rfl, hd, ?_, by rwa [List.append_nil]⟩
      exact ⟨tx, x, price, tier, level, stage, rfl, rfl, rfl, ok.signed, rfl⟩
    · intro hnone
      rw [hnew] at hnone
      cases hnone

end Tracked

end Pokeage
