import Pokeage.Program.Properties.Books
import Pokeage.Program.Properties.Custody

/-!
# Listed cards in escrow

`Escrowed` is the invariant of a listing: active, priced, for the mint it stands under, and with at
least one unit in the associated account of its own address. It survives whatever is done elsewhere,
since no one signs for a listing (`listings_step`). For a mint of supply one that unit is the only
one there is, and `escrow_safe` follows it through a step.
-/

namespace Pokeage

open Infra Infra.Balance Infra.Machine

/-! ## The invariant of a listing -/

/-- What stands behind a listing. -/
structure Escrowed (s : Chain) (m : Pubkey) (l : Listing) : Prop where
  active : l.active = true
  price : 0 < l.price
  cardMint : l.cardMint = m
  bump : l.bump = s.bumpOf (.listing m)
  seller : l.seller.isKey
  unit : ∃ t, s.tokens.get (.ata (.listing m) m) = some t ∧ t.mint = m ∧ t.owner = .listing m ∧
    1 ≤ t.amount

/-- Something stands behind every listing. -/
def ListingsOk (s : Chain) : Prop := ∀ m l, s.listings.get m = some l → Escrowed s m l

section Step

variable {s s' : Chain} {a : Action} {m : Pubkey} {l : Listing}

/-- No listing signs. -/
theorem listing_notMem_signers : Pubkey.listing m ∉ a.signers := by
  intro h
  have hkey := Action.isKey_of_signers h
  cases hkey

/-- The step is a `list_card` of the mint. -/
def Opens (s : Chain) (a : Action) (s' : Chain) (m : Pubkey) : Prop :=
  ∃ tx x price tier level stage c p M f t,
    a = .program tx (.listCard x price tier level stage) ∧ x.cardMint = m ∧
      ListCard.Ok s tx x price.toNat tier.toNat level.toNat stage.toNat c p M f t s'

/-- **What a step does to the listing of a mint:** nothing, or it releases it, or it opens it. -/
theorem step_listing (h : step s a = .ok s') (m : Pubkey) :
    s'.listings.get m = s.listings.get m ∧ a.releases ≠ some (.listing m) ∨
      s'.listings.get m = none ∧ a.releases = some (.listing m) ∨ Opens s a s' m := by
  cases step_effect h with
  | @listCard tx x price tier level stage c p M f t _ ok =>
    by_cases hm : x.cardMint = m
    · exact .inr (.inr ⟨tx, x, price, tier, level, stage, c, p, M, f, t, rfl, hm, ok⟩)
    · rw [ok.after]
      exact .inl ⟨Store.get_set_ne _ _ (Ne.symm hm), nofun⟩
  | @cancelListing tx x _ _ _ _ ok =>
    rw [ok.after, Store.get_erase]
    split
    · next hm => exact .inr (.inl ⟨rfl, by rw [hm]; rfl⟩)
    · next hm => exact .inl ⟨rfl, fun he => hm (by cases he; rfl)⟩
  | @buyCard tx x _ _ _ _ _ _ ok =>
    rw [ok.after, Store.get_erase]
    split
    · next hm => exact .inr (.inl ⟨rfl, by rw [hm]; rfl⟩)
    · next hm => exact .inl ⟨rfl, fun he => hm (by cases he; rfl)⟩
  | @sink tx ix _ _ _ _ _ _ _ _ hix ok =>
    obtain ⟨ev, rfl⟩ := ok.after
    exact .inl ⟨rfl, by cases ix <;> first | (cases hix; done) | nofun⟩
  | initializeProgram ok => exact .inl ⟨by rw [ok.after], nofun⟩
  | mintCard ok => exact .inl ⟨by rw [ok.after], nofun⟩
  | instantSell ok => exact .inl ⟨by rw [ok.after], nofun⟩
  | updateFloor _ _ after => exact .inl ⟨by rw [after], nofun⟩
  | setInstantSell _ _ _ after => exact .inl ⟨by rw [after], nofun⟩
  | withdrawTreasury _ _ _ after => exact .inl ⟨by rw [after], nofun⟩
  | setPause _ after => exact .inl ⟨by rw [after], nofun⟩
  | external ok => exact .inl ⟨by rw [(External.sameRecords ok).listings], nofun⟩

/-- What `list_card` opens is in escrow. -/
theorem ListCard.Ok.escrowed {tx : Tx} {x : ListCard} {price tier level stage : ℕ} {c : Config}
    {p : BuybackPool} {M : Mint} {f t : TokenAccount}
    (ok : ListCard.Ok s tx x price tier level stage c p M f t s') :
    s'.listings.get x.cardMint = some (ListCard.opened s tx x price tier level stage) ∧
      Escrowed s' x.cardMint (ListCard.opened s tx x price tier level stage) := by
  have hsigned := tx.keys _ ok.signed
  have hprice := ok.price_pos
  have hesc := ok.escrow
  have hmint := ok.escrowMint
  have howner := ok.escrowOwner
  -- the card cannot come out of the escrow account, whose owner does not sign
  have hne : x.sellerCard ≠ .ata (.listing x.cardMint) x.cardMint := by
    intro he
    have hcard : (ListCard.escrowed s x).get x.sellerCard = some f := get_ensureAta ok.card
    rw [ok.escrow_eq, ← he] at hesc
    obtain rfl := Option.some.inj (hcard.symm.trans hesc)
    rw [← ok.cardOwner, ok.escrowOwner] at hsigned
    cases hsigned
  rw [ok.escrow_eq] at hesc
  rw [ok.after, ok.escrow_eq]
  refine ⟨Store.get_set_self _ _ _, rfl, hprice, rfl, rfl, hsigned, t.credit 1, ?_, hmint, howner, ?_⟩
  · exact get_moveTokens_dst hne hesc
  · exact Nat.le_add_left 1 t.amount

/-- A listing that is there after a step was there before and is not the one released, or
`list_card` has just opened it. -/
theorem step_listings (h : step s a = .ok s') (hl : s'.listings.get m = some l) :
    (s.listings.get m = some l ∧ a.releases ≠ some (.listing m)) ∨ Escrowed s' m l := by
  rcases step_listing h m with ⟨hsame, hrel⟩ | ⟨hnone, -⟩ | hopens
  · exact .inl ⟨hsame.symm.trans hl, hrel⟩
  · rw [hnone] at hl
    cases hl
  · obtain ⟨tx, x, price, tier, level, stage, c, p, M, f, t, rfl, rfl, ok⟩ := hopens
    obtain ⟨hnew, hesc⟩ := ok.escrowed
    obtain rfl := Option.some.inj (hnew.symm.trans hl)
    exact .inr hesc

theorem listings_step (h : step s a = .ok s') (hs : ListingsOk s) : ListingsOk s' := by
  intro m l hl
  rcases step_listings h hl with ⟨hold, hrel⟩ | hnew
  · obtain ⟨hact, hprice, hmint, hbump, hseller, t, ht, htm, hto, hn⟩ := hs m l hold
    obtain ⟨t', ht', htm', hto', hn'⟩ :=
      step_kept h ht (by rw [hto]; exact listing_notMem_signers) (by rw [hto]; exact hrel)
    exact ⟨hact, hprice, hmint, by rw [step_bumpOf h, hbump], hseller, t', ht', htm'.trans htm,
      hto'.trans hto, le_trans hn hn'⟩
  · exact hnew

end Step

theorem Reachable.listings {s : Chain} (h : Reachable s) : ListingsOk s := by
  refine Reachable.induction (P := ListingsOk) ?_ (fun s a s' hs hstep => listings_step hstep hs) h
  intro s init m l hl
  rw [(init.empty m).2.2] at hl
  cases hl

/-! ## A single unit -/

/-- The account `k` of `owner` holds the one unit of the mint that anybody holds. -/
structure SoleUnit (T : Tokens) (m k owner : Pubkey) : Prop where
  here : ∃ t, T.get k = some t ∧ t.mint = m ∧ t.owner = owner ∧ t.amount = 1
  others : ∀ j u, T.get j = some u → u.mint = m → j ≠ k → u.amount = 0

section Unit

variable {T : Tokens} {m k owner dst : Pubkey} {t f : TokenAccount}

/-- A unit of a mint of supply one is the only one. -/
theorem SoleUnit.of_held (hT : heldOf T m = 1) (ht : T.get k = some t) (hm : t.mint = m)
    (ho : t.owner = owner) (h1 : 1 ≤ t.amount) : SoleUnit T m k owner := by
  subst hm
  have hle := amount_le_heldOf ht
  refine ⟨⟨t, ht, rfl, ho, by omega⟩, ?_⟩
  intro j u hu hum hj
  have hadd := amount_add_le_heldOf hj.symm ht hu hum
  omega

theorem SoleUnit.ensureAta {w : Pubkey} (h : SoleUnit T m k owner) :
    SoleUnit (ensureAta T (.ata w m) m w) m k owner := by
  obtain ⟨⟨t, ht, hm, ho, h1⟩, hothers⟩ := h
  refine ⟨⟨t, get_ensureAta ht, hm, ho, h1⟩, ?_⟩
  intro j u hu hum hj
  rcases get_ensureAta_cases hu with hu | ⟨-, -, rfl⟩
  · exact hothers j u hu hum hj
  · rfl

/-- Moving the unit out and closing the account leaves it at its destination. -/
theorem SoleUnit.release (h : SoleUnit T m k owner) (hf : T.get dst = some f) (hm : f.mint = m)
    (hne : k ≠ dst) : SoleUnit ((moveTokens T k dst 1).erase k) m dst f.owner := by
  obtain ⟨⟨t, ht, -, -, -⟩, hothers⟩ := h
  have h0 := hothers dst f hf hm hne.symm
  refine ⟨⟨f.credit 1, ?_, hm, rfl, ?_⟩, ?_⟩
  · rw [Store.get_erase_ne _ hne.symm, get_moveTokens_dst hne hf]
  · rw [TokenAccount.credit_amount, h0]
  · intro j u hu hum hj
    rw [Store.get_erase] at hu
    split at hu
    · cases hu
    · next hjk =>
      rw [get_moveTokens_ne hjk hj] at hu
      exact hothers j u hu hum hjk

/-- An account that holds a unit is the one. -/
theorem SoleUnit.eq_of_amount {j : Pubkey} {u : TokenAccount} (h : SoleUnit T m k owner)
    (hu : T.get j = some u) (hm : u.mint = m) (h1 : u.amount = 1) : j = k := by
  by_contra hj
  have h0 := h.others j u hu hm hj
  omega

end Unit

/-! ## How the unit leaves -/

/-- The unit is where it was. -/
def StaysListed (s' : Chain) (m k : Pubkey) : Prop :=
  ∃ t, s'.tokens.get k = some t ∧ t.mint = m ∧ t.owner = .listing m ∧ 1 ≤ t.amount

/-- The seller signed a cancellation and has the unit in an account of his own. -/
def TakenBack (act : Action) (s' : Chain) (m : Pubkey) (l : Listing) : Prop :=
  ∃ tx a, act = .program tx (.cancelListing a) ∧ a.cardMint = m ∧ l.seller ∈ tx.signers ∧
    SoleUnit s'.tokens m a.sellerCard l.seller

/-- The buyer covered and paid the price, in three parts, before the listing was closed. -/
def PaysPrice (s s' : Chain) (a : BuyCard) (l : Listing) : Prop :=
  ∃ c net cut rest, s.config = some c ∧ net + cut + rest = l.price ∧
    net ≤ s.lamports a.buyer ∧
    cut ≤ move s.lamports a.buyer l.seller net a.buyer ∧
    rest ≤ move (move s.lamports a.buyer l.seller net) a.buyer c.buybackVault cut a.buyer ∧
    s'.lamports = closedLamports (move (move (move s.lamports a.buyer l.seller net)
      a.buyer c.buybackVault cut) a.buyer c.treasury rest) a.escrowCard (.listing a.cardMint) l.seller

/-- A buyer signed, paid the price and has the unit in his own account. -/
def SoldTo (s : Chain) (act : Action) (s' : Chain) (m : Pubkey) (l : Listing) : Prop :=
  ∃ tx a, act = .program tx (.buyCard a) ∧ a.cardMint = m ∧ a.buyer ∈ tx.signers ∧
    SoleUnit s'.tokens m (.ata a.buyer m) a.buyer ∧ PaysPrice s s' a l

section Leave

variable {s s' : Chain} {act : Action} {m k : Pubkey} {l : Listing}

theorem takenBack_of_step {tx : Tx} {a : CancelListing}
    (h : step s (.program tx (.cancelListing a)) = .ok s') (hl : s.listings.get a.cardMint = some l)
    (hu : SoleUnit s.tokens a.cardMint k (.listing a.cardMint)) :
    TakenBack (.program tx (.cancelListing a)) s' a.cardMint l := by
  obtain ⟨l', f, t, ok⟩ := cancelListingHandler_ok h
  obtain rfl := Option.some.inj (hl.symm.trans ok.listing)
  have hkey := tx.keys _ ok.signed
  obtain rfl := hu.eq_of_amount ok.escrow ok.escrowMint ok.unit
  have hne : a.escrowCard ≠ a.sellerCard := by
    refine ne_of_owner ok.escrow ok.card ?_
    rw [ok.escrowOwner, ok.cardOwner]
    rintro he
    rw [← he] at hkey
    cases hkey
  have hsole := hu.release ok.card ok.cardMint hne
  refine ⟨tx, a, rfl, rfl, by rw [ok.seller]; exact ok.signed, ?_⟩
  rw [ok.after, ok.seller, ← ok.cardOwner]
  exact hsole

/-- The unit of a purchase leaves one account and arrives in another: no listing signs, and the buyer
does. -/
theorem BuyCard.Ok.escrow_ne {tx : Tx} {a : BuyCard} {c : Config} {p : BuybackPool}
    {f t : TokenAccount} (ok : BuyCard.Ok s tx a c p l f t s') : a.escrowCard ≠ a.buyerCard := by
  refine ne_of_owner (get_ensureAta ok.escrow) ok.card ?_
  rw [ok.escrowOwner, ok.cardOwner]
  intro he
  have hkey := tx.keys _ ok.signed
  rw [← he] at hkey
  cases hkey

theorem soldTo_of_step {tx : Tx} {a : BuyCard}
    (h : step s (.program tx (.buyCard a)) = .ok s') (hl : s.listings.get a.cardMint = some l)
    (hu : SoleUnit s.tokens a.cardMint k (.listing a.cardMint)) :
    SoldTo s (.program tx (.buyCard a)) s' a.cardMint l := by
  obtain ⟨c, p, l', f, t, ok⟩ := buyCardHandler_ok h
  obtain rfl := Option.some.inj (hl.symm.trans ok.listing)
  obtain rfl := hu.eq_of_amount ok.escrow ok.escrowMint ok.unit
  have hopened : SoleUnit (BuyCard.opened s a) a.cardMint a.escrowCard (.listing a.cardMint) :=
    hu.ensureAta
  have hsole := hopened.release ok.card ok.cardMint ok.escrow_ne
  rw [ok.cardOwner] at hsole
  refine ⟨tx, a, rfl, rfl, ok.signed, ?_, c, l.price - tradeFee c l, tradePoolCut c l,
    tradeBurnCut c l, ok.config, trade_split ok.poolCut_le ok.fee_le, ok.coveredNet, ?_, ?_, ?_⟩
  · rw [ok.after, ← ok.card_eq]
    exact hsole
  · rw [← ok.seller]
    exact ok.coveredPool
  · rw [← ok.seller, ← ok.vault]
    exact ok.coveredBurn
  · rw [ok.after, ← ok.seller, ← ok.vault, ← ok.treasury]
    rfl

/-- The unit stays with the listing unless this step releases it. -/
theorem unit_step (h : step s act = .ok s') (hl : s.listings.get m = some l)
    (hu : SoleUnit s.tokens m k (.listing m)) :
    StaysListed s' m k ∨ TakenBack act s' m l ∨ SoldTo s act s' m l := by
  by_cases hrel : act.releases = some (.listing m)
  · cases act with
    | external tx e => cases hrel
    | program tx ix =>
      cases ix with
      | cancelListing a => cases hrel; exact Or.inr (Or.inl (takenBack_of_step h hl hu))
      | buyCard a => cases hrel; exact Or.inr (Or.inr (soldTo_of_step h hl hu))
      | _ => cases hrel
  · obtain ⟨t, ht, hm, ho, h1⟩ := hu.here
    obtain ⟨t', ht', hm', ho', hn⟩ :=
      step_kept h ht (by rw [ho]; exact listing_notMem_signers) (by rw [ho]; exact hrel)
    exact Or.inl ⟨t', ht', hm'.trans hm, ho'.trans ho, by omega⟩

end Leave

/-- **Escrow safety.** In every reachable state a listing of a mint of supply one is active, priced
and the only one of its mint; an account of the listing's own address holds the unit; and a step
takes it from there only back to the seller or to a buyer who pays. -/
theorem escrow_safe (s : Chain) (h : Reachable s) (m : Pubkey) (l : Listing) (mint : Mint)
    (hl : s.listings.get m = some l) (hm : s.mints.get m = some mint) (h1 : mint.supply = 1) :
    l.active = true ∧ 0 < l.price ∧ l.cardMint = m ∧
      (∀ m' l', s.listings.get m' = some l' → l'.cardMint = m → m' = m) ∧
      ∃ k, SoleUnit s.tokens m k (.listing m) ∧
        ∀ act s', step s act = .ok s' →
          StaysListed s' m k ∨ TakenBack act s' m l ∨ SoldTo s act s' m l := by
  have hok := h.listings m l hl
  obtain ⟨t, ht, htm, hto, hn⟩ := hok.unit
  have hheld : heldOf s.tokens m = 1 := by rw [(h.books.supply m mint hm).1, h1]
  have hsole := SoleUnit.of_held hheld ht htm hto hn
  refine ⟨hok.active, hok.price, hok.cardMint, ?_, _, hsole, ?_⟩
  · intro m' l' hl' hm'
    rw [← (h.listings m' l' hl').cardMint, hm']
  · intro act s' hstep
    exact unit_step hstep hl hsole

/-- User 6 lists the one unit of mint 8. -/
def listUnit : List Action := openCard 8 12 6 1 ++ [listOnStandard 8 12 6 1000]

/-- The listing is there, and the theorem speaks of it. -/
theorem escrow_safe_listUnit :
    ∃ l, (run step .standard listUnit).listings.get (.key 8) = some l ∧ l.active = true ∧
      ∃ k, SoleUnit (run step .standard listUnit).tokens (.key 8) k (.listing (.key 8)) := by
  have hlisted : ((run step .standard listUnit).listings.get (.key 8)).isSome := by decide +kernel
  have hsupply : (run step .standard listUnit).mints.get (.key 8)
      = some ⟨1, 0, some (.key 6)⟩ := by decide +kernel
  obtain ⟨l, hl⟩ := Option.isSome_iff_exists.mp hlisted
  obtain ⟨hact, -, -, -, k, hk, -⟩ := escrow_safe _
    (Chain.initialized_standard.reachable.run listUnit) _ l _ hl hsupply rfl
  exact ⟨l, hl, hact, k, hk⟩

end Pokeage
