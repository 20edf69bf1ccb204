import Pokeage.Program.Properties.Escrow

/-!
# What a listing says of its card

`mint_card` checks the tier and writes tier, level and stage into the card's record, which nothing
changes afterwards. `list_card` does not load that record: a listing says what its caller says.
-/

namespace Pokeage

open Infra Infra.Machine

/-- Tier, level and stage of a card. -/
def CardMeta.traits (x : CardMeta) : ℕ × ℕ × ℕ := (x.tier, x.level, x.stage)
/-- The traits that a listing claims. -/
def Listing.traits (l : Listing) : ℕ × ℕ × ℕ := (l.tier, l.level, l.stage)

/-- Each listing has a tier that exists, and the traits of its card. -/
def Truthful (s : Chain) : Prop := ∀ m l, s.listings.get m = some l →
  l.tier ≤ maxTier ∧ (s.cards.get m).map CardMeta.traits = some l.traits

/-- The step, if it lists a card, names the traits in the card's record. -/
def NamesTraits (d : Step) : Prop :=
  match d.act with
  | .program _ (.listCard a _ tier level stage) =>
    (d.before.cards.get a.cardMint).map CardMeta.traits = some (tier.toNat, level.toNat, stage.toNat)
  | _ => True

instance : DecidablePred NamesTraits := fun d => by
  unfold NamesTraits
  split <;> infer_instance

section Step

variable {s s' : Chain} {a : Action}

/-- The tiers of cards exist. -/
def TiersOk (s : Chain) : Prop := ∀ m x, s.cards.get m = some x → x.tier ≤ maxTier

theorem tiers_step (h : step s a = .ok s') (tiers : TiersOk s) : TiersOk s' := by
  rcases step_cards h with same | ⟨m, -, mints, -, -⟩
  · unfold TiersOk
    rw [same]
    exact tiers
  · cases a with
    | external tx e => cases mints
    | program tx ix =>
      cases ix with
      | mintCard a tier stage level =>
        obtain ⟨c, p, fee, ok⟩ := mintCardHandler_ok h
        intro j x hx
        rw [ok.after, Store.get_set] at hx
        split at hx
        · obtain rfl := Option.some.inj hx
          exact (mintFeeForTier_ok ok.fee_eq).1
        · exact tiers j x hx
      | _ => cases mints

/-- A card keeps its traits. -/
theorem step_traits {m : Pubkey} {traits : ℕ × ℕ × ℕ} (h : step s a = .ok s')
    (known : (s.cards.get m).map CardMeta.traits = some traits) :
    (s'.cards.get m).map CardMeta.traits = some traits := by
  obtain ⟨x, card, same⟩ := Option.map_eq_some_iff.1 known
  rw [step_card h card, Option.map_some, same]

theorem truthful_step (h : step s a = .ok s') (truthful : Truthful s) (tiers : TiersOk s)
    (names : NamesTraits ⟨s, a, s'⟩) : Truthful s' := by
  intro m l hl
  rcases step_listing h m with ⟨same, -⟩ | ⟨gone, -⟩ | opens
  · rw [same] at hl
    obtain ⟨tier, traits⟩ := truthful m l hl
    exact ⟨tier, step_traits h traits⟩
  · rw [gone] at hl
    cases hl
  · obtain ⟨tx, x, price, tier, level, stage, c, p, M, f, t, rfl, rfl, ok⟩ := opens
    obtain rfl := Option.some.inj (ok.escrowed.1.symm.trans hl)
    have traits : (s.cards.get x.cardMint).map CardMeta.traits =
        some (tier.toNat, level.toNat, stage.toNat) := names
    obtain ⟨card, known, same⟩ := Option.map_eq_some_iff.1 traits
    refine ⟨?_, step_traits h traits⟩
    have below := tiers _ card known
    have tier_eq : card.tier = tier.toNat := congrArg Prod.fst same
    rw [tier_eq] at below
    exact below

/-- A listing that is truthful was opened with the traits of its card. -/
theorem namesTraits_of_truthful (h : step s a = .ok s') (truthful : Truthful s') :
    NamesTraits ⟨s, a, s'⟩ := by
  cases a with
  | external tx e => trivial
  | program tx ix =>
    cases ix with
    | listCard x price tier level stage =>
      obtain ⟨c, p, m, f, t, ok⟩ := listCardHandler_ok h
      have traits := (truthful _ _ ok.escrowed.1).2
      have cards : s'.cards = s.cards := by rw [ok.after]
      rw [cards] at traits
      exact traits
    | _ => trivial

end Step

/-- **When listings tell the truth.** In every state of a run, exactly if each `list_card` of it names the
tier, level and stage of the card's record. -/
theorem listings_truthful_iff {s₀ : Chain} (init : Initialized s₀) (as : List Action) :
    Always step s₀ as Truthful ↔ ∀ d ∈ trace step s₀ as, NamesTraits d := by
  constructor
  · intro always d hd
    exact namesTraits_of_truthful (step_of_mem_trace step hd) (always.around step hd).2
  · intro names pre hpre
    have both : Always step s₀ as fun s => Truthful s ∧ TiersOk s := by
      refine always_of_steps step ⟨?_, ?_⟩ ?_ names
      · intro m l hl
        rw [(init.empty m).2.2] at hl
        cases hl
      · intro m x hx
        rw [(init.empty m).2.1] at hx
        cases hx
      · intro s a s' ok hd h
        exact ⟨truthful_step h ok.1 ok.2 hd, tiers_step h ok.2⟩
    exact (both pre hpre).1

/-- User 6 lists a card of his that is of the given tier by what he says. -/
def listAs (tier : UInt8) : Action :=
  .program (.by [6] 0) (.listCard
    { seller := .key 6, config := .config, buybackPool := .buybackPool, cardMint := .key 8,
      listing := .listing (.key 8), sellerCard := .key 12,
      escrowCard := .ata (.listing (.key 8)) (.key 8), buybackVault := .key 4 } 1000000 tier 5 1)

/-- A common card, listed as one of a tier that does not exist. -/
theorem not_truthful_listAs : Initialized .standard ∧ ¬ Always step .standard
    (openCard 8 12 6 1 ++ [mintOnStandard (.key 8) 0, listAs 200]) Truthful := by
  refine ⟨Chain.initialized_standard, fun always => ?_⟩
  have listed : ((run step .standard
      (openCard 8 12 6 1 ++ [mintOnStandard (.key 8) 0, listAs 200])).listings.get (.key 8)).map
      Listing.tier = some 200 := by decide +kernel
  obtain ⟨l, here, tier⟩ := Option.map_eq_some_iff.1 listed
  have below := (always _ List.prefix_rfl _ l here).1
  rw [tier] at below
  exact absurd below (by decide)

theorem truthful_listAs : Always step .standard
    (openCard 8 12 6 1 ++ [mintOnStandard (.key 8) 2, listAs 2]) Truthful :=
  (listings_truthful_iff Chain.initialized_standard _).2 (by decide +kernel)

end Pokeage
