import Pokeage.Program.Properties.Ledger
import Mathlib.Data.Finset.Dedup
import Mathlib.Data.Finset.Card

/-!
# What the pool pays for

`instant_sell` takes a unit of any mint its seller holds: no account of its context is the card's
`CardMeta`. `Backed` is what the sale of minted cards alone would give. Among the runs that sell no
mint twice it holds exactly where every sale names a mint with a record (`KnownCard`).
-/

namespace Pokeage

open Infra Infra.Machine

/-- The mint an instant sell named. -/
def soldMint (d : Step) : Option Pubkey :=
  match d.act with
  | .program _ (.instantSell a) => some a.cardMint
  | _ => none

/-- The mints that a run sells to the pool, in its order. -/
def soldMints (t : List Step) : List Pubkey := t.filterMap soldMint

/-- The sold mint, if the step is a sale, has a card record. -/
def KnownCard (d : Step) : Prop := ∀ m ∈ soldMint d, (d.before.cards.get m).isSome

instance (d : Step) : Decidable (KnownCard d) :=
  inferInstanceAs (Decidable (∀ m ∈ soldMint d, (d.before.cards.get m).isSome))

/-- Every sale of the run is of a card minted earlier in it, and at no point are there more sales
than cards minted. -/
structure Backed (s₀ : Chain) (as : List Action) : Prop where
  minted : ∀ t₁ d t₂ m, trace step s₀ as = t₁ ++ d :: t₂ → soldMint d = some m →
    ∃ e ∈ t₁, e.act.mints m
  counted : ∀ pre, pre <+: as → ∃ c, (run step s₀ pre).config = some c ∧
    (soldMints (trace step s₀ pre)).length ≤ c.totalCardsMinted

/-- A card has a record exactly if the run minted it. -/
theorem isSome_cards_iff {s₀ : Chain} (h : Initialized s₀) (as : List Action) :
    ∀ m, ((run step s₀ as).cards.get m).isSome ↔ ∃ e ∈ trace step s₀ as, e.act.mints m := by
  refine trace_induction step
    (P := fun t s => ∀ m, (s.cards.get m).isSome ↔ ∃ e ∈ t, e.act.mints m) ?_ ?_ as
  · intro m
    rw [(h.empty m).2.1]
    simp
  · intro t s a s' ih hstep m
    simp only [List.mem_append, List.mem_singleton, or_and_right, exists_or, exists_eq_left]
    rw [← ih m]
    constructor
    · intro hm
      rcases step_cards hstep with hsame | ⟨j, x, hj, -, hset⟩
      · exact Or.inl (by rwa [hsame] at hm)
      · rw [hset, Store.get_set] at hm
        split at hm
        · next hmj => exact Or.inr (hmj ▸ hj)
        · exact Or.inl hm
    · rintro (hm | hm)
      · obtain ⟨x, hx⟩ := Option.isSome_iff_exists.mp hm
        rw [step_card hstep hx]
        rfl
      · exact step_mints hstep hm

/-- With only known cards sold, every mint sold so far has a record. -/
theorem sold_known {s₀ : Chain} (as : List Action) (hk : ∀ d ∈ trace step s₀ as, KnownCard d) :
    ∀ m ∈ soldMints (trace step s₀ as), ((run step s₀ as).cards.get m).isSome := by
  refine trace_induction step (P := fun t s => (∀ d ∈ t, KnownCard d) →
    ∀ m ∈ soldMints t, (s.cards.get m).isSome) ?_ ?_ as hk
  · intro _ m hm
    cases hm
  · intro t s a s' ih hstep hall m hm
    have hbefore : (s.cards.get m).isSome := by
      rw [soldMints, List.filterMap_append, List.mem_append] at hm
      rcases hm with hm | hm
      · exact ih (fun d hd => hall d (by simp [hd])) m hm
      · refine hall ⟨s, a, s'⟩ (by simp) m ?_
        obtain ⟨d, hd, hdm⟩ := List.mem_filterMap.mp hm
        rw [List.mem_singleton] at hd
        rw [← hd]
        exact hdm
    obtain ⟨x, hx⟩ := Option.isSome_iff_exists.mp hbefore
    rw [step_card hstep hx]
    rfl

/-- Different mints with records are at most the records there are. -/
theorem length_le_card {s : Chain} {ms : List Pubkey} (hn : ms.Nodup)
    (h : ∀ m ∈ ms, (s.cards.get m).isSome) : ms.length ≤ s.cards.card := by
  rw [← List.toFinset_card_of_nodup hn]
  refine Finset.card_le_card fun m hm => ?_
  rw [s.cards.mem_keys]
  exact h m (List.mem_toFinset.mp hm)

/-- **When the pool pays for minted cards only.** In a run that sells no mint twice: exactly if every
sale names a mint that has a card record. -/
theorem backed_iff (s₀ : Chain) (h : Initialized s₀) (as : List Action)
    (hn : (soldMints (trace step s₀ as)).Nodup) :
    Backed s₀ as ↔ ∀ d ∈ trace step s₀ as, KnownCard d := by
  constructor
  · intro hb d hd m hm
    obtain ⟨t₁, t₂, ht⟩ := List.append_of_mem hd
    obtain ⟨pre, hr, htr⟩ := trace_split step ht
    rw [← hr, isSome_cards_iff h, htr]
    exact hb.minted t₁ d t₂ m ht hm
  · intro hk
    refine ⟨?_, ?_⟩
    · intro t₁ d t₂ m ht hm
      obtain ⟨pre, hr, htr⟩ := trace_split step ht
      rw [← htr, ← isSome_cards_iff h, hr]
      exact hk d (by rw [ht]; simp) m hm
    · rintro pre ⟨post, rfl⟩
      rw [trace_append] at hn hk
      obtain ⟨c, p, hl⟩ := ledger_run h pre
      refine ⟨c, hl.config, ?_⟩
      rw [hl.minted]
      refine length_le_card ?_ (sold_known pre fun d hd => hk d (List.mem_append_left _ hd))
      rw [soldMints, List.filterMap_append] at hn
      exact (List.nodup_append.mp hn).1

/-- User 7 makes a mint of his own and sells two units of it to the pool. -/
def sellForeign : List Action :=
  openBuyback ++ openCard 11 12 7 5 ++ [sellOnStandard 11 12 7, sellOnStandard 11 12 7]

/-- The pool pays for a mint that `mint_card` never saw, more often than there are cards. -/
theorem not_backed_sellForeign : Initialized .standard ∧ ¬Backed .standard sellForeign := by
  refine ⟨Chain.initialized_standard, fun hb => ?_⟩
  obtain ⟨c, hc, hle⟩ := hb.counted sellForeign List.prefix_rfl
  have htwo : soldMints (trace step .standard sellForeign) = [.key 11, .key 11] := by
    decide +kernel
  have hone : (run step .standard sellForeign).config.map Config.totalCardsMinted = some 1 := by
    decide +kernel
  rw [hc] at hone
  rw [htwo, Option.some.inj hone] at hle
  exact absurd hle (by decide)

/-- User 6 sells the one unit of the card minted first. -/
theorem backed_sellMinted :
    Backed .standard (openCard 8 12 6 1 ++ openBuyback ++ [sellOnStandard 8 12 6]) :=
  (backed_iff _ Chain.initialized_standard _ (by decide +kernel)).mpr (by decide +kernel)

end Pokeage
