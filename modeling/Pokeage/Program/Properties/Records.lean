import Pokeage.Program.Effect

/-!
# The program's records along a run

What a step leaves of the config, the pool and the stores of cards, listings and players.

* `step_config` — the config stays, and with it its keys and rates
* `step_pool` — the pool stays
* `Reachable.live` — so both are there, at their canonical bumps, in every reachable state
* `step_players` — players' records change in sinks only
* `step_card`, `step_card_new` — a card record is never dropped, and only `mint_card` writes one
-/

namespace Pokeage

open Infra Infra.Machine

/-- The keys and rates of a config: what is left when its counters and pause bits are blanked. -/
def Config.rates (c : Config) : Config :=
  { c with totalBurned := 0, totalCardsMinted := 0, paused := 0 }

/-- What can be read off the keys and rates is the same for two configs that share them. -/
theorem Config.of_rates {α : Type} {c c' : Config} (f : Config → α) (hf : ∀ c, f c.rates = f c)
    (h : c'.rates = c.rates) : f c' = f c := by
  rw [← hf c', h, hf]

/-- The config and the pool are open, at the canonical bumps of their addresses. -/
structure Live (s : Chain) (c : Config) (p : BuybackPool) : Prop where
  config : s.config = some c
  pool : s.pool = some p
  configBump : c.bump = s.bumpOf .config
  poolBump : p.bump = s.bumpOf .buybackPool

section Step

variable {s s' : Chain} {a : Action} {c : Config} {p : BuybackPool}

theorem step_bumpOf (h : step s a = .ok s') : s'.bumpOf = s.bumpOf := by
  cases step_effect h with
  | sink _ ok => obtain ⟨ev, rfl⟩ := ok.after; rfl
  | external ok => exact (External.sameRecords ok).bumpOf
  | initializeProgram ok => rw [ok.after]
  | mintCard ok => rw [ok.after]
  | listCard ok => rw [ok.after]
  | cancelListing ok => rw [ok.after]
  | buyCard ok => rw [ok.after]
  | instantSell ok => rw [ok.after]
  | updateFloor _ _ after => rw [after]
  | setInstantSell _ _ _ after => rw [after]
  | withdrawTreasury _ _ _ after => rw [after]
  | setPause _ after => rw [after]

/-- Once opened, the config stays, with the keys and rates it was opened with. -/
theorem step_config (h : step s a = .ok s') (hc : s.config = some c) :
    ∃ c', s'.config = some c' ∧ c'.rates = c.rates := by
  cases step_effect h with
  | initializeProgram ok =>
    rw [ok.config] at hc
    cases hc
  | sink _ ok =>
    obtain ⟨ev, rfl⟩ := ok.after
    obtain rfl := Option.some.inj (ok.config.symm.trans hc)
    exact ⟨_, rfl, rfl⟩
  | mintCard ok =>
    obtain rfl := Option.some.inj (ok.config.symm.trans hc)
    obtain rfl := ok.after
    exact ⟨_, rfl, rfl⟩
  | listCard ok => exact ⟨c, by rw [ok.after]; exact hc, rfl⟩
  | cancelListing ok => exact ⟨c, by rw [ok.after]; exact hc, rfl⟩
  | buyCard ok => exact ⟨c, by rw [ok.after]; exact hc, rfl⟩
  | instantSell ok => exact ⟨c, by rw [ok.after]; exact hc, rfl⟩
  | updateFloor _ _ after => exact ⟨c, by rw [after]; exact hc, rfl⟩
  | setInstantSell _ _ _ after => exact ⟨c, by rw [after]; exact hc, rfl⟩
  | withdrawTreasury _ _ _ after => exact ⟨c, by rw [after]; exact hc, rfl⟩
  | setPause admin after =>
    obtain rfl := Option.some.inj (admin.config.symm.trans hc)
    subst after
    exact ⟨_, rfl, rfl⟩
  | external ok => exact ⟨c, (External.sameRecords ok).config.trans hc, rfl⟩

/-- Once opened, the pool stays. -/
theorem step_pool (h : step s a = .ok s') (hp : s.pool = some p) :
    ∃ p', s'.pool = some p' ∧ p'.bump = p.bump := by
  cases step_effect h with
  | initializeProgram ok =>
    rw [ok.pool] at hp
    cases hp
  | sink _ ok =>
    obtain ⟨ev, rfl⟩ := ok.after
    exact ⟨p, hp, rfl⟩
  | mintCard ok =>
    obtain rfl := Option.some.inj (ok.pool.symm.trans hp)
    obtain rfl := ok.after
    exact ⟨_, rfl, rfl⟩
  | listCard ok =>
    obtain rfl := Option.some.inj (ok.pool.symm.trans hp)
    obtain rfl := ok.after
    exact ⟨_, rfl, rfl⟩
  | cancelListing ok => exact ⟨p, by rw [ok.after]; exact hp, rfl⟩
  | buyCard ok =>
    obtain rfl := Option.some.inj (ok.pool.symm.trans hp)
    obtain rfl := ok.after
    exact ⟨_, rfl, rfl⟩
  | instantSell ok =>
    obtain rfl := Option.some.inj (ok.pool.symm.trans hp)
    obtain rfl := ok.after
    exact ⟨_, rfl, rfl⟩
  | updateFloor _ pool after =>
    obtain rfl := Option.some.inj (pool.symm.trans hp)
    subst after
    exact ⟨_, rfl, rfl⟩
  | setInstantSell _ pool _ after =>
    obtain rfl := Option.some.inj (pool.symm.trans hp)
    subst after
    exact ⟨_, rfl, rfl⟩
  | withdrawTreasury _ _ _ after => exact ⟨p, by rw [after]; exact hp, rfl⟩
  | setPause _ after => exact ⟨p, by rw [after]; exact hp, rfl⟩
  | external ok => exact ⟨p, (External.sameRecords ok).pool.trans hp, rfl⟩

theorem Live.step (hl : Live s c p) (h : step s a = .ok s') :
    ∃ c' p', Live s' c' p' ∧ c'.rates = c.rates := by
  obtain ⟨c', hc', hr⟩ := step_config h hl.config
  obtain ⟨p', hp', hb⟩ := step_pool h hl.pool
  refine ⟨c', p', ⟨hc', hp', ?_, ?_⟩, hr⟩
  · rw [step_bumpOf h, Config.of_rates Config.bump (fun _ => rfl) hr, hl.configBump]
  · rw [step_bumpOf h, hb, hl.poolBump]

/-- Players' records change in sinks only. -/
theorem step_players (h : step s a = .ok s') :
    s'.players = s.players ∨ ∃ tx ix x cost c m f t ps, a = .program tx ix ∧
      ix.charge = some (x, cost) ∧ SinkOk s tx x cost c m f t ps s' := by
  cases step_effect h with
  | sink charge ok => exact .inr ⟨_, _, _, _, _, _, _, _, _, rfl, charge, ok⟩
  | external ok => exact .inl (External.sameRecords ok).players
  | initializeProgram ok => exact .inl (by rw [ok.after])
  | mintCard ok => exact .inl (by rw [ok.after])
  | listCard ok => exact .inl (by rw [ok.after])
  | cancelListing ok => exact .inl (by rw [ok.after])
  | buyCard ok => exact .inl (by rw [ok.after])
  | instantSell ok => exact .inl (by rw [ok.after])
  | updateFloor _ _ after => exact .inl (by rw [after])
  | setInstantSell _ _ _ after => exact .inl (by rw [after])
  | withdrawTreasury _ _ _ after => exact .inl (by rw [after])
  | setPause _ after => exact .inl (by rw [after])

/-! ## Cards -/

/-- Whether the action is a `mint_card` of the given mint. -/
def Action.mints (m : Pubkey) : Action → Prop
  | .program _ (.mintCard a _ _ _) => a.cardMint = m
  | _ => False

theorem step_mints {m : Pubkey} (h : step s a = .ok s') (hm : a.mints m) :
    (s'.cards.get m).isSome := by
  cases a with
  | external tx e => cases hm
  | program tx ix =>
    cases ix with
    | mintCard a tier stage level =>
      obtain ⟨c, p, fee, ok⟩ := mintCardHandler_ok h
      obtain rfl := hm
      rw [ok.after]
      simp
    | _ => cases hm

/-- Only `mint_card` writes a card record, and one only. -/
theorem step_cards (h : step s a = .ok s') :
    s'.cards = s.cards ∨
      ∃ m x, a.mints m ∧ s.cards.get m = none ∧ s'.cards = s.cards.set m x := by
  cases step_effect h with
  | mintCard ok =>
    have hfresh := ok.fresh
    obtain rfl := ok.after
    exact Or.inr ⟨_, _, rfl, hfresh, rfl⟩
  | sink _ ok => obtain ⟨ev, rfl⟩ := ok.after; exact Or.inl rfl
  | external ok => exact Or.inl (External.sameRecords ok).cards
  | initializeProgram ok => exact Or.inl (by rw [ok.after])
  | listCard ok => exact Or.inl (by rw [ok.after])
  | cancelListing ok => exact Or.inl (by rw [ok.after])
  | buyCard ok => exact Or.inl (by rw [ok.after])
  | instantSell ok => exact Or.inl (by rw [ok.after])
  | updateFloor _ _ after => exact Or.inl (by rw [after])
  | setInstantSell _ _ _ after => exact Or.inl (by rw [after])
  | withdrawTreasury _ _ _ after => exact Or.inl (by rw [after])
  | setPause _ after => exact Or.inl (by rw [after])

/-- A card record is never dropped or overwritten. -/
theorem step_card {m : Pubkey} {x : CardMeta} (h : step s a = .ok s')
    (hm : s.cards.get m = some x) : s'.cards.get m = some x := by
  rcases step_cards h with same | ⟨j, y, -, fresh, set⟩
  · rw [same]
    exact hm
  · rw [set, Store.get_set_ne]
    · exact hm
    · rintro rfl
      rw [fresh] at hm
      cases hm

end Step

/-! ## From `initialize` on -/

theorem InitializedWith.live {s : Chain} {a : Initialize} {b p m : UInt16} {l : UInt64}
    (h : InitializedWith s a b p m l) : ∃ c q, Live s c q ∧ c.authority = a.authority ∧
      c.burnBps = b.toNat ∧ c.marketFeeBps = m.toNat ∧ c.listingFee = l.toNat ∧
      c.instantSellBps = instantSellBps := by
  obtain ⟨g, tx, -, hstep⟩ := h.genesis
  have ok := initializeHandler_ok hstep
  obtain rfl := ok.after
  exact ⟨_, _, ⟨rfl, rfl, rfl, rfl⟩, rfl, rfl, rfl, rfl, rfl⟩

/-- At the start no player, card or listing has a record. -/
theorem Initialized.empty {s : Chain} (h : Initialized s) (k : Pubkey) :
    s.players.get k = none ∧ s.cards.get k = none ∧ s.listings.get k = none := by
  obtain ⟨a, b, p, m, l, ⟨g, tx, genesis, hstep⟩⟩ := h
  rw [(initializeHandler_ok hstep).after]
  exact ⟨genesis.players k, genesis.cards k, genesis.listings k⟩

theorem Reachable.live {s : Chain} (h : Reachable s) : ∃ c p, Live s c p := by
  refine Reachable.induction (P := fun s => ∃ c p, Live s c p) ?_ ?_ h
  · rintro s ⟨a, b, p, m, l, hi⟩
    obtain ⟨c, q, hl, -⟩ := hi.live
    exact ⟨c, q, hl⟩
  · rintro s a s' ⟨c, p, hl⟩ hstep
    obtain ⟨c', p', hl', -⟩ := hl.step hstep
    exact ⟨c', p', hl'⟩

end Pokeage
