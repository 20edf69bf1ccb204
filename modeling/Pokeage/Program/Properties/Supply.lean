import Pokeage.Program.Opening
import Pokeage.Program.Properties.Books

/-!
# Where the supply of $PAGE went

The config counts what the program has burned. Beside the counter stands the mint's own supply, which
the token program also lets others raise and lower. `supply_accounted` puts the two together along a
run: the counter never misses a burn of the program and never counts anybody else's.
-/

namespace Pokeage

open Infra Infra.Machine

/-- What a step mints of a mint, from outside the program. -/
def mintedOutside (mint : Pubkey) (d : Step) : ℕ :=
  match d.act with
  | .external _ (.mintTo m _ _ amount) => if m = mint then amount.toNat else 0
  | _ => 0

/-- What a step burns of a mint, from outside the program. -/
def burnedOutside (mint : Pubkey) (d : Step) : ℕ :=
  match d.act with
  | .external _ (.tokenBurn _ m _ amount) => if m = mint then amount.toNat else 0
  | _ => 0

/-- After the steps `t`: of the `opening` supply and what was minted outside there is the supply, what
the program has burned and what was burned outside. -/
structure SupplyBooks (t : List Step) (opening : ℕ) (mint : Pubkey) (s : Chain) (c : Config) (m : Mint) :
    Prop where
  config : s.config = some c
  page : c.pageMint = mint
  there : s.mints.get mint = some m
  balance : m.supply + c.totalBurned + (t.map (burnedOutside mint)).sum =
    opening + (t.map (mintedOutside mint)).sum

section Step

variable {t : List Step} {opening : ℕ} {s s' : Chain} {a : Action} {c c' : Config} {mint : Pubkey}
  {m m' : Mint}

/-- A step keeps the books when it moves supply and counter by what is minted and burned. -/
theorem SupplyBooks.append (h : SupplyBooks t opening mint s c m) (config : s'.config = some c')
    (page : c'.pageMint = mint) (there : s'.mints.get mint = some m')
    (moved : m'.supply + c'.totalBurned + burnedOutside mint ⟨s, a, s'⟩ =
      m.supply + c.totalBurned + mintedOutside mint ⟨s, a, s'⟩) :
    SupplyBooks (t ++ [⟨s, a, s'⟩]) opening mint s' c' m' := by
  have balance := h.balance
  refine ⟨config, page, there, ?_⟩
  simp only [List.map_append, List.map_cons, List.map_nil, List.sum_append, List.sum_cons,
    List.sum_nil]
  omega

/-- A step of the program that leaves the mints and the counter. -/
theorem SupplyBooks.idle {tx : Tx} {ix : Instruction} (h : SupplyBooks t opening mint s c m)
    (config : s'.config = some c') (keys : c'.pageMint = c.pageMint)
    (counter : c'.totalBurned = c.totalBurned) (mints : s'.mints = s.mints) :
    SupplyBooks (t ++ [⟨s, .program tx ix, s'⟩]) opening mint s' c' m :=
  h.append config (keys.trans h.page) (by rw [mints, h.there]) (by rw [counter]; rfl)

/-- A sink burns as much as it counts. -/
theorem SupplyBooks.sink {tx : Tx} {ix : Instruction} {x : SinkContext} {cost : ℕ} {M : Mint}
    {f u : TokenAccount} {ps : PlayerState} (h : SupplyBooks t opening mint s c m)
    (ok : SinkOk s tx x cost c' M f u ps s') :
    ∃ c' m', SupplyBooks (t ++ [⟨s, .program tx ix, s'⟩]) opening mint s' c' m' := by
  obtain rfl := Option.some.inj (h.config.symm.trans ok.config)
  have same : x.pageMint = mint := ok.pageMint.trans h.page
  have there := ok.mint
  have enough := ok.supply
  rw [same, h.there] at there
  obtain rfl := Option.some.inj there
  obtain ⟨ev, rfl⟩ := ok.after
  refine ⟨_, m.burned (bps cost burnBps), h.append rfl h.page ?_ ?_⟩
  · show (s.mints.modify x.pageMint _).get mint = _
    rw [same, Store.get_modify_self, h.there]
    rfl
  · show m.supply - bps cost burnBps + (c.totalBurned + bps cost burnBps) + 0 =
      m.supply + c.totalBurned + 0
    omega

/-- From outside only `mint_to` and `burn` move a supply, and both are accounted for. -/
theorem SupplyBooks.external {tx : Tx} {e : External} (h : SupplyBooks t opening mint s c m)
    (books : TokenBooks s.mints s.tokens) (ok : e.apply s tx = .ok s') :
    ∃ m', SupplyBooks (t ++ [⟨s, .external tx e, s'⟩]) opening mint s' c m' := by
  have config := (External.sameRecords ok).config.trans h.config
  cases External.effect ok with
  | @createMint k authority decimals vacant =>
    have ne : mint ≠ k := by
      rintro rfl
      have free := vacant
      simp [Chain.vacant, h.there] at free
    exact ⟨m, h.append config h.page ((Store.get_set_ne _ _ ne).trans h.there) rfl⟩
  | @mintTo k dst authority amount M u there card card_mint fits =>
    by_cases same : k = mint
    · subst same
      obtain rfl := Option.some.inj (h.there.symm.trans there)
      refine ⟨_, h.append config h.page (by
        show (s.mints.modify k _).get k = _
        rw [Store.get_modify_self, h.there]
        rfl) ?_⟩
      simp only [burnedOutside, mintedOutside, if_pos]
      omega
    · refine ⟨m, h.append config h.page ((Store.get_modify_ne _ _ (Ne.symm same)).trans h.there) ?_⟩
      simp only [burnedOutside, mintedOutside, if_neg same]
  | @setMintAuthority k authority next M there =>
    by_cases same : k = mint
    · subst same
      obtain rfl := Option.some.inj (h.there.symm.trans there)
      exact ⟨_, h.append config h.page (Store.get_set_self _ _ _) rfl⟩
    · exact ⟨m, h.append config h.page ((Store.get_set_ne _ _ (Ne.symm same)).trans h.there) rfl⟩
  | @tokenBurn src k authority amount f signed card covered card_mint owner =>
    by_cases same : k = mint
    · subst same
      have held := amount_le_heldOf card
      rw [card_mint, (books.supply k m h.there).1] at held
      refine ⟨m.burned amount.toNat, h.append config h.page (by
        show (s.mints.modify k _).get k = _
        rw [Store.get_modify_self, h.there]
        rfl) ?_⟩
      simp only [burnedOutside, mintedOutside, if_pos, Mint.burned]
      omega
    · refine ⟨m, h.append config h.page ((Store.get_modify_ne _ _ (Ne.symm same)).trans h.there) ?_⟩
      simp only [burnedOutside, mintedOutside, if_neg same]
  | _ => exact ⟨m, h.append config h.page h.there rfl⟩

/-- **The step lemma.** -/
theorem SupplyBooks.step (h : SupplyBooks t opening mint s c m) (books : TokenBooks s.mints s.tokens)
    (stepped : step s a = .ok s') :
    ∃ c' m', SupplyBooks (t ++ [⟨s, a, s'⟩]) opening mint s' c' m' := by
  cases step_effect stepped with
  | initializeProgram ok =>
    have none := ok.config
    rw [h.config] at none
    cases none
  | sink _ ok => exact h.sink ok
  | external ok =>
    obtain ⟨m', kept⟩ := h.external books ok
    exact ⟨c, m', kept⟩
  | mintCard ok =>
    obtain rfl := Option.some.inj (h.config.symm.trans ok.config)
    obtain rfl := ok.after
    exact ⟨_, m, h.idle rfl rfl rfl rfl⟩
  | listCard ok =>
    obtain rfl := ok.after
    exact ⟨c, m, h.idle h.config rfl rfl rfl⟩
  | cancelListing ok =>
    obtain rfl := ok.after
    exact ⟨c, m, h.idle h.config rfl rfl rfl⟩
  | buyCard ok =>
    obtain rfl := ok.after
    exact ⟨c, m, h.idle h.config rfl rfl rfl⟩
  | instantSell ok =>
    obtain rfl := ok.after
    exact ⟨c, m, h.idle h.config rfl rfl rfl⟩
  | updateFloor _ _ after =>
    subst after
    exact ⟨c, m, h.idle h.config rfl rfl rfl⟩
  | setInstantSell _ _ _ after =>
    subst after
    exact ⟨c, m, h.idle h.config rfl rfl rfl⟩
  | withdrawTreasury _ _ _ after =>
    subst after
    exact ⟨c, m, h.idle h.config rfl rfl rfl⟩
  | setPause admin after =>
    obtain rfl := Option.some.inj (h.config.symm.trans admin.config)
    subst after
    exact ⟨_, m, h.idle rfl rfl rfl rfl⟩

end Step

/-- `initialize` finds the mint there, and nothing burned yet. -/
theorem Initialized.supplyBooks {s : Chain} (h : Initialized s) :
    ∃ c m, SupplyBooks [] m.supply c.pageMint s c m := by
  obtain ⟨a, b, p, f, l, ⟨g, tx, genesis, stepped⟩⟩ := h
  have minted : (s.mints.get a.pageMint).isSome := by
    have loaded : initializeHandler g tx a b.toNat p.toNat f.toNat l.toNat = .ok s := stepped
    rw [(initializeHandler_ok stepped).after]
    simp only [initializeHandler, bind_eq_ok, require_eq_ok, exists_const, Chain.loadMint_eq_ok] at loaded
    obtain ⟨-, -, -, -, -, -, m, there, -⟩ := loaded
    rw [there]
    rfl
  obtain ⟨m, there⟩ := Option.isSome_iff_exists.mp minted
  have config := (initializeHandler_ok stepped).after
  refine ⟨_, m, ⟨by rw [config], rfl, there, ?_⟩⟩
  simp

/-- **The burn counter is what the program took out of the supply.** After any run the supply of $PAGE
with what the program has burned is the supply at `initialize` with what was minted since, less what
was burned outside the program. -/
theorem supply_accounted (s₀ : Chain) (init : Initialized s₀) (as : List Action) :
    ∃ c₀ m₀ c m, s₀.config = some c₀ ∧ s₀.mints.get c₀.pageMint = some m₀ ∧ c.pageMint = c₀.pageMint ∧
      (run step s₀ as).config = some c ∧ (run step s₀ as).mints.get c₀.pageMint = some m ∧
      m.supply + c.totalBurned + ((trace step s₀ as).map (burnedOutside c₀.pageMint)).sum =
        m₀.supply + ((trace step s₀ as).map (mintedOutside c₀.pageMint)).sum := by
  obtain ⟨c₀, m₀, opened⟩ := init.supplyBooks
  obtain ⟨-, c, m, books⟩ := trace_induction step
    (P := fun t s => Reachable s ∧ ∃ c m, SupplyBooks t m₀.supply c₀.pageMint s c m)
    ⟨init.reachable, c₀, m₀, opened⟩ (by
      rintro t s a s' ⟨reachable, c, m, books⟩ stepped
      have reached := reachable.run [a]
      rw [run_cons, exec_ok stepped] at reached
      exact ⟨reached, books.step reachable.books stepped⟩) as
  exact ⟨c₀, m₀, c, m, opened.config, opened.there, books.page, books.config, books.there, books.balance⟩

/-- Two thousand tokens minted, and seven hundred of them burned by a deploy. -/
theorem supply_accounted_deploy : ∃ c m,
    (run step .standard (fundSink ++ [deployOnStandard (.key 10)])).config = some c ∧
    (run step .standard (fundSink ++ [deployOnStandard (.key 10)])).mints.get (.key 2) = some m ∧
    m.supply + c.totalBurned = 2000000000 ∧ c.totalBurned = 700000000 := by
  obtain ⟨c₀, m₀, c, m, config₀, mint₀, -, config, mint, balance⟩ :=
    supply_accounted .standard Chain.initialized_standard (fundSink ++ [deployOnStandard (.key 10)])
  have page : Chain.standard.config.map Config.pageMint = some (.key 2) := by decide +kernel
  have supply : (Chain.standard.mints.get (.key 2)).map Mint.supply = some 0 := by decide +kernel
  have burned : (run step .standard (fundSink ++ [deployOnStandard (.key 10)])).config.map
      Config.totalBurned = some 700000000 := by decide +kernel
  have outside : ((trace step .standard (fundSink ++ [deployOnStandard (.key 10)])).map
      (burnedOutside (.key 2))).sum = 0 := by decide +kernel
  have minted : ((trace step .standard (fundSink ++ [deployOnStandard (.key 10)])).map
      (mintedOutside (.key 2))).sum = 2000000000 := by decide +kernel
  rw [config₀, Option.map_some, Option.some.injEq] at page
  rw [config, Option.map_some, Option.some.injEq] at burned
  rw [page] at mint₀ mint balance
  rw [mint₀, Option.map_some, Option.some.injEq] at supply
  refine ⟨c, m, config, mint, ?_, burned⟩
  omega

end Pokeage
