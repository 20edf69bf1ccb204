import Pokeage.Program.Index
import Pokeage.Program.Properties.Capacity

/-!
# The log tells the state

What an indexer makes of the events since `initialize` is what stands in the accounts: every step
either leaves the index and the log alone or logs the one event that explains it
(`step_advances`). `log_tells_index` takes this along a run; `market_books` reads the books of the
marketplace off the log.
-/

namespace Pokeage

open Infra Infra.Machine Infra.Replay

/-! ## One step -/

section Step

variable {s s' : Chain} {c : Config}

/-- What a step has to do for an indexer to keep up with it. -/
abbrev Logs (r : Tariff) : Chain → Chain → Prop := Explains (indexer r) Chain.events Chain.index

theorem Logs.silent {r : Tariff} (events : s'.events = s.events) (index : s'.index = s.index) :
    Logs r s s' := .inl ⟨events, index⟩

/-- The index shows the career in the record. -/
theorem career_of_get {k : Pubkey} {ps : PlayerState} (h : s.players.get k = some ps) :
    s.index.players k = ps.career := by
  show careerOf (s.players.get k) = _
  rw [h]
  rfl

/-- A sink writes one record, burns its part of the cost and logs the event it was given. -/
theorem settleSink_logs {tx : Tx} {a : SinkContext} {ps : PlayerState} {cost : ℕ}
    {event : SinkSplit → Event} {r : Tariff} (loaded : a.load s tx = .ok c) (h2 : 2 ≤ cost)
    (h : settleSink s a c ps cost event = .ok s')
    (expected : Event.Expected r s.index (event ⟨bps cost burnBps, cost - bps cost burnBps⟩))
    (applied : Event.apply r s.index (event ⟨bps cost burnBps, cost - bps cost burnBps⟩) =
      (s.index.setPlayer a.player ps.career).burn (bps cost burnBps)) : Logs r s s' := by
  obtain ⟨-, config, -⟩ := SinkContext.load_ok loaded
  simp only [settleSink, bind_eq_ok, checkedAdd_eq_ok, pure_eq_ok] at h
  obtain ⟨⟨s₁, split⟩, sunk, b, ⟨-, rfl⟩, rfl⟩ := h
  obtain ⟨f, t, m, -, -, -, -, -, -, -, -, rfl, rfl⟩ := applySink_ok h2 sunk
  refine .inr ⟨_, rfl, expected, ?_⟩
  show _ = Event.apply r s.index _
  rw [applied]
  simp only [Chain.index, Chain.emit, Index.setPlayer, Index.burn, careers_set, config, Option.elim]

/-- `deploy_agent` logs what it does. -/
theorem deployAgentHandler_logs {tx : Tx} {a : DeployAgent} (r : Tariff)
    (h : deployAgentHandler s tx a = .ok s') : Logs r s s' := by
  simp only [deployAgentHandler, initPlayerIfNeeded, bind_eq_ok, require_eq_ok, exists_const,
    pure_eq_ok] at h
  obtain ⟨c, loaded, ps, ⟨-, rfl⟩, idle, h⟩ := h
  exact settleSink_logs loaded (by decide) h ⟨idle, rfl⟩ rfl

/-- So does `catch_attempt`. -/
theorem catchAttemptHandler_logs {tx : Tx} {a : CatchAttempt} {rarity : ℕ} (r : Tariff)
    (h : catchAttemptHandler s tx a rarity = .ok s') : Logs r s s' := by
  simp only [catchAttemptHandler, bind_eq_ok, Chain.loadPlayer_eq_ok, require_eq_ok, exists_const,
    checkedAdd_eq_ok] at h
  obtain ⟨c, loaded, ps, ⟨-, record, -, -⟩, -, deployed, cost, price, n, ⟨-, rfl⟩, h⟩ := h
  have h2 : 2 ≤ cost := by
    unfold catchCostForRarity at price
    split at price <;> cases price <;> decide
  have career := career_of_get record
  refine settleSink_logs loaded h2 h ⟨?_, cost, price, rfl, ?_⟩ ?_
  · rw [career]
    exact deployed
  · exact Nat.add_sub_of_le (bps_le (by decide) cost)
  · simp only [Event.apply, career]
    rfl

/-- So does `gym_challenge`. -/
theorem gymChallengeHandler_logs {tx : Tx} {a : GymChallenge} {i : ℕ} (r : Tariff)
    (h : gymChallengeHandler s tx a i = .ok s') : Logs r s s' := by
  simp only [gymChallengeHandler, bind_eq_ok, Chain.loadPlayer_eq_ok, require_eq_ok,
    exists_const] at h
  obtain ⟨c, loaded, ps, ⟨-, record, -, -⟩, deployed, below, -, h⟩ := h
  simp only [PlayerState.setBadge, if_pos below] at h
  have career := career_of_get record
  refine settleSink_logs loaded (by decide) h ⟨?_, below⟩ ?_
  · rw [career]
    exact deployed
  · simp only [Event.apply, career]
    rfl

/-- So does `force_evolve`. -/
theorem forceEvolveHandler_logs {tx : Tx} {a : ForceEvolve} (r : Tariff)
    (h : forceEvolveHandler s tx a = .ok s') : Logs r s s' := by
  simp only [forceEvolveHandler, bind_eq_ok, Chain.loadPlayer_eq_ok, require_eq_ok,
    exists_const] at h
  obtain ⟨c, loaded, ps, ⟨-, record, -, -⟩, deployed, h⟩ := h
  have career := career_of_get record
  refine settleSink_logs loaded (by decide) h ⟨?_, rfl⟩ ?_
  · rw [career]
    exact deployed
  · -- the career is the one the index had
    simp only [Event.apply, Index.setPlayer]
    rw [show PlayerState.career { ps with lastAction := tx.now } = s.index.players a.player from
      career.symm, Function.update_eq_self]

/-- So does `mint_card`. -/
theorem mintCard_logs {tx : Tx} {a : MintCard} {tier stage level fee : ℕ} {p : BuybackPool}
    (r : Tariff) (ok : MintCard.Ok s tx a tier stage level c p fee s') : Logs r s s' := by
  have fresh := ok.fresh
  have config := ok.config
  have pool := ok.pool
  have fee_eq := ok.fee_eq
  obtain rfl := ok.after
  refine .inr ⟨_, rfl, ⟨?_, fee_eq⟩, ?_⟩
  · show (s.cards.get a.cardMint).map _ = none
    rw [fresh]
    rfl
  · simp only [Chain.index, indexer, Event.apply, tiers_set, config, pool, Option.elim]

theorem listCardHandler_listing {tx : Tx} {a : ListCard} {price tier level stage : ℕ}
    (h : listCardHandler s tx a price tier level stage = .ok s') : a.listing = .listing a.cardMint := by
  simp only [listCardHandler, bind_eq_ok, Tx.signed_eq_ok, Chain.loadConfig_eq_ok,
    Chain.loadPool_eq_ok, Chain.loadMint_eq_ok, require_eq_ok, exists_const] at h
  obtain ⟨-, c, -, p, -, m, -, listing, -⟩ := h
  exact listing

/-- So does `list_card`. -/
theorem listCard_logs {tx : Tx} {a : ListCard} {price tier level stage : ℕ} {p : BuybackPool}
    {m : Mint} {f t : TokenAccount} (listing : a.listing = .listing a.cardMint)
    (ok : ListCard.Ok s tx a price tier level stage c p m f t s') : Logs c.tariff s s' := by
  have fresh := ok.fresh
  have positive := ok.price_pos
  have pool := ok.pool
  obtain rfl := ok.after
  refine .inr ⟨_, rfl, ⟨?_, positive⟩, ?_⟩
  · show offerAt s.listings a.listing = none
    rw [listing]
    simp only [offerAt, fresh, Option.map_none]
  · simp only [Chain.index, indexer, Event.apply, offerAt_set, ListCard.opened, listing, pool,
      Option.elim]
    rfl

/-- So does `cancel_listing`. -/
theorem cancelListing_logs {tx : Tx} {a : CancelListing} {l : Listing} {f t : TokenAccount}
    (r : Tariff) (ok : CancelListing.Ok s tx a l f t s') : Logs r s s' := by
  have record := ok.listing
  have listing := ok.listing_eq
  obtain rfl := ok.after
  refine .inr ⟨_, rfl, ?_, ?_⟩
  · show (offerAt s.listings a.listing).isSome
    rw [listing]
    simp only [offerAt, record, Option.map_some, Option.isSome_some]
  · simp only [Chain.index, indexer, Event.apply, offerAt_erase, listing]

/-- So does `buy_card`. -/
theorem buyCard_logs {tx : Tx} {a : BuyCard} {l : Listing} {p : BuybackPool} {f t : TokenAccount}
    (ok : BuyCard.Ok s tx a c p l f t s') : Logs c.tariff s s' := by
  have record := ok.listing
  have listing := ok.listing_eq
  have pool := ok.pool
  obtain rfl := ok.after
  refine .inr ⟨_, rfl, ⟨?_, rfl⟩, ?_⟩
  · show offerAt s.listings a.listing = some l.price
    rw [listing]
    simp only [offerAt, record, Option.map_some]
  · simp only [Chain.index, indexer, Event.apply, offerAt_erase, listing, pool, Option.elim]
    rfl

/-- So does `instant_sell`. -/
theorem instantSell_logs {tx : Tx} {a : InstantSell} {p : BuybackPool} {f t : TokenAccount}
    (r : Tariff) (balance : p.lifetimeIn = p.totalLamports + p.lifetimeOut)
    (ok : InstantSell.Ok s tx a c p f t s') : Logs r s s' := by
  have enough := ok.enough
  have pool := ok.pool
  obtain rfl := ok.after
  refine .inr ⟨_, rfl, ?_, ?_⟩
  · show s.pool.elim 0 _ + payout p ≤ s.pool.elim 0 _
    rw [pool]
    show p.lifetimeOut + payout p ≤ p.lifetimeIn
    omega
  · simp only [Chain.index, indexer, Event.apply, pool, Option.elim]

/-- **The step lemma.** -/
theorem step_advances {p : BuybackPool} {act : Action} (h : step s act = .ok s')
    (config : s.config = some c) (pool : s.pool = some p)
    (balance : p.lifetimeIn = p.totalLamports + p.lifetimeOut) : Logs c.tariff s s' := by
  cases act with
  | external tx e =>
    obtain ⟨-, hc, hp, hplayers, hcards, hlistings, hevents⟩ := External.sameRecords h
    refine .silent hevents ?_
    simp only [Chain.index, hc, hp, hplayers, hcards, hlistings]
  | program tx ix =>
    cases ix with
    | initializeProgram a b q m l =>
      have none := (initializeHandler_ok h).config
      rw [config] at none
      cases none
    | deployAgent a => exact deployAgentHandler_logs _ h
    | catchAttempt a rarity => exact catchAttemptHandler_logs _ h
    | gymChallenge a i => exact gymChallengeHandler_logs _ h
    | forceEvolve a => exact forceEvolveHandler_logs _ h
    | mintCard a tier stage level =>
      obtain ⟨c', p', fee, ok⟩ := mintCardHandler_ok h
      exact mintCard_logs _ ok
    | listCard a price tier level stage =>
      obtain ⟨c', p', m, f, t, ok⟩ := listCardHandler_ok h
      obtain rfl := Option.some.inj (config.symm.trans ok.config)
      exact listCard_logs (listCardHandler_listing h) ok
    | cancelListing a =>
      obtain ⟨l, f, t, ok⟩ := cancelListingHandler_ok h
      exact cancelListing_logs _ ok
    | buyCard a =>
      obtain ⟨c', p', l, f, t, ok⟩ := buyCardHandler_ok h
      obtain rfl := Option.some.inj (config.symm.trans ok.config)
      exact buyCard_logs ok
    | instantSell a =>
      obtain ⟨c', p', f, t, ok⟩ := instantSellHandler_ok h
      obtain rfl := Option.some.inj (pool.symm.trans ok.pool)
      exact instantSell_logs _ balance ok
    | updateFloor a floor =>
      obtain ⟨c', p', -, hp, rfl⟩ := updateFloor_ok h
      refine .silent rfl ?_
      simp only [Chain.index, hp, Option.elim]
    | setInstantSell a enabled =>
      obtain ⟨c', p', -, hp, -, rfl⟩ := setInstantSell_ok h
      refine .silent rfl ?_
      simp only [Chain.index, hp, Option.elim]
    | withdrawTreasury a amount =>
      obtain ⟨c', -, -, -, rfl⟩ := withdrawTreasury_ok h
      exact .silent rfl rfl
    | setPause a flags =>
      obtain ⟨c', admin, rfl⟩ := setPause_ok h
      refine .silent rfl ?_
      simp only [Chain.index, admin.config, Option.elim]

end Step

/-! ## A run -/

/-- A reachable state whose config has the given tariff. -/
structure Tariffed (r : Tariff) (s : Chain) : Prop where
  reachable : Reachable s
  config : ∃ c, s.config = some c ∧ c.tariff = r

theorem Config.tariff_of_rates {c c' : Config} (h : c'.rates = c.rates) : c'.tariff = c.tariff :=
  Config.of_rates Config.tariff (fun _ => rfl) h

/-- No step changes the rates. -/
theorem Tariffed.step {r : Tariff} {s s' : Chain} {act : Action} (h : Tariffed r s)
    (stepped : step s act = .ok s') : Tariffed r s' := by
  obtain ⟨c, config, rates⟩ := h.config
  obtain ⟨c', config', same⟩ := step_config stepped config
  refine ⟨?_, c', config', (Config.tariff_of_rates same).trans rates⟩
  have reached := h.reachable.run [act]
  rwa [run_cons, exec_ok stepped] at reached

theorem InitializedWith.tariffed {s : Chain} {a : Initialize} {b p m : UInt16} {l : UInt64}
    (h : InitializedWith s a b p m l) : Tariffed ⟨m.toNat, l.toNat⟩ s := by
  obtain ⟨c, q, live, -, -, market, listing, -⟩ := h.live
  refine ⟨Initialized.reachable ⟨a, b, p, m, l, h⟩, c, live.config, ?_⟩
  rw [Config.tariff, market, listing]

/-- The index of a chain that was just initialized is empty. -/
theorem InitializedWith.index {s : Chain} {a : Initialize} {b p m : UInt16} {l : UInt64}
    (h : InitializedWith s a b p m l) : s.index = .empty := by
  obtain ⟨g, tx, genesis, stepped⟩ := h.genesis
  rw [(initializeHandler_ok stepped).after]
  simp only [Chain.index, Index.empty, Option.elim, Index.mk.injEq, and_true]
  refine ⟨funext fun k => ?_, funext fun k => ?_, funext fun k => ?_⟩
  · rw [genesis.players k]
    rfl
  · rw [genesis.cards k]
    rfl
  · cases k with
    | listing k => simp only [offerAt, genesis.listings k, Option.map_none]
    | _ => rfl

/-- The events since `initialize`, and what an indexer makes of them. -/
theorem run_logs {s₀ : Chain} {a : Initialize} {b p m : UInt16} {l : UInt64}
    (init : InitializedWith s₀ a b p m l) (as : List Action) :
    ∃ es, (run step s₀ as).events = es ++ s₀.events ∧
      Plays (indexer ⟨m.toNat, l.toNat⟩) .empty es (run step s₀ as).index := by
  have advances : ∀ s act s', Tariffed ⟨m.toNat, l.toNat⟩ s → step s act = .ok s' →
      Logs ⟨m.toNat, l.toNat⟩ s s' := by
    intro s act s' h stepped
    obtain ⟨c, config, rates⟩ := h.config
    obtain ⟨c', p', live⟩ := h.reachable.live
    rw [← rates]
    exact step_advances stepped config live.pool (h.reachable.balance live.pool)
  rw [← init.index]
  exact run_plays init.tariffed (fun s act s' h stepped => h.step stepped) advances as

/-- **The log tells the index.** After any run the events since `initialize` came each when it was
expected, and an indexer that read them all has what stands in the accounts. -/
theorem log_tells_index (s₀ : Chain) (a : Initialize) (b p m : UInt16) (l : UInt64)
    (init : InitializedWith s₀ a b p m l) (as : List Action) :
    ∃ es, (run step s₀ as).events = es ++ s₀.events ∧
      (∀ later e past, es = later ++ e :: past →
        Event.Expected ⟨m.toNat, l.toNat⟩ (replay (indexer ⟨m.toNat, l.toNat⟩) .empty past) e) ∧
      replay (indexer ⟨m.toNat, l.toNat⟩) .empty es = (run step s₀ as).index := by
  obtain ⟨es, written, plays⟩ := run_logs init as
  refine ⟨es, written, ?_, plays.replay.symm⟩
  rintro later e past rfl
  exact plays.at_

/-- List a unit of mint 8 for user 6 and sell it to user 7. -/
def listAndSell : List Action :=
  openCard 8 12 6 1 ++ [listOnStandard 8 12 6 1000000, buyOnStandard 8 7 6 (.key 3)]

theorem standard_initializedWith : InitializedWith .standard
    { authority := .key 1, config := .config, buybackPool := .buybackPool, pageMint := .key 2,
      treasury := .key 3, buybackVault := .key 4 } 7000 3000 500 10000000 :=
  Chain.initializedWith_opened (by decide) (by decide) (by decide)

/-- A unit listed and sold: two events, and the listing fee with three percent of the price in the pool. -/
theorem log_tells_index_listAndSell :
    ∃ es, (run step .standard listAndSell).events = es ++ Chain.standard.events ∧ es.length = 2 ∧
      (replay (indexer ⟨500, 10000000⟩) .empty es).lifetimeIn = 10030000 := by
  obtain ⟨es, written, -, index⟩ := log_tells_index .standard _ 7000 3000 500 10000000
    standard_initializedWith listAndSell
  have logged : (run step .standard listAndSell).events.length = 2 := by decide +kernel
  have counted : (run step .standard listAndSell).index.lifetimeIn = 10030000 := by decide +kernel
  refine ⟨es, written, ?_, ?_⟩
  · have quiet : Chain.standard.events.length = 0 := by decide +kernel
    rw [written, List.length_append, quiet] at logged
    exact logged
  · rw [← counted, ← index]
    rfl

/-! ## The marketplace in the log -/

namespace Event

/-- Whether the event puts the listing at this address on offer. -/
def opens (k : Pubkey) : Event → Bool
  | cardListed l _ => l = k
  | _ => false

/-- Whether it takes the listing at this address off. -/
def closes (k : Pubkey) : Event → Bool
  | listingCancelled l => l = k
  | cardSold l _ _ _ => l = k
  | _ => false

/-- Other events leave the offer at an address. -/
theorem offers_apply_of_not {r : Tariff} {v : Index} {e : Event} {k : Pubkey}
    (h : ¬(e.opens k || e.closes k) = true) : (e.apply r v).offers k = v.offers k := by
  cases e with
  | cardListed l price =>
    have ne : k ≠ l := by rintro rfl; simp [opens] at h
    exact Function.update_of_ne ne _ _
  | listingCancelled l =>
    have ne : k ≠ l := by rintro rfl; simp [closes] at h
    exact Function.update_of_ne ne _ _
  | cardSold l buyer price fee =>
    have ne : k ≠ l := by rintro rfl; simp [closes] at h
    exact Function.update_of_ne ne _ _
  | _ => rfl

/-- An offer is opened where there is none and closed where there is one. -/
theorem offers_apply {r : Tariff} {v : Index} {e : Event} (k : Pubkey) (h : e.Expected r v) :
    ((e.apply r v).offers k).isSome.toNat + (e.closes k).toNat =
      (v.offers k).isSome.toNat + (e.opens k).toNat := by
  by_cases touched : (e.opens k || e.closes k) = true
  · cases e with
    | cardListed l price =>
      obtain rfl : l = k := by simpa [opens, closes] using touched
      simp [apply, opens, closes, h.1]
    | listingCancelled l =>
      obtain rfl : l = k := by simpa [opens, closes] using touched
      have open_ : (v.offers l).isSome = true := h
      simp [apply, opens, closes, open_]
    | cardSold l buyer price fee =>
      obtain rfl : l = k := by simpa [opens, closes] using touched
      simp [apply, opens, closes, h.1]
    | _ => simp [opens, closes] at touched
  · rw [offers_apply_of_not touched]
    simp only [Bool.or_eq_true, not_or, Bool.not_eq_true] at touched
    rw [touched.1, touched.2]

end Event

/-- An offer in the index goes back to its listing, and nothing has touched it since. -/
theorem Plays.listed {r : Tariff} {es : List Event} {v : Index} {k : Pubkey} {price : ℕ}
    (h : Plays (indexer r) .empty es v) (offer : v.offers k = some price) :
    ∃ later past, es = later ++ .cardListed k price :: past ∧
      ∀ x ∈ later, ¬(x.opens k || x.closes k) = true := by
  have changed : v.offers k ≠ Index.empty.offers k := by
    rw [offer]
    exact Option.some_ne_none price
  obtain ⟨later, e, past, split, clean, touched, value⟩ :=
    h.last_write (fun v => v.offers k) (fun _ _ h => Event.offers_apply_of_not h) changed
  simp only [offer] at value
  -- the last writer left an offer, so it is the listing
  cases e with
  | cardListed l asked =>
    obtain rfl : l = k := by simpa [Event.opens, Event.closes] using touched
    simp only [indexer, Event.apply, Function.update_self, Option.some.injEq] at value
    exact ⟨later, past, by rw [split, value], clean⟩
  | listingCancelled l =>
    obtain rfl : l = k := by simpa [Event.opens, Event.closes] using touched
    simp [indexer, Event.apply] at value
  | cardSold l buyer asked fee =>
    obtain rfl : l = k := by simpa [Event.opens, Event.closes] using touched
    simp [indexer, Event.apply] at value
  | _ => simp [Event.opens, Event.closes] at touched

/-- **The books of the marketplace, read off the log.** Of the listings of a card those not yet
cancelled or sold are the one on offer, if there is one; and each sale was at the price of the last
listing before it, with the fee of the config and nothing in between. -/
theorem market_books (s₀ : Chain) (a : Initialize) (b p m : UInt16) (l : UInt64)
    (init : InitializedWith s₀ a b p m l) (as : List Action) (card : Pubkey) :
    ∃ es, (run step s₀ as).events = es ++ s₀.events ∧
      ((run step s₀ as).listings.get card).isSome.toNat + es.countP (Event.closes (.listing card)) =
        es.countP (Event.opens (.listing card)) ∧
      ∀ later buyer price fee past, es = later ++ .cardSold (.listing card) buyer price fee :: past →
        fee = bps price m.toNat ∧
        ∃ between older, past = between ++ .cardListed (.listing card) price :: older ∧
          ∀ x ∈ between, ¬(x.opens (.listing card) || x.closes (.listing card)) = true := by
  obtain ⟨es, written, plays⟩ := run_logs init as
  refine ⟨es, written, ?_, ?_⟩
  · have books := plays.countP (fun v => (v.offers (.listing card)).isSome)
      (Event.opens (.listing card)) (Event.closes (.listing card))
      (fun v e h => Event.offers_apply (.listing card) h)
    simpa [Chain.index, offerAt, Index.empty] using books
  · rintro later buyer price fee past rfl
    obtain ⟨v, played, expected⟩ := plays.before
    exact ⟨expected.2, Plays.listed played expected.1⟩

/-- The unit listed and sold: one listing, one closing, and none on offer. -/
theorem market_books_listAndSell :
    ∃ es, (run step .standard listAndSell).events = es ++ Chain.standard.events ∧
      es.countP (Event.closes (.listing (.key 8))) = es.countP (Event.opens (.listing (.key 8))) := by
  obtain ⟨es, written, books, -⟩ := market_books .standard _ 7000 3000 500 10000000
    standard_initializedWith listAndSell (.key 8)
  have sold : ((run step .standard listAndSell).listings.get (.key 8)).isSome = false := by
    decide +kernel
  rw [sold] at books
  exact ⟨es, written, by simpa using books⟩

end Pokeage
