import Pokeage.Infra.Mask
import Pokeage.Program.Properties.Records
import Pokeage.Program.Opening

/-!
# The life of a player

What a player has done is the list of its successful calls, and `Life` says which lists there are and
which record belongs to each. `step_touches` is what one step does to a record; `life_run` takes it along
a run.
-/

namespace Pokeage

open Infra Infra.Machine Infra.Mask

/-! ## Calls -/

/-- A call of one of the four sinks. -/
inductive PlayerCall where
  | deployAgent
  | catchAttempt
  | gymChallenge (badgeIndex : ℕ)
  | forceEvolve
  deriving DecidableEq, Repr

/-- The index of a gym challenge. -/
def PlayerCall.badge? : PlayerCall → Option ℕ
  | .gymChallenge i => some i
  | _ => none

/-- The indices of the gym challenges among some calls. -/
def challenged (calls : List PlayerCall) : List ℕ := calls.filterMap PlayerCall.badge?

theorem challenged_concat (calls : List PlayerCall) (call : PlayerCall) :
    challenged (calls ++ [call]) = challenged calls ++ call.badge?.toList := by
  unfold challenged
  rw [List.filterMap_append, List.filterMap_cons]
  cases call.badge? <;> rfl

theorem mem_challenged {calls : List PlayerCall} {i : ℕ} :
    i ∈ challenged calls ↔ .gymChallenge i ∈ calls := by
  unfold challenged
  rw [List.mem_filterMap]
  constructor
  · rintro ⟨call, made, index⟩
    cases call <;> cases index
    exact made
  · exact fun made => ⟨_, made, rfl⟩

/-- The call of this player that an action is. -/
def Action.callBy (k : Pubkey) : Action → Option PlayerCall
  | .program _ (.deployAgent a) => if a.player = k then some .deployAgent else none
  | .program _ (.catchAttempt a _) => if a.player = k then some .catchAttempt else none
  | .program _ (.gymChallenge a i) => if a.player = k then some (.gymChallenge i.toNat) else none
  | .program _ (.forceEvolve a) => if a.player = k then some .forceEvolve else none
  | _ => none

/-- The successful calls of a player in a run. -/
def callsBy (k : Pubkey) (t : List (Done Chain Action)) : List PlayerCall :=
  t.filterMap fun d => d.act.callBy k

/-! ## One step -/

/-- What a call does to the record of the player that makes it. -/
inductive Touches (k : Pubkey) : Option PlayerCall → Option PlayerState → Option PlayerState → Prop
  | idle {record : Option PlayerState} : Touches k none record record
  | deployAgent {record : Option PlayerState} {lastAction : ℤ} {bump : ℕ}
      (fresh : (record.getD .zeroed).agentDeployed = false) :
      Touches k (some .deployAgent) record (some { record.getD .zeroed with
        owner := k, agentDeployed := true, lastAction, bump })
  | catchAttempt {ps : PlayerState} {lastAction : ℤ} (deployed : ps.agentDeployed = true) :
      Touches k (some .catchAttempt) (some ps)
        (some { ps with totalCaught := ps.totalCaught + 1, lastAction })
  | gymChallenge {ps : PlayerState} {i : ℕ} {lastAction : ℤ} (deployed : ps.agentDeployed = true)
      (inRange : i < badgeCount) : Touches k (some (.gymChallenge i)) (some ps) (some { ps with
        badges := ps.badges ||| (1 <<< i), gymWins := ps.gymWins + 1, lastAction })
  | forceEvolve {ps : PlayerState} {lastAction : ℤ} (deployed : ps.agentDeployed = true) :
      Touches k (some .forceEvolve) (some ps) (some { ps with lastAction })

section Step

variable {s s' : Chain} {k : Pubkey}

/-- A sink writes the record of its own player and no other. -/
theorem SinkOk.touches {tx : Tx} {a : SinkContext} {cost : ℕ} {c : Config} {m : Mint}
    {f t : TokenAccount} {ps : PlayerState} {call : PlayerCall}
    (ok : SinkOk s tx a cost c m f t ps s')
    (own : Touches a.player (some call) (s.players.get a.player) (some ps)) :
    Touches k (if a.player = k then some call else none) (s.players.get k) (s'.players.get k) := by
  obtain ⟨ev, rfl⟩ := ok.after
  by_cases mine : a.player = k
  · subst mine
    rw [if_pos rfl, Store.get_set_self]
    exact own
  · rw [if_neg mine, Store.get_set_ne _ _ (Ne.symm mine)]
    exact .idle

/-- **What a step does to a player's record.** -/
theorem step_touches {a : Action} (h : step s a = .ok s') (k : Pubkey) :
    Touches k (a.callBy k) (s.players.get k) (s'.players.get k) := by
  have idle : a.callBy k = none → (∀ tx ix, a = .program tx ix → ix.charge = none) →
      Touches k (a.callBy k) (s.players.get k) (s'.players.get k) := by
    intro noCall other
    rcases step_players h with same | ⟨tx, ix, x, cost, c, m, f, t, ps, rfl, charge, ok⟩
    · rw [noCall, same]
      exact .idle
    · rw [other tx ix rfl] at charge
      cases charge
  cases a with
  | external tx e =>
    refine idle rfl ?_
    intro _ _ hix
    cases hix
  | program tx ix =>
    cases ix with
    | deployAgent a =>
      obtain ⟨c, m, f, t, ps, rfl, fresh, ok⟩ := deployAgentHandler_ok h
      exact ok.touches (.deployAgent fresh)
    | catchAttempt a rarity =>
      obtain ⟨cost, c, m, f, t, ps, -, known, deployed, -, -, ok⟩ := catchAttemptHandler_ok h
      refine ok.touches ?_
      rw [known]
      exact .catchAttempt deployed
    | gymChallenge a i =>
      obtain ⟨c, m, f, t, ps, known, deployed, inRange, -, ok⟩ := gymChallengeHandler_ok h
      refine ok.touches ?_
      rw [known]
      exact .gymChallenge deployed inRange
    | forceEvolve a =>
      obtain ⟨c, m, f, t, ps, known, deployed, ok⟩ := forceEvolveHandler_ok h
      refine ok.touches ?_
      rw [known]
      exact .forceEvolve deployed
    | _ =>
      refine idle rfl ?_
      rintro _ _ ⟨⟩
      rfl

end Step

/-! ## Lives -/

/-- What a deployed player has done since, and its record. -/
structure Since (rest : List PlayerCall) (ps : PlayerState) : Prop where
  once : .deployAgent ∉ rest
  agent : ps.agentDeployed = true
  caught : ps.totalCaught = rest.count .catchAttempt
  wins : ps.gymWins = (challenged rest).length
  badges : ps.badges = mask (challenged rest)
  inRange : ∀ i ∈ challenged rest, i < badgeCount

/-- The calls of a player, and its record after them. -/
inductive Life : List PlayerCall → Option PlayerState → Prop
  | unborn : Life [] none
  | deployed {rest : List PlayerCall} {ps : PlayerState} (since : Since rest ps) :
      Life (.deployAgent :: rest) (some ps)

variable {calls rest : List PlayerCall} {ps : PlayerState} {record record' : Option PlayerState}
  {k : Pubkey}

/-- A call that names no badge leaves the badges and their count. -/
theorem Since.call {call : PlayerCall} {totalCaught : ℕ} {lastAction : ℤ} (h : Since rest ps)
    (again : call ≠ .deployAgent) (plain : call.badge? = none)
    (caught : totalCaught = (rest ++ [call]).count .catchAttempt) :
    Since (rest ++ [call]) { ps with totalCaught, lastAction } := by
  have same : challenged (rest ++ [call]) = challenged rest := by
    rw [challenged_concat, plain]
    exact List.append_nil _
  refine ⟨?_, h.agent, caught, ?_, ?_, ?_⟩
  · rw [List.mem_append, List.mem_singleton, not_or]
    exact ⟨h.once, again.symm⟩
  · rw [same]
    exact h.wins
  · rw [same]
    exact h.badges
  · rw [same]
    exact h.inRange

/-- A gym win sets its badge and counts. -/
theorem Since.gymChallenge {i : ℕ} {lastAction : ℤ} (h : Since rest ps) (below : i < badgeCount) :
    Since (rest ++ [.gymChallenge i]) { ps with
      badges := ps.badges ||| (1 <<< i), gymWins := ps.gymWins + 1, lastAction } := by
  have more : challenged (rest ++ [.gymChallenge i]) = challenged rest ++ [i] :=
    challenged_concat rest (.gymChallenge i)
  refine ⟨by simpa using h.once, h.agent, ?_, ?_, ?_, ?_⟩
  · simpa using h.caught
  · rw [more, List.length_append, ← h.wins]
    rfl
  · rw [more, mask_concat, ← h.badges]
  · rw [more]
    intro j hj
    rcases List.mem_append.1 hj with hj | hj
    · exact h.inRange j hj
    · obtain rfl := List.mem_singleton.1 hj
      exact below

/-- A step extends the life of a player by the call it is. -/
theorem Life.step (life : Life calls record) {call : Option PlayerCall}
    (touches : Touches k call record record') : Life (calls ++ call.toList) record' := by
  cases touches with
  | idle => simpa using life
  | deployAgent fresh =>
    cases life with
    | unborn => exact .deployed ⟨List.not_mem_nil, rfl, rfl, rfl, rfl, fun _ h => nomatch h⟩
    | deployed since =>
      rw [Option.getD_some, since.agent] at fresh
      cases fresh
  | catchAttempt deployed =>
    cases life with
    | deployed since => exact .deployed (since.call (by simp) rfl (by simp [since.caught]))
  | gymChallenge deployed below =>
    cases life with
    | deployed since => exact .deployed (since.gymChallenge below)
  | forceEvolve deployed =>
    cases life with
    | deployed since => exact .deployed (since.call (by simp) rfl (by simp [since.caught]))

/-- **Every run** writes a life for every player. -/
theorem life_run {s₀ : Chain} (init : Initialized s₀) (k : Pubkey) (as : List Action) :
    Life (callsBy k (trace step s₀ as)) ((run step s₀ as).players.get k) := by
  refine trace_induction step (P := fun t s => Life (callsBy k t) (s.players.get k)) ?_ ?_ as
  · rw [(init.empty k).1]
    exact .unborn
  · intro t s a s' life h
    have more : callsBy k (t ++ [⟨s, a, s'⟩]) = callsBy k t ++ (a.callBy k).toList := by
      unfold callsBy
      rw [List.filterMap_append, List.filterMap_cons]
      cases a.callBy k <;> rfl
    rw [more]
    exact life.step (step_touches h k)

/-! ## What a life says -/

/-- A badge is owned exactly if it was won. -/
theorem Since.hasBadge (h : Since rest ps) (i : ℕ) :
    ps.hasBadge i = true ↔ .gymChallenge i ∈ rest := by
  unfold PlayerState.hasBadge
  rw [← mem_challenged]
  by_cases outside : badgeCount ≤ i
  · rw [if_pos outside]
    refine iff_of_false Bool.false_ne_true fun made => ?_
    have := h.inRange i made
    omega
  · rw [if_neg outside, bne_iff_ne, and_bit_ne_zero, h.badges, testBit_mask]

/-- The badges of a record, as an index set. No record has none. -/
theorem Life.testBit (life : Life calls record) (i : ℕ) :
    (record.getD .zeroed).badges.testBit i = true ↔ .gymChallenge i ∈ calls := by
  cases life with
  | unborn => simp [PlayerState.zeroed]
  | deployed since =>
    rw [Option.getD_some, since.badges, testBit_mask, mem_challenged]
    simp

/-- An agent is deployed at most once. -/
theorem Life.once (life : Life calls record) : calls.count .deployAgent ≤ 1 := by
  cases life with
  | unborn => simp
  | deployed since => simp [List.count_eq_zero.2 since.once]

/-- Nothing else is called before. -/
theorem Life.first (life : Life calls record) {past later : List PlayerCall} {call : PlayerCall}
    (split : calls = past ++ call :: later) (other : call ≠ .deployAgent) : .deployAgent ∈ past := by
  cases life with
  | unborn => simp at split
  | deployed since =>
    cases past with
    | nil => exact absurd (List.cons.inj split).1.symm other
    | cons first past =>
      rw [← (List.cons.inj split).1]
      exact List.mem_cons_self

/-- Until then there is no record. -/
theorem Life.before (life : Life calls record) (never : .deployAgent ∉ calls) : record = none := by
  cases life with
  | unborn => rfl
  | deployed since => exact absurd List.mem_cons_self never

/-- From then on the record shows what was called since. -/
theorem Life.after (life : Life calls record) (born : .deployAgent ∈ calls) :
    ∃ ps, record = some ps ∧ ps.agentDeployed = true ∧ ps.badges < 2 ^ 12 ∧
      ps.gymWins = (challenged calls).length ∧ ps.badges.bitIndices.length ≤ ps.gymWins ∧
      (∀ i, ps.hasBadge i = true ↔ .gymChallenge i ∈ calls) ∧
      ps.totalCaught = calls.count .catchAttempt := by
  cases life with
  | unborn => cases born
  | @deployed rest ps since =>
    refine ⟨ps, rfl, since.agent, ?_, since.wins, ?_, ?_, ?_⟩
    · rw [since.badges]
      exact mask_lt since.inRange
    · rw [since.badges, since.wins]
      exact length_bitIndices_mask _
    · intro i
      rw [since.hasBadge]
      simp
    · simp [since.caught]

/-- **The life of a player.** It deploys at most once and before everything else; until then it has no
record, and from then on its record counts its calls. -/
theorem player_lifecycle {s₀ : Chain} (init : Initialized s₀) (k : Pubkey) (as : List Action) :
    let calls := callsBy k (trace step s₀ as)
    let record := (run step s₀ as).players.get k
    calls.count .deployAgent ≤ 1 ∧
    (∀ past call later, calls = past ++ call :: later → call ≠ .deployAgent →
      .deployAgent ∈ past) ∧
    (.deployAgent ∉ calls → record = none) ∧
    (.deployAgent ∈ calls → ∃ ps, record = some ps ∧ ps.agentDeployed = true ∧ ps.badges < 2 ^ 12 ∧
      ps.gymWins = (challenged calls).length ∧ ps.badges.bitIndices.length ≤ ps.gymWins ∧
      (∀ i, ps.hasBadge i = true ↔ .gymChallenge i ∈ calls) ∧
      ps.totalCaught = calls.count .catchAttempt) ∧
    -- no bit is lost later
    ∀ (bs : List Action) (i : ℕ), (record.getD .zeroed).badges.testBit i = true →
      (((run step s₀ (as ++ bs)).players.get k).getD .zeroed).badges.testBit i = true := by
  have life := life_run init k as
  refine ⟨life.once, fun _ _ _ => life.first, life.before, life.after, ?_⟩
  intro bs i set
  rw [life.testBit] at set
  rw [(life_run init k (as ++ bs)).testBit, trace_append]
  unfold callsBy at set ⊢
  rw [List.filterMap_append]
  exact List.mem_append_left _ set

/-- User 6 deploys, and takes badge 3 twice. -/
def careerOnStandard : List Action :=
  let gym : Action := .program (.by [6] 0) (.gymChallenge
    { player := .key 6, playerState := .player (.key 6), config := .config, pageMint := .key 2,
      playerToken := .key 9, poolToken := .key 10 } 3)
  fundSink ++ [gym, deployOnStandard (.key 10), gym, gym, deployOnStandard (.key 10)]

theorem player_lifecycle_standard :
    ∃ ps, (run step Chain.standard careerOnStandard).players.get (.key 6) = some ps ∧
      ps.gymWins = 2 ∧ ps.hasBadge 3 = true ∧ ps.hasBadge 4 = false := by
  have calls : callsBy (.key 6) (trace step Chain.standard careerOnStandard) =
      [.deployAgent, .gymChallenge 3, .gymChallenge 3] := by decide +kernel
  have life := (player_lifecycle Chain.initialized_standard (.key 6) careerOnStandard).2.2.2.1
  rw [calls] at life
  obtain ⟨ps, record, -, -, wins, -, badges, -⟩ := life (by decide)
  refine ⟨ps, record, wins, (badges 3).2 (by decide), ?_⟩
  rw [Bool.eq_false_iff]
  exact fun set => absurd ((badges 4).1 set) (by decide)

end Pokeage
