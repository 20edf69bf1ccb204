import Pokeage.Game.Monster
import Pokeage.Game.Rng

/-!
# Damage and automatic fights

`typechart.ts`, the light formula of `damage.ts`, and the two loops of `battle.ts` that the engine
runs: `simulateAuto` against a wild monster and `simulateGym` against a leader's team.

A hit takes at least one point, so a fight to the end ends: its measure is the hit points left.
-/

namespace Pokeage.Game

/-! ## Type chart -/

/-- The defenders an attack type is strong and weak against. -/
structure TypeRow where
  strong : List MonsterType
  weak : List MonsterType

/-- `TYPE_EFFECTIVENESS`. -/
def typeEffectiveness : MonsterType → TypeRow
  | .fire => ⟨[.grass, .bug, .ice, .steel], [.water, .rock, .ground, .fire, .dragon]⟩
  | .water => ⟨[.fire, .rock, .ground], [.water, .grass, .electric, .dragon]⟩
  | .grass =>
    ⟨[.water, .rock, .ground], [.fire, .grass, .flying, .bug, .poison, .dragon, .steel]⟩
  | .electric => ⟨[.water, .flying], [.electric, .grass, .ground, .dragon]⟩
  | .ice => ⟨[.grass, .ground, .flying, .dragon], [.fire, .water, .ice, .steel]⟩
  | .dragon => ⟨[.dragon], [.steel]⟩
  | .fighting => ⟨[.normal, .rock, .steel, .ice, .dark], [.flying, .psychic, .bug, .ghost, .poison]⟩
  | .poison => ⟨[.grass], [.poison, .ground, .rock, .ghost, .steel]⟩
  | .ground => ⟨[.fire, .electric, .poison, .rock, .steel], [.grass, .flying, .bug]⟩
  | .flying => ⟨[.grass, .fighting, .bug], [.electric, .rock, .steel]⟩
  | .psychic => ⟨[.fighting, .poison], [.psychic, .steel, .dark]⟩
  | .bug => ⟨[.grass, .psychic, .dark], [.fire, .fighting, .flying, .ghost, .poison, .steel]⟩
  | .rock => ⟨[.fire, .ice, .flying, .bug], [.fighting, .ground, .steel, .water, .grass]⟩
  | .ghost => ⟨[.psychic, .ghost], [.dark, .normal]⟩
  | .dark => ⟨[.psychic, .ghost], [.fighting, .dark, .bug]⟩
  | .steel => ⟨[.ice, .rock], [.fire, .water, .electric, .steel]⟩
  | .normal => ⟨[], [.rock, .steel, .ghost]⟩

/-- The defenders an attack of this type does nothing to. -/
def typeImmune : MonsterType → List MonsterType
  | .normal => [.ghost]
  | .fighting => [.ghost]
  | .poison => [.steel]
  | .ground => [.flying]
  | .electric => [.ground]
  | .psychic => [.dark]
  | .ghost => [.normal]
  | _ => []

/-- Effectiveness of an attack type against a defender: none, half, plain or double. -/
def getTypeMultiplier (atkType defType : MonsterType) : ℚ :=
  if defType ∈ typeImmune atkType then 0
  else
    let row := typeEffectiveness atkType
    if defType ∈ row.strong then 2
    else if defType ∈ row.weak then 1 / 2
    else 1

variable (fl : Floats)

/-! ## One hit -/

/-- Attack minus half the defence, scaled by type, luck and level. -/
def calcDamageSimple (attacker defender : MonsterInstance) (r : Rng) : ℤ × Rng :=
  let baseDmg := max 1 (attacker.stats.atk - ⌊fl (defender.stats.defense * fl 0.5)⌋)
  let typeBonus := getTypeMultiplier attacker.type defender.type
  let variance := r.float fl (fl 0.85) (fl 1.15)
  let levelMod := fl (1 + fl ((attacker.level - 1 : ℤ) * fl 0.02))
  (max 1 ⌊fl (fl (fl (baseDmg * typeBonus) * variance.1) * levelMod)⌋, variance.2)

/-- Even a type that should do nothing takes a point. -/
theorem one_le_calcDamageSimple (attacker defender : MonsterInstance) (r : Rng) :
    1 ≤ (calcDamageSimple fl attacker defender r).1 := le_max_left _ _

/-! ## Rounds -/

/-- Where a fight stands. -/
structure Standing where
  myHP : ℤ
  foeHP : ℤ
  rng : Rng

/-- Both are on their feet. -/
def Standing.Open (s : Standing) : Prop := 0 < s.myHP ∧ 0 < s.foeHP

instance (s : Standing) : Decidable s.Open := inferInstanceAs (Decidable (_ ∧ _))

/-- The body of both fight loops: the faster one strikes, and the other strikes back if it can. -/
def exchange (my foe : MonsterInstance) (s : Standing) : Standing :=
  if foe.stats.spd ≤ my.stats.spd then
    let hit := calcDamageSimple fl my foe s.rng
    let foeHP := s.foeHP - hit.1
    if foeHP ≤ 0 then ⟨s.myHP, foeHP, hit.2⟩
    else
      let back := calcDamageSimple fl foe my hit.2
      ⟨s.myHP - back.1, foeHP, back.2⟩
  else
    let hit := calcDamageSimple fl foe my s.rng
    let myHP := s.myHP - hit.1
    if myHP ≤ 0 then ⟨myHP, s.foeHP, hit.2⟩
    else
      let back := calcDamageSimple fl my foe hit.2
      ⟨myHP, s.foeHP - back.1, back.2⟩

/-- A round costs somebody at least a point and gives nobody any. -/
theorem exchange_lt (my foe : MonsterInstance) (s : Standing) (h : s.Open) :
    (exchange fl my foe s).myHP.toNat + (exchange fl my foe s).foeHP.toNat
      < s.myHP.toNat + s.foeHP.toNat := by
  obtain ⟨hmy, hfoe⟩ := h
  have mine := one_le_calcDamageSimple fl my foe s.rng
  have theirs := one_le_calcDamageSimple fl foe my s.rng
  have mineBack := one_le_calcDamageSimple fl my foe (calcDamageSimple fl foe my s.rng).2
  have theirsBack := one_le_calcDamageSimple fl foe my (calcDamageSimple fl my foe s.rng).2
  unfold exchange
  dsimp only
  split
  · split <;> (dsimp only; omega)
  · split <;> (dsimp only; omega)

/-! ## A fight against a wild monster -/

/-- The outcome of a fight against a wild monster. -/
structure AutoResult where
  won : Bool
  hpRemaining : ℤ
  turnsUsed : ℕ
  deriving DecidableEq, Repr

/-- Turns after which such a fight ends. -/
def autoTurnCap : ℕ := 20

/-- `while (partyHP > 0 && wildHP > 0 && turns < 20)`. -/
def autoLoop (party wild : MonsterInstance) (turns : ℕ) (s : Standing) : ℕ × Standing :=
  if s.Open ∧ turns < autoTurnCap then
    autoLoop party wild (turns + 1) (exchange fl party wild s)
  else (turns, s)
termination_by autoTurnCap - turns

/-- The lead against a wild monster. It is won if the wild one is down. -/
def simulateAuto (party wild : MonsterInstance) (r : Rng) : AutoResult × Rng :=
  let fight := autoLoop fl party wild 0 ⟨party.currentHP, wild.currentHP, r⟩
  ({ won := fight.2.foeHP ≤ 0
     hpRemaining := max 0 fight.2.myHP
     turnsUsed := fight.1 }, fight.2.rng)

/-! ## A gym -/

/-- `while (myHP > 0 && gymHP > 0)`: no turn limit. -/
def bout (my foe : MonsterInstance) (s : Standing) : Standing :=
  if s.Open then bout my foe (exchange fl my foe s) else s
termination_by s.myHP.toNat + s.foeHP.toNat
decreasing_by exact exchange_lt fl my foe s ‹_›

/-- **A bout ends with somebody down.** -/
theorem not_open_bout (my foe : MonsterInstance) (s : Standing) : ¬ (bout fl my foe s).Open := by
  fun_induction bout fl my foe s with
  | case1 s _ ih => exact ih
  | case2 s h => exact h

/-- One of the leader's monsters knocked out, and by whom. -/
structure GymKo where
  myMon : String
  gymMon : String
  gymLv : ℤ
  deriving DecidableEq, Repr

/-- The outcome of a gym challenge. -/
structure GymResult where
  won : Bool
  gymDefeated : ℕ
  partyFainted : ℕ
  results : List GymKo
  deriving DecidableEq, Repr

/-- The variables of the loop of `simulateGym`. -/
structure GymFight where
  partyIdx : ℕ
  gymIdx : ℕ
  partyHP : List ℤ
  results : List GymKo
  rng : Rng

/-- Bring one monster against one of the leader's. -/
def gymRound (myMon : MonsterInstance) (tpl : MonsterTemplate) (entry : GymEntry)
    (g : GymFight) : GymFight :=
  let gymMon := makeCombatant fl tpl entry.level
  let s := bout fl myMon gymMon ⟨g.partyHP.getD g.partyIdx 0, gymMon.stats.hp, g.rng⟩
  { partyIdx := if s.myHP ≤ 0 then g.partyIdx + 1 else g.partyIdx
    gymIdx := if s.foeHP ≤ 0 then g.gymIdx + 1 else g.gymIdx
    partyHP := g.partyHP.set g.partyIdx (max 0 s.myHP)
    results :=
      if s.foeHP ≤ 0 then g.results ++ [⟨myMon.name, tpl.name, entry.level⟩] else g.results
    rng := s.rng }

/-- Somebody falls in a round, and nobody stands up. -/
theorem gymRound_progress (myMon : MonsterInstance) (tpl : MonsterTemplate) (entry : GymEntry)
    (g : GymFight) :
    g.partyIdx ≤ (gymRound fl myMon tpl entry g).partyIdx ∧
      g.gymIdx ≤ (gymRound fl myMon tpl entry g).gymIdx ∧
      (g.partyIdx < (gymRound fl myMon tpl entry g).partyIdx ∨
        g.gymIdx < (gymRound fl myMon tpl entry g).gymIdx) := by
  have down := not_open_bout fl myMon (makeCombatant fl tpl entry.level)
    ⟨g.partyHP.getD g.partyIdx 0, (makeCombatant fl tpl entry.level).stats.hp, g.rng⟩
  unfold Standing.Open at down
  unfold gymRound
  dsimp only
  refine ⟨?_, ?_, ?_⟩
  · split <;> omega
  · split <;> omega
  · split <;> split <;> omega

/-- `while (partyIdx < party.length && gymIdx < gymTeam.length)`. An entry of an unknown species is
passed over. -/
def gymLoop (party : List MonsterInstance) (gymTeam : List GymEntry)
    (getTemplate : TemplateResolver) (g : GymFight) : GymFight :=
  if h : g.partyIdx < party.length ∧ g.gymIdx < gymTeam.length then
    let entry := gymTeam.get ⟨g.gymIdx, h.2⟩
    match getTemplate entry.monsterId with
    | none => gymLoop party gymTeam getTemplate { g with gymIdx := g.gymIdx + 1 }
    | some tpl =>
      gymLoop party gymTeam getTemplate (gymRound fl (party.get ⟨g.partyIdx, h.1⟩) tpl entry g)
  else g
termination_by (party.length - g.partyIdx) + (gymTeam.length - g.gymIdx)
decreasing_by
  · omega
  · have progress := gymRound_progress fl (party.get ⟨g.partyIdx, h.1⟩) tpl
      (gymTeam.get ⟨g.gymIdx, h.2⟩) g
    omega

/-- Party against a leader's team, one knock-out after the other. Also returns the party with the
hit points it is left with. -/
def simulateGym (party : List MonsterInstance) (gymTeam : List GymEntry)
    (getTemplate : TemplateResolver) (r : Rng) : GymResult × List MonsterInstance × Rng :=
  let g := gymLoop fl party gymTeam getTemplate ⟨0, 0, party.map (·.currentHP), [], r⟩
  ({ won := gymTeam.length ≤ g.gymIdx
     gymDefeated := g.gymIdx
     partyFainted := g.partyIdx
     results := g.results },
    List.zipWith (fun m hp => { m with currentHP := max 0 hp }) party g.partyHP,
    g.rng)

/-! ### A lost gym leaves nobody standing -/

/-- Whoever the fight has left behind is down. -/
def GymFight.FallenDown (g : GymFight) : Prop :=
  ∀ i < g.partyIdx, g.partyHP[i]? = some 0

theorem gymRound_fallenDown (myMon : MonsterInstance) (tpl : MonsterTemplate) (entry : GymEntry)
    (g : GymFight) (hg : g.FallenDown) (hlt : g.partyIdx < g.partyHP.length) :
    (gymRound fl myMon tpl entry g).FallenDown := by
  intro i hi
  unfold gymRound at hi ⊢
  dsimp only at hi ⊢
  rw [List.getElem?_set]
  by_cases hcur : g.partyIdx = i
  · -- the one that fought: its index was passed, so it fell
    split at hi
    · next hdown => rw [if_pos hcur, if_pos (hcur ▸ hlt), max_eq_left hdown]
    · omega
  · rw [if_neg hcur]
    refine hg i ?_
    split at hi <;> omega

/-- The loop keeps the fallen down and ends with one side through. -/
theorem gymLoop_spec (party : List MonsterInstance) (gymTeam : List GymEntry)
    (getTemplate : TemplateResolver) (g : GymFight) (hg : g.FallenDown)
    (hlen : g.partyHP.length = party.length) :
    (gymLoop fl party gymTeam getTemplate g).FallenDown ∧
      (gymLoop fl party gymTeam getTemplate g).partyHP.length = party.length ∧
      (party.length ≤ (gymLoop fl party gymTeam getTemplate g).partyIdx ∨
        gymTeam.length ≤ (gymLoop fl party gymTeam getTemplate g).gymIdx) := by
  fun_induction gymLoop fl party gymTeam getTemplate g with
  | case1 g h entry _ ih => exact ih hg hlen
  | case2 g h entry tpl _ ih =>
    refine ih (gymRound_fallenDown fl _ _ _ g hg (hlen ▸ h.1)) ?_
    unfold gymRound
    rw [List.length_set, hlen]
  | case3 g h =>
    refine ⟨hg, hlen, ?_⟩
    omega

/-- **Losing a gym costs the whole party.** -/
theorem simulateGym_lost (party : List MonsterInstance) (gymTeam : List GymEntry)
    (getTemplate : TemplateResolver) (r : Rng)
    (lost : (simulateGym fl party gymTeam getTemplate r).1.won = false) :
    ∀ m ∈ (simulateGym fl party gymTeam getTemplate r).2.1, m.currentHP = 0 := by
  have spec := gymLoop_spec fl party gymTeam getTemplate ⟨0, 0, party.map (·.currentHP), [], r⟩
    (fun i hi => absurd hi (Nat.not_lt_zero i)) (List.length_map _)
  unfold simulateGym at lost ⊢
  dsimp only at lost ⊢
  generalize gymLoop fl party gymTeam getTemplate ⟨0, 0, party.map (·.currentHP), [], r⟩ = g
    at spec lost ⊢
  obtain ⟨down, hlen, hend⟩ := spec
  have hall : party.length ≤ g.partyIdx := by
    rcases hend with hparty | hgym
    · exact hparty
    · simp only [decide_eq_false_iff_not] at lost
      exact absurd hgym lost
  intro m hm
  obtain ⟨i, hi, rfl⟩ := List.mem_iff_getElem.1 hm
  rw [List.length_zipWith] at hi
  have hzero := down i (by omega)
  rw [List.getElem?_eq_getElem (by omega)] at hzero
  rw [List.getElem_zipWith, Option.some.inj hzero]
  rfl

/-- The party comes back as many as it went. -/
theorem simulateGym_length (party : List MonsterInstance) (gymTeam : List GymEntry)
    (getTemplate : TemplateResolver) (r : Rng) :
    (simulateGym fl party gymTeam getTemplate r).2.1.length = party.length := by
  have spec := gymLoop_spec fl party gymTeam getTemplate ⟨0, 0, party.map (·.currentHP), [], r⟩
    (fun i hi => absurd hi (Nat.not_lt_zero i)) (List.length_map _)
  unfold simulateGym
  rw [List.length_zipWith, spec.2.1, Nat.min_self]

/-! ### Nobody gains hit points -/

theorem exchange_myHP_le (my foe : MonsterInstance) (s : Standing) :
    (exchange fl my foe s).myHP ≤ s.myHP := by
  have theirs := one_le_calcDamageSimple fl foe my s.rng
  have theirsBack := one_le_calcDamageSimple fl foe my (calcDamageSimple fl my foe s.rng).2
  unfold exchange
  dsimp only
  split
  · split <;> (dsimp only; omega)
  · split <;> (dsimp only; omega)

theorem autoLoop_myHP_le (party wild : MonsterInstance) (turns : ℕ) (s : Standing) :
    (autoLoop fl party wild turns s).2.myHP ≤ s.myHP := by
  fun_induction autoLoop fl party wild turns s with
  | case1 turns s _ ih => exact le_trans ih (exchange_myHP_le fl party wild s)
  | case2 turns s _ => exact le_rfl

theorem bout_myHP_le (my foe : MonsterInstance) (s : Standing) :
    (bout fl my foe s).myHP ≤ s.myHP := by
  fun_induction bout fl my foe s with
  | case1 s _ ih => exact le_trans ih (exchange_myHP_le fl my foe s)
  | case2 s _ => exact le_rfl

/-- A fight heals nobody. -/
theorem simulateAuto_hpRemaining (party wild : MonsterInstance) (r : Rng) :
    0 ≤ (simulateAuto fl party wild r).1.hpRemaining ∧
      (simulateAuto fl party wild r).1.hpRemaining ≤ max 0 party.currentHP := by
  have fight := autoLoop_myHP_le fl party wild 0 ⟨party.currentHP, wild.currentHP, r⟩
  exact ⟨le_max_left _ _, max_le_max le_rfl fight⟩

/-- Nobody in the party has more hit points than it came with. -/
def GymFight.Worn (party : List MonsterInstance) (g : GymFight) : Prop :=
  ∀ (i : ℕ) (m : MonsterInstance) (hp : ℤ),
    party[i]? = some m → g.partyHP[i]? = some hp → hp ≤ max 0 m.currentHP

theorem gymRound_worn {party : List MonsterInstance} {myMon : MonsterInstance}
    {tpl : MonsterTemplate} {entry : GymEntry} {g : GymFight} (hg : g.Worn party) :
    (gymRound fl myMon tpl entry g).Worn party := by
  intro i m hp hm hhp
  have fight := bout_myHP_le fl myMon (makeCombatant fl tpl entry.level)
    ⟨g.partyHP.getD g.partyIdx 0, (makeCombatant fl tpl entry.level).stats.hp, g.rng⟩
  unfold gymRound at hhp
  dsimp only at hhp fight
  rw [List.getElem?_set] at hhp
  by_cases hcur : g.partyIdx = i
  · subst hcur
    rw [if_pos rfl] at hhp
    split at hhp
    · next hlt =>
      obtain rfl := Option.some.inj hhp
      have before := hg _ m _ hm (List.getElem?_eq_getElem hlt)
      have current : g.partyHP.getD g.partyIdx 0 = g.partyHP[g.partyIdx] := by
        rw [List.getD_eq_getElem?_getD, List.getElem?_eq_getElem hlt, Option.getD_some]
      rw [current] at fight ⊢
      omega
    · cases hhp
  · rw [if_neg hcur] at hhp
    exact hg i m hp hm hhp

/-- Nor does a gym. -/
theorem gymLoop_worn (party : List MonsterInstance) (gymTeam : List GymEntry)
    (getTemplate : TemplateResolver) (g : GymFight) (hg : g.Worn party) :
    (gymLoop fl party gymTeam getTemplate g).Worn party := by
  fun_induction gymLoop fl party gymTeam getTemplate g with
  | case1 g _ _ _ ih => exact ih hg
  | case2 g _ _ _ _ ih => exact ih (gymRound_worn fl hg)
  | case3 g _ => exact hg

/-- **What a gym does to the party:** each member comes back with some of its hit points. -/
theorem simulateGym_party (party : List MonsterInstance) (gymTeam : List GymEntry)
    (getTemplate : TemplateResolver) (r : Rng) :
    List.Forall₂ (fun m m' => ∃ hp, 0 ≤ hp ∧ hp ≤ max 0 m.currentHP ∧
      m' = { m with currentHP := hp }) party (simulateGym fl party gymTeam getTemplate r).2.1 := by
  have worn := gymLoop_worn fl party gymTeam getTemplate ⟨0, 0, party.map (·.currentHP), [], r⟩ <| by
    intro i m hp hm hhp
    rw [List.getElem?_map, hm] at hhp
    obtain rfl := Option.some.inj hhp
    exact le_max_right _ _
  refine List.forall₂_iff_get.2 ⟨(simulateGym_length fl party gymTeam getTemplate r).symm, ?_⟩
  intro i h₁ h₂
  unfold simulateGym at h₂ ⊢
  dsimp only at h₂ ⊢
  rw [List.length_zipWith] at h₂
  refine ⟨max 0 ((gymLoop fl party gymTeam getTemplate
    ⟨0, 0, party.map (·.currentHP), [], r⟩).partyHP.get ⟨i, by omega⟩), le_max_left _ _, ?_, ?_⟩
  · refine max_le (le_max_left _ _) ?_
    exact worn i _ _ (List.getElem?_eq_getElem h₁) (List.getElem?_eq_getElem _)
  · rw [List.get_eq_getElem, List.getElem_zipWith]
    rfl

end Pokeage.Game
