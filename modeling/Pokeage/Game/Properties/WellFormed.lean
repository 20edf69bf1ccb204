import Pokeage.Game.Properties.Bond
import Pokeage.Game.Properties.Growth
import Pokeage.Game.Properties.Placement

/-!
# Well-formed monsters

With exact arithmetic and species that grow, a monster of the roster has the stats of its level, hit
points and affection within bounds, and less experience than its next level costs. Every change to a
monster keeps this, and a wild one comes with it.
-/

namespace Pokeage.Game

/-! ## Species and worlds -/

/-- No stat is lower. -/
def Stats.Le (s s' : Stats) : Prop :=
  s.hp ≤ s'.hp ∧ s.atk ≤ s'.atk ∧ s.defense ≤ s'.defense ∧ s.spd ≤ s'.spd

instance (s s' : Stats) : Decidable (s.Le s') := inferInstanceAs (Decidable (_ ∧ _ ∧ _ ∧ _))

/-- Positive base stats, and targets that are not below them. -/
def MonsterTemplate.Grows (tpl : MonsterTemplate) : Prop :=
  Stats.Le ⟨1, 1, 1, 1⟩ tpl.base ∧ tpl.base.Le (targetStatsFor tpl)

instance (tpl : MonsterTemplate) : Decidable tpl.Grows := inferInstanceAs (Decidable (_ ∧ _))

/-- Every route has positive levels. -/
def World.PositiveLevels (w : World) : Prop :=
  ∀ route ∈ w.routes, 1 ≤ route.levelRange.1 ∧ 1 ≤ route.levelRange.2

instance (w : World) : Decidable w.PositiveLevels :=
  inferInstanceAs (Decidable (∀ route ∈ w.routes, _ ∧ _))

variable {fl : Floats}

theorem statsAtLevel_hp_mono (exact : fl.Exact) {tpl : MonsterTemplate} (grows : tpl.Grows)
    {l l' : ℤ} (le : l ≤ l') : (statsAtLevel fl tpl l).hp ≤ (statsAtLevel fl tpl l').hp :=
  interpStat_mono exact.ordered grows.2.1 le

/-- Every level has hit points. -/
theorem one_le_statsAtLevel_hp (exact : fl.Exact) {tpl : MonsterTemplate} (grows : tpl.Grows)
    (level : ℤ) : 1 ≤ (statsAtLevel fl tpl level).hp :=
  grows.1.1.trans (base_le_interpStat exact grows.2.1 level)

/-- A positive level costs something. -/
theorem getXpForLevel_pos (exact : fl.Exact) {level : ℤ} (positive : 1 ≤ level) :
    ∃ cost, getXpForLevel fl level = some cost ∧ 0 < cost := by
  have base : (1 : ℚ) ≤ level := by exact_mod_cast positive
  unfold getXpForLevel
  rw [if_neg (by omega)]
  simp only [exact.round]
  split
  · have power : 1 ≤ fl.pow level 1.5 := exact.one_le_pow base (by norm_num)
    refine ⟨_, rfl, Int.floor_pos.2 ?_⟩
    linarith
  · have power : 1 ≤ fl.pow level 1.7 := exact.one_le_pow base (by norm_num)
    refine ⟨_, rfl, Int.floor_pos.2 ?_⟩
    linarith

theorem rookieMultiplier_nonneg (exact : fl.Exact) (level : ℤ) : 0 ≤ rookieMultiplier fl level := by
  unfold rookieMultiplier
  simp only [exact.round]
  split_ifs <;> norm_num

theorem gymXpReward_nonneg (exact : fl.Exact) (level : ℤ) (teamSize : ℕ) {buff : ℚ}
    (positive : 0 < buff) : 0 ≤ gymXpReward fl level teamSize buff := by
  unfold gymXpReward
  dsimp only
  rw [exact.round, exact.round, Int.floor_nonneg]
  exact mul_nonneg (mul_nonneg (Nat.cast_nonneg _) (rookieMultiplier_nonneg exact level)) positive.le

theorem wildXpReward_nonneg (leadLevel wildLevel : ℤ) (buff : ℚ) :
    0 ≤ wildXpReward fl leadLevel wildLevel buff :=
  le_trans (by decide) (le_max_left _ _)

namespace Engine

/-- What the results below assume: exact arithmetic, species that grow, positive levels on the routes
and a positive boost. -/
structure Sound (env : Env) (registry : Registry) : Prop where
  exact : env.fl.Exact
  resolver : env.getTemplate = registry.getMonsterById
  grows : ∀ {id tpl}, registry.getMonsterById id = some tpl → tpl.Grows
  levels : env.world.PositiveLevels
  boost : ∀ {b}, env.opts.xpBuff = some b → 0 < b

variable {env : Env} {registry : Registry}

theorem Sound.xpBuff_pos (sound : Sound env registry) : 0 < env.xpBuff := by
  unfold Env.xpBuff
  split
  · next b set =>
    split_ifs
    · exact zero_lt_one
    · exact sound.boost set
  · exact zero_lt_one

/-! ## One monster -/

/-- What holds of a monster in the middle of levelling, too. -/
structure Sane (env : Env) (tpl : MonsterTemplate) (m : MonsterInstance) : Prop where
  species : env.getTemplate m.templateId = some tpl
  level : 1 ≤ m.level
  stats : m.stats = statsAtLevel env.fl tpl m.level
  hp_nonneg : 0 ≤ m.currentHP
  hp_le : m.currentHP ≤ m.stats.hp
  affection_nonneg : 0 ≤ m.affection
  affection_le : m.affection ≤ affectionMax
  xp : 0 ≤ m.xp

/-- Sane, and without the experience for its next level. -/
structure WellFormed (env : Env) (m : MonsterInstance) : Prop where
  sane : ∃ tpl, Sane env tpl m
  next : m.level < maxLevel → ∃ cost, getXpForLevel env.fl m.level = some cost ∧ m.xp < cost

/-- A new instance of a registered species, with another rarity perhaps. -/
theorem Sound.wellFormed_create (sound : Sound env registry) {id : ℕ} {tpl : MonsterTemplate}
    (known : registry.getMonsterById id = some tpl) {level : ℤ} (positive : 1 ≤ level)
    (rarity : Option Rarity) :
    WellFormed env { createMonsterInstance env.fl tpl level with rarity } where
  sane := by
    have self : env.getTemplate tpl.id = some tpl := by
      rw [sound.resolver, registry.keyed known]
      exact known
    have hp : 1 ≤ (statsAtLevel env.fl tpl level).hp :=
      one_le_statsAtLevel_hp sound.exact (sound.grows known) level
    refine ⟨tpl, self, positive, rfl, ?_, le_rfl, le_rfl, ?_, le_rfl⟩
    · exact zero_le_one.trans hp
    · show (0 : ℚ) ≤ 100
      norm_num
  next _ := getXpForLevel_pos sound.exact positive

/-- A round of levelling keeps a monster sane: what it heals is what the level gained. -/
theorem Sane.levelUp (exact : env.fl.Exact) {tpl : MonsterTemplate} (grows : tpl.Grows)
    {m : MonsterInstance} (sane : Sane env tpl m) {cost : ℤ} (pays : cost ≤ m.xp) :
    Sane env tpl (levelUp env.fl m tpl cost).1 := by
  have up : (statsAtLevel env.fl tpl m.level).hp ≤ (statsAtLevel env.fl tpl (m.level + 1)).hp :=
    statsAtLevel_hp_mono exact grows (by omega)
  have hp : 1 ≤ (statsAtLevel env.fl tpl (m.level + 1)).hp := one_le_statsAtLevel_hp exact grows _
  have stats := congrArg Stats.hp sane.stats
  have nonneg := sane.hp_nonneg
  have level := sane.level
  rw [levelUp_eq]
  refine ⟨sane.species, ?_, rfl, ?_, min_le_left _ _, sane.affection_nonneg, sane.affection_le, ?_⟩
  · show 1 ≤ m.level + 1
    omega
  · show 0 ≤ min _ (m.currentHP + (_ - m.stats.hp))
    rw [stats]
    exact le_min (by omega) (by omega)
  · show 0 ≤ m.xp - cost
    omega

/-- Experience leaves a monster well-formed. -/
theorem Sane.gainXp (sound : Sound env registry) {tpl : MonsterTemplate} {m : MonsterInstance}
    (sane : Sane env tpl m) {amount : ℤ} (nonneg : 0 ≤ amount) :
    WellFormed env (gainXp env m amount) := by
  have grows : tpl.Grows := sound.grows (sound.resolver ▸ sane.species)
  unfold Engine.gainXp
  rw [sane.species]
  dsimp only
  unfold grantXp
  have gained : Sane env tpl { m with xp := m.xp + amount } :=
    { sane with xp := Int.add_nonneg sane.xp nonneg }
  have after : Sane env tpl
      (levelLoop env.fl { m with xp := m.xp + amount } tpl []).1 :=
    levelLoop_induction (fun m cost sane _ pays _ => sane.levelUp sound.exact grows pays) gained
  refine ⟨⟨tpl, after⟩, fun below => ?_⟩
  obtain ⟨cost, price, -⟩ := getXpForLevel_pos sound.exact after.level
  exact ⟨cost, price, levelLoop_done _ _ cost price below⟩

/-- Every change keeps a monster well-formed. -/
theorem WellFormed.alters (sound : Sound env registry) {m m' : MonsterInstance}
    (ok : WellFormed env m) (h : Alters env m m') : WellFormed env m' := by
  obtain ⟨⟨tpl, sane⟩, next⟩ := ok
  have full : 0 ≤ m.stats.hp := sane.hp_nonneg.trans sane.hp_le
  cases h with
  | healed => exact ⟨⟨tpl, { sane with hp_nonneg := full, hp_le := le_rfl }⟩, next⟩
  | hit nonneg le =>
    rw [max_eq_right sane.hp_nonneg] at le
    exact ⟨⟨tpl, { sane with hp_nonneg := nonneg, hp_le := le.trans sane.hp_le }⟩, next⟩
  | @bonded foeLevel =>
    obtain ⟨gain, -⟩ := affectionGainFor_bounds sound.exact m foeLevel
    have bond : 0 ≤ env.fl (m.affection + affectionGainFor env.fl m foeLevel) := by
      rw [sound.exact.round]
      exact add_nonneg sane.affection_nonneg (le_trans (by norm_num) gain)
    have cap : (0 : ℚ) ≤ affectionMax := by norm_num [affectionMax]
    exact ⟨⟨tpl, { sane with
      affection_nonneg := le_min cap bond
      affection_le := min_le_left _ _ }⟩, next⟩
  | rewarded =>
    exact sane.gainXp sound (gymXpReward_nonneg sound.exact m.level _ sound.xpBuff_pos)
  | trained => exact sane.gainXp sound (wildXpReward_nonneg m.level _ env.xpBuff)

/-! ## Wild monsters -/

/-- The level a route spawns at: within its band, or up to seven above for one of its rares. -/
inductive SpawnLevel (fl : Floats) (route : Route) : ℤ → Prop
  | band (r : Rng) : SpawnLevel fl route (r.int fl route.levelRange.1 route.levelRange.2).1
  | rare (pool : route.rarePool ≠ []) (r : Rng) :
      SpawnLevel fl route (route.levelRange.2 + (r.int fl 0 4).1 + 3)

theorem rollSpecies_rare {route : Route} {getTemplate : TemplateResolver} {r : Rng}
    {buffs : EncounterBuffs} (rare : (rollSpecies fl route getTemplate r buffs).2.1 = true) :
    route.rarePool ≠ [] := by
  intro empty
  unfold rollSpecies at rare
  rw [if_pos empty] at rare
  cases rare

/-- A wild monster is a new instance of a known species at a spawn level. -/
theorem generateWildMonster_spawn {route : Route} {getTemplate : TemplateResolver} {r : Rng}
    {buffs : EncounterBuffs} {wild : MonsterInstance}
    (h : (generateWildMonster fl route getTemplate r buffs).1 = some wild) :
    ∃ id tpl level rarity, getTemplate id = some tpl ∧ SpawnLevel fl route level ∧
      wild = { createMonsterInstance fl tpl level with rarity } := by
  unfold generateWildMonster at h
  dsimp only at h
  split at h
  · cases h
  · next tpl species =>
    obtain ⟨id, -, known⟩ := Option.bind_eq_some_iff.1 species
    refine ⟨id, tpl, _, _, known, ?_, (Option.some.inj h).symm⟩
    split
    · next rare => exact .rare (rollSpecies_rare rare) _
    · exact .band _

/-- A wild monster has a positive level. -/
theorem SpawnLevel.positive (draws : ∀ (r : Rng) (a b : ℤ), min a b ≤ (r.int fl a b).1)
    {route : Route} {level : ℤ}
    (h : SpawnLevel fl route level) (first : 1 ≤ route.levelRange.1) (last : 1 ≤ route.levelRange.2) :
    1 ≤ level := by
  cases h with
  | band r =>
    have low := draws r route.levelRange.1 route.levelRange.2
    omega
  | rare _ r =>
    have low := draws r 0 4
    omega

/-- A wild monster is well-formed. -/
theorem Spawned.wellFormed (sound : Sound env registry) {t : Trainer} {wild lead : MonsterInstance}
    {route : Route} (h : Spawned env t wild lead route) : WellFormed env wild := by
  obtain ⟨r, rolled⟩ := h.rolled
  obtain ⟨id, tpl, level, rarity, known, spawn, rfl⟩ := generateWildMonster_spawn rolled
  obtain ⟨first, last⟩ := sound.levels route h.hunts.mem
  rw [sound.resolver] at known
  exact sound.wellFormed_create known (spawn.positive (·.le_int sound.exact.ordered) first last) rarity

/-! ## Runs -/

/-- **Well-formed rosters.** In a run of a new trainer everybody in team and box is well-formed. -/
theorem roster_wellFormed (sound : Sound env registry) (e : Engine) {id name : String}
    {opts : NewTrainerOptions} (new : e.trainer = newTrainer env.fl id name registry opts)
    (level : 1 ≤ opts.starterLevel.getD 5) (n : ℕ) :
    ∀ m ∈ (ticks env n e).trainer.roster, WellFormed env m := by
  have start : ∀ m ∈ e.trainer.roster, WellFormed env m := by
    intro m hm
    rw [new] at hm
    obtain ⟨tpl, known, rfl⟩ := mem_newTrainer_roster hm
    exact sound.wellFormed_create known level _
  exact ticks_induction (fun t t' all step => step.rosterStep.all
    (fun m m' ok change => ok.alters sound change)
    (fun _ _ _ spawned _ _ => spawned.wellFormed sound) all) start n

theorem sampleEnv_sound : Sound sampleEnv sampleRegistry where
  exact := exactFloats_exact
  resolver := rfl
  grows {id tpl} known := by
    have all : ∀ tpl ∈ sampleMonsters, tpl.Grows := by decide
    exact all tpl (mem_of_createRegistry known)
  levels := by decide
  boost h := nomatch h

theorem roster_wellFormed_freshEngine :
    {m | m ∈ (ticks sampleEnv 400 (freshEngine 123)).trainer.roster} ⊆ {m | WellFormed sampleEnv m} :=
  have new : (freshEngine 123).trainer = newTrainer sampleEnv.fl "p1" "TESTER" sampleRegistry
    ⟨some 4, some 6, some 20, none⟩ := rfl
  roster_wellFormed sampleEnv_sound (freshEngine 123) new (by decide) 400

end Engine

end Pokeage.Game
