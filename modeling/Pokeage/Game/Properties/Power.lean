import Pokeage.Game.Properties.WellFormed

/-!
# The power of the roster

Power is made of the level and of stats that the species and the level determine. Experience moves a
monster up in level only, and a newcomer adds its own power or takes the place of somebody weaker, so
the sum over team and box never drops.
-/

namespace Pokeage.Game

/-! ## Power and level -/

variable {fl : Floats}

/-- Base stats from zero on, and targets that are not below them. -/
def MonsterTemplate.Rises (tpl : MonsterTemplate) : Prop :=
  Stats.Le ⟨0, 0, 0, 0⟩ tpl.base ∧ tpl.base.Le (targetStatsFor tpl)

instance (tpl : MonsterTemplate) : Decidable tpl.Rises := inferInstanceAs (Decidable (_ ∧ _))

/-- What the stats of a level add to the power. -/
def Stats.total (s : Stats) : ℤ := s.hp + s.atk + s.defense + s.spd

theorem getMonsterPower_eq (m : MonsterInstance) :
    getMonsterPower m =
      m.stats.total + orElse m.level 1 * 3 + powerRarityBonus (m.rarity.getD .common) := rfl

theorem powerRarityBonus_nonneg (rarity : Rarity) : 0 ≤ powerRarityBonus rarity := by
  cases rarity <;> decide

/-- Stats do not fall with the level. -/
theorem statsAtLevel_total_mono (ordered : fl.Ordered) {tpl : MonsterTemplate} (rises : tpl.Rises)
    {l l' : ℤ} (le : l ≤ l') : (statsAtLevel fl tpl l).total ≤ (statsAtLevel fl tpl l').total := by
  obtain ⟨-, hp, atk, defense, spd⟩ := rises
  unfold Stats.total statsAtLevel
  dsimp only
  have hp' := interpStat_mono ordered hp le
  have atk' := interpStat_mono ordered atk le
  have defense' := interpStat_mono ordered defense le
  have spd' := interpStat_mono ordered spd le
  omega

theorem statsAtLevel_total_nonneg (ordered : fl.Ordered) {tpl : MonsterTemplate} (rises : tpl.Rises)
    (level : ℤ) : 0 ≤ (statsAtLevel fl tpl level).total := by
  obtain ⟨⟨hp₀, atk₀, defense₀, spd₀⟩, hp, atk, defense, spd⟩ := rises
  unfold Stats.total statsAtLevel
  dsimp only
  have hp' := interpStat_nonneg ordered hp₀ hp level
  have atk' := interpStat_nonneg ordered atk₀ atk level
  have defense' := interpStat_nonneg ordered defense₀ defense level
  have spd' := interpStat_nonneg ordered spd₀ spd level
  omega

/-- A new instance of a positive level has no negative power. -/
theorem getMonsterPower_create_nonneg (ordered : fl.Ordered) {tpl : MonsterTemplate}
    (rises : tpl.Rises) {level : ℤ} (positive : 1 ≤ level) (rarity : Option Rarity) :
    0 ≤ getMonsterPower { createMonsterInstance fl tpl level with rarity } := by
  have stats := statsAtLevel_total_nonneg ordered rises level
  have bonus := powerRarityBonus_nonneg (rarity.getD .common)
  have levels : orElse level 1 = level := if_neg (by omega)
  rw [getMonsterPower_eq]
  show 0 ≤ (statsAtLevel fl tpl level).total + orElse level 1 * 3 +
    powerRarityBonus (rarity.getD .common)
  omega

/-- The power of everybody the trainer owns. -/
def Trainer.power (t : Trainer) : ℤ := (t.roster.map getMonsterPower).sum

theorem Trainer.power_eq (t : Trainer) :
    t.power = (t.team.map getMonsterPower).sum + (t.box.map getMonsterPower).sum := by
  unfold Trainer.power Trainer.roster
  rw [List.map_append, List.sum_append]

/-! ## A newcomer -/

/-- Taking one out of a list takes its power out. -/
theorem power_eraseIdx {l : List MonsterInstance} {i : ℕ} {old : MonsterInstance}
    (here : l[i]? = some old) :
    ((l.eraseIdx i).map getMonsterPower).sum + getMonsterPower old =
      (l.map getMonsterPower).sum := by
  induction l generalizing i with
  | nil => cases here
  | cons m l ih =>
    cases i with
    | zero =>
      obtain rfl : m = old := Option.some.inj here
      simp [add_comm]
    | succ i =>
      have rest := ih (i := i) here
      simp only [List.eraseIdx_cons_succ, List.map_cons, List.sum_cons]
      omega

/-- A newcomer adds its power, or what it is ahead of the one that gives way. -/
theorem Placed.power {t t' : Trainer} {newMon : MonsterInstance} {res : PlacementResult}
    (h : Placed t newMon (res, t')) (nonneg : 0 ≤ getMonsterPower newMon) : t.power ≤ t'.power := by
  rw [t.power_eq, t'.power_eq]
  cases h with
  | party =>
    simp only [List.map_append, List.sum_append, List.map_singleton, List.sum_singleton]
    omega
  | box =>
    simp only [List.map_append, List.sum_append, List.map_singleton, List.sum_singleton]
    omega
  | declined => exact le_rfl
  | inParty _ here gives =>
    have freed := power_eraseIdx here
    have stronger := gives.stronger
    simp only [List.map_append, List.sum_append, List.map_singleton, List.sum_singleton]
    omega
  | inBox _ here gives =>
    have freed := power_eraseIdx here
    have stronger := gives.stronger
    simp only [List.map_append, List.sum_append, List.map_singleton, List.sum_singleton]
    omega

namespace Engine

/-- What the results below assume: rounding in order, species that rise and positive levels on the
routes. -/
structure Rising (env : Env) (registry : Registry) : Prop where
  ordered : env.fl.Ordered
  resolver : env.getTemplate = registry.getMonsterById
  rises : ∀ {id tpl}, registry.getMonsterById id = some tpl → tpl.Rises
  levels : env.world.PositiveLevels

variable {env : Env} {registry : Registry}

/-! ## One monster -/

/-- The stats are those of the species at the level. -/
def OfLevel (env : Env) (m : MonsterInstance) : Prop :=
  ∃ tpl, env.getTemplate m.templateId = some tpl ∧ m.stats = statsAtLevel env.fl tpl m.level

theorem Rising.ofLevel_create (rising : Rising env registry) {id : ℕ} {tpl : MonsterTemplate}
    (known : registry.getMonsterById id = some tpl) (level : ℤ) (rarity : Option Rarity) :
    OfLevel env { createMonsterInstance env.fl tpl level with rarity } := by
  refine ⟨tpl, ?_, rfl⟩
  rw [rising.resolver]
  show registry.getMonsterById tpl.id = some tpl
  rw [registry.keyed known]
  exact known

/-- A level is worth no less than the one before. Below level zero none is ever gained. -/
theorem getMonsterPower_levelUp (cost : ℤ) (ordered : env.fl.Ordered) {tpl : MonsterTemplate}
    (rises : tpl.Rises) {m : MonsterInstance} (stats : m.stats = statsAtLevel env.fl tpl m.level)
    {price : ℤ} (costs : getXpForLevel env.fl m.level = some price) :
    getMonsterPower m ≤ getMonsterPower (levelUp env.fl m tpl cost).1 := by
  have nonneg : 0 ≤ m.level := by
    by_contra negative
    unfold getXpForLevel at costs
    rw [if_pos (not_le.1 negative)] at costs
    cases costs
  have up := statsAtLevel_total_mono ordered rises (show m.level ≤ m.level + 1 by omega)
  have levels : orElse m.level 1 ≤ orElse (m.level + 1) 1 := by
    unfold orElse
    split_ifs <;> omega
  rw [levelUp_eq, getMonsterPower_eq, getMonsterPower_eq, stats]
  dsimp only
  omega

/-- Experience of any amount, even a negative one, costs no power. -/
theorem gainXp_power (rising : Rising env registry) {m : MonsterInstance} (ofLevel : OfLevel env m)
    (amount : ℤ) :
    OfLevel env (gainXp env m amount) ∧ getMonsterPower m ≤ getMonsterPower (gainXp env m amount) := by
  obtain ⟨tpl, species, stats⟩ := ofLevel
  have rises : tpl.Rises := rising.rises (rising.resolver ▸ species)
  unfold gainXp
  rw [species]
  dsimp only
  unfold grantXp
  have after : env.getTemplate (levelLoop env.fl { m with xp := m.xp + amount } tpl []).1.templateId =
        some tpl ∧
      (levelLoop env.fl { m with xp := m.xp + amount } tpl []).1.stats =
        statsAtLevel env.fl tpl (levelLoop env.fl { m with xp := m.xp + amount } tpl []).1.level ∧
      getMonsterPower m ≤
        getMonsterPower (levelLoop env.fl { m with xp := m.xp + amount } tpl []).1 := by
    refine levelLoop_induction (P := fun m' => env.getTemplate m'.templateId = some tpl ∧
      m'.stats = statsAtLevel env.fl tpl m'.level ∧ getMonsterPower m ≤ getMonsterPower m') ?_
      ⟨species, stats, le_rfl⟩
    intro m' cost so_far costs _ _
    obtain ⟨species', stats', le⟩ := so_far
    have up := getMonsterPower_levelUp cost rising.ordered rises stats' costs
    rw [levelUp_eq] at up ⊢
    exact ⟨species', rfl, le.trans up⟩
  exact ⟨⟨tpl, after.1, after.2.1⟩, after.2.2⟩

/-- A change of a monster does not lower its power. -/
theorem Alters.power (rising : Rising env registry) {m m' : MonsterInstance}
    (ofLevel : OfLevel env m) (h : Alters env m m') :
    OfLevel env m' ∧ getMonsterPower m ≤ getMonsterPower m' := by
  cases h with
  | healed => exact ⟨ofLevel, le_rfl⟩
  | hit => exact ⟨ofLevel, le_rfl⟩
  | bonded => exact ⟨ofLevel, le_rfl⟩
  | rewarded => exact gainXp_power rising ofLevel _
  | trained => exact gainXp_power rising ofLevel _

/-- Nor do several. -/
theorem Grown.power (rising : Rising env registry) {m m' : MonsterInstance}
    (h : Grown env m m') (ofLevel : OfLevel env m) :
    OfLevel env m' ∧ getMonsterPower m ≤ getMonsterPower m' := by
  refine h.keeps (P := fun m' => OfLevel env m' ∧ getMonsterPower m ≤ getMonsterPower m') ?_
    ⟨ofLevel, le_rfl⟩
  intro m₁ m₂ so_far last
  obtain ⟨ofLevel', up⟩ := last.power rising so_far.1
  exact ⟨ofLevel', so_far.2.trans up⟩

/-- A team that changes does not get weaker. -/
theorem TeamGrown.power (rising : Rising env registry) {team team' : List MonsterInstance}
    (h : TeamGrown env team team') (all : ∀ m ∈ team, OfLevel env m) :
    (team.map getMonsterPower).sum ≤ (team'.map getMonsterPower).sum := by
  induction h with
  | nil => exact le_rfl
  | cons head _ ih =>
    rw [List.map_cons, List.map_cons, List.sum_cons, List.sum_cons]
    obtain ⟨first, others⟩ := List.forall_mem_cons.1 all
    exact add_le_add (head.power rising first).2 (ih others)

/-! ## Ticks -/

/-- A wild monster has power. -/
theorem Spawned.power_nonneg (rising : Rising env registry) {t : Trainer}
    {wild lead : MonsterInstance} {route : Route} (h : Spawned env t wild lead route) :
    OfLevel env wild ∧ 0 ≤ getMonsterPower wild := by
  obtain ⟨r, rolled⟩ := h.rolled
  obtain ⟨id, tpl, level, rarity, known, spawn, rfl⟩ := generateWildMonster_spawn rolled
  obtain ⟨first, last⟩ := rising.levels route h.hunts.mem
  have positive : 1 ≤ level := spawn.positive (·.le_int rising.ordered) first last
  rw [rising.resolver] at known
  exact ⟨rising.ofLevel_create known level rarity,
    getMonsterPower_create_nonneg rising.ordered (rising.rises known) positive rarity⟩

/-- A tick does not lower the power of the roster. -/
theorem RosterStep.power (rising : Rising env registry) {t t' : Trainer} (h : RosterStep env t t')
    (all : ∀ m ∈ t.roster, OfLevel env m) : t.power ≤ t'.power := by
  have team : ∀ m ∈ t.team, OfLevel env m := fun m hm => all m (List.mem_append_left _ hm)
  cases h with
  | same grown box =>
    rw [t.power_eq, t'.power_eq, box]
    exact add_le_add_left (grown.power rising team) _
  | @joined t₁ t₂ wild _ _ _ grown box _ _ spawned _ placed team' box' =>
    have before : t.power ≤ (thrown t₁).power := by
      rw [t.power_eq, Trainer.power_eq]
      show _ ≤ (t₁.team.map getMonsterPower).sum + (t₁.box.map getMonsterPower).sum
      rw [box]
      exact add_le_add_left (grown.power rising team) _
    have after : t₂.power = t'.power := by
      rw [t₂.power_eq, t'.power_eq, team', box']
    exact after ▸ before.trans (placed.power (spawned.power_nonneg rising).2)

/-- A tick keeps everybody's stats those of its level. -/
theorem RosterStep.ofLevel (rising : Rising env registry) {t t' : Trainer} (h : RosterStep env t t')
    (all : ∀ m ∈ t.roster, OfLevel env m) : ∀ m ∈ t'.roster, OfLevel env m :=
  h.all (fun _ _ ofLevel change => (change.power rising ofLevel).1)
    (fun _ _ _ spawned _ _ => (spawned.power_nonneg rising).1) all

/-- **Roster power never drops** from a tick to the next in a run of a new trainer. -/
theorem power_le_tick (rising : Rising env registry) (e : Engine) {id name : String}
    {opts : NewTrainerOptions} (new : e.trainer = newTrainer env.fl id name registry opts) (n : ℕ) :
    (ticks env n e).trainer.power ≤ (ticks env (n + 1) e).trainer.power := by
  have start : ∀ m ∈ e.trainer.roster, OfLevel env m := by
    intro m hm
    rw [new] at hm
    obtain ⟨tpl, known, rfl⟩ := mem_newTrainer_roster hm
    exact rising.ofLevel_create known _ _
  have all := ticks_induction (P := fun t => ∀ m ∈ t.roster, OfLevel env m)
    (fun _ _ all step => step.rosterStep.ofLevel rising all) start n
  have next : ticks env (n + 1) e = (tick env (ticks env n e)).2 :=
    Function.iterate_succ_apply' _ n e
  rw [next]
  exact (tick_outcome env _).rosterStep.power rising all

theorem sampleEnv_rising : Rising sampleEnv sampleRegistry where
  ordered := exactFloats_exact.ordered
  resolver := rfl
  rises {id tpl} known := by
    have all : ∀ tpl ∈ sampleMonsters, tpl.Rises := by decide
    exact all tpl (mem_of_createRegistry known)
  levels := by decide

theorem power_le_tick_freshEngine :
    (ticks sampleEnv 400 (freshEngine 123)).trainer.power ≤
      (ticks sampleEnv 401 (freshEngine 123)).trainer.power :=
  have new : (freshEngine 123).trainer = newTrainer sampleEnv.fl "p1" "TESTER" sampleRegistry
    ⟨some 4, some 6, some 20, none⟩ := rfl
  power_le_tick sampleEnv_rising (freshEngine 123) new 400

end Engine

end Pokeage.Game
