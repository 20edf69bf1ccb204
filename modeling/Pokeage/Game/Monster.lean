import Pokeage.Game.Types

/-!
# Monsters: stats, growth, bond and power

`stats.ts`, `progression.ts`, `affection.ts` and `power.ts`. The levelling loop ends because each
round raises the level and the cap stops it.
-/

namespace Pokeage.Game

variable (fl : Floats)

/-! ## Stats -/

/-- Levels from the first to the one at which stats reach their target. -/
def growthSpan : ℤ := 49

/-- The per-level stat of a combatant built from a species. -/
def statAtLevel (base level : ℤ) (isHP : Bool) : ℤ :=
  let b := max 1 (orElse base 1)
  let l := max 1 (orElse level 1)
  let core := ⌊fl ((2 * b * l : ℤ) / 100)⌋
  if isHP then core + l + 10 else core + 5

/-- A stat between its base and its target at level fifty. -/
def interpStat (base target level : ℤ) : ℤ :=
  let t := min 1 (max 0 (fl (((level - 1 : ℤ) : ℚ) / growthSpan)))
  ⌊fl (base + fl ((target - base : ℤ) * t))⌋

/-- The stats of the last stage a species has. -/
def targetStatsFor (template : MonsterTemplate) : Stats :=
  (template.stage2.or template.stage1).getD template.base

/-- Stats on the way from the base to the target. -/
def statsAtLevel (template : MonsterTemplate) (level : ℤ) : Stats :=
  let target := targetStatsFor template
  { hp := interpStat fl template.base.hp target.hp level
    atk := interpStat fl template.base.atk target.atk level
    defense := interpStat fl template.base.defense target.defense level
    spd := interpStat fl template.base.spd target.spd level }

/-- `ev && level >= ev`. -/
def evolvesAt (ev : Option ℤ) (level : ℤ) : Bool :=
  match ev with
  | some e => e ≠ 0 && decide (e ≤ level)
  | none => false

/-- The stage that a level has reached. -/
def stageForLevel (template : MonsterTemplate) (level : ℤ) : ℤ :=
  if evolvesAt template.ev2 level then 2
  else if evolvesAt template.ev1 level then 1
  else 0

/-- An instance with the given stats, at full health. -/
def instanceWith (template : MonsterTemplate) (level : ℤ) (stats : Stats) : MonsterInstance where
  templateId := template.id
  name := template.name
  type := template.type
  asset := template.asset
  level := level
  xp := 0
  stage := stageForLevel template level
  stats := stats
  currentHP := stats.hp
  targetStats := targetStatsFor template
  ev1 := template.ev1
  ev2 := template.ev2
  rarity := template.rarity
  rarityTier := template.rarityTier
  affection := 0
  moves := none

/-- A monster of a species at a level, with stats on the growth curve. -/
def createMonsterInstance (template : MonsterTemplate) (level : ℤ) : MonsterInstance :=
  instanceWith template level (statsAtLevel fl template level)

/-- A monster of a species at a level, with combat stats: a leader's. -/
def makeCombatant (template : MonsterTemplate) (level : ℤ) : MonsterInstance :=
  instanceWith template level {
    hp := statAtLevel fl template.base.hp level true
    atk := statAtLevel fl template.base.atk level false
    defense := statAtLevel fl template.base.defense level false
    spd := statAtLevel fl template.base.spd level false }

/-! ## Levelling -/

/-- Hard level cap. -/
def maxLevel : ℤ := 55
/-- The last level on the gentler curve. -/
def xpCurveSplit : ℤ := 10

/-- The experience a level asks for. A negative level has none: `Math.pow` gives `NaN` there. -/
def getXpForLevel (level : ℤ) : Option ℤ :=
  if level < 0 then none
  else if level ≤ xpCurveSplit then some ⌊fl (50 * fl.pow level (fl 1.5))⌋
  else some ⌊fl (80 * fl.pow level (fl 1.7))⌋

/-- What gaining experience brings about. -/
inductive ProgressEvent where
  | levelup (level : ℤ)
  | evolve (stage : ℤ)
  deriving DecidableEq, Repr

/-- One round of the levelling loop, which pays `cost` for a level. -/
def levelUp (mon : MonsterInstance) (template : MonsterTemplate) (cost : ℤ) :
    MonsterInstance × List ProgressEvent :=
  let level := mon.level + 1
  let stats := statsAtLevel fl template level
  let mon := { mon with
    xp := mon.xp - cost
    level
    stats
    -- carry the hit points forward and heal what this level gained
    currentHP := min stats.hp (mon.currentHP + (stats.hp - mon.stats.hp)) }
  if mon.stage = 0 ∧ evolvesAt mon.ev1 level then
    ({ mon with stage := 1 }, [.levelup level, .evolve 1])
  else if mon.stage = 1 ∧ evolvesAt mon.ev2 level then
    ({ mon with stage := 2 }, [.levelup level, .evolve 2])
  else (mon, [.levelup level])

@[simp] theorem levelUp_level (mon : MonsterInstance) (template : MonsterTemplate) (cost : ℤ) :
    (levelUp fl mon template cost).1.level = mon.level + 1 := by
  unfold levelUp
  simp only
  split
  · rfl
  · split <;> rfl

/-- `while (mon.xp >= getXpForLevel(mon.level) && mon.level < MAX_LEVEL)`. -/
def levelLoop (mon : MonsterInstance) (template : MonsterTemplate) (events : List ProgressEvent) :
    MonsterInstance × List ProgressEvent :=
  match getXpForLevel fl mon.level with
  | none => (mon, events)
  | some cost =>
    if cost ≤ mon.xp ∧ mon.level < maxLevel then
      let up := levelUp fl mon template cost
      levelLoop up.1 template (events ++ up.2)
    else (mon, events)
termination_by (maxLevel - mon.level).toNat
decreasing_by
  simp only [levelUp_level]
  omega

/-- Grant experience and level up as far as it pays. -/
def grantXp (mon : MonsterInstance) (amount : ℤ) (template : MonsterTemplate) :
    MonsterInstance × List ProgressEvent :=
  levelLoop fl { mon with xp := mon.xp + amount } template []

/-- Experience comes faster at low levels. -/
def rookieMultiplier (level : ℤ) : ℚ :=
  if level < 30 then 4
  else if level < 45 then fl 2.5
  else fl 1.8

/-- Experience for a beaten wild monster: less the further the lead is above it, at least twelve. -/
def wildXpReward (leadLevel wildLevel : ℤ) (buffMult : ℚ) : ℤ :=
  let levelDiff := max (fl 0.4) (fl (1 - fl ((leadLevel - wildLevel : ℤ) * fl 0.02)))
  let rookie := rookieMultiplier fl leadLevel
  max 12 ⌊fl (fl (fl (fl (5 + fl (wildLevel * fl 2.5)) * levelDiff) * rookie) * buffMult)⌋

/-- Experience of one party member for a won gym. -/
def gymXpReward (memberLevel : ℤ) (teamSize : ℕ) (buffMult : ℚ) : ℤ :=
  let rookie := rookieMultiplier fl memberLevel
  ⌊fl (fl (((15 + teamSize * 8 : ℕ) : ℚ) * rookie) * buffMult)⌋

/-! ## Affection -/

/-- Affection at which the bond is complete. -/
def affectionMax : ℚ := 100

/-- Affection for a win: more against stronger foes, between a tenth and two. -/
def affectionGainFor (mon : MonsterInstance) (foeLevel : ℤ) : ℚ :=
  let myLv := max 1 (orElse mon.level 1)
  let raw := fl (fl 0.5 * fl (foeLevel / myLv))
  min 2 (max (fl 0.1) raw)

/-- Add a gain, capped. The flag says whether the cap was reached by it. -/
def addAffection (mon : MonsterInstance) (gain : ℚ) : MonsterInstance × Bool :=
  let before := mon.affection
  let after := min affectionMax (fl (before + gain))
  ({ mon with affection := after }, before < affectionMax && affectionMax ≤ after)

/-- A complete bond can be claimed as a card. -/
def canClaimCard (mon : MonsterInstance) : Bool := affectionMax ≤ mon.affection

/-! ## Power -/

/-- `POWER_RARITY_BONUS`. -/
def powerRarityBonus : Rarity → ℤ
  | .common => 0
  | .rare => 100
  | .legendary => 200

/-- Stat total, level and rarity in one number. -/
def getMonsterPower (mon : MonsterInstance) : ℤ :=
  let s := mon.stats
  let statSum := s.hp + s.atk + s.defense + s.spd
  statSum + orElse mon.level 1 * 3 + powerRarityBonus (mon.rarity.getD .common)

end Pokeage.Game
