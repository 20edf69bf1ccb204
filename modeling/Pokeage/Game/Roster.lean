import Pokeage.Game.Monster
import Pokeage.Game.Rng

/-!
# Meeting, catching and keeping monsters

`encounter.ts`, `catch.ts` and `team.ts`.
-/

namespace Pokeage.Game

variable (fl : Floats)

/-! ## Encounters -/

/-- Multipliers a shop item puts on the rare rolls. -/
structure EncounterBuffs where
  rare : Option ℚ
  legend : Option ℚ
  deriving DecidableEq, Repr

/-- Chance of the rare pool. -/
def rareZoneChance : ℚ := 0.02
/-- Chance of a rare pool that holds a legendary. -/
def legendZoneChance : ℚ := 0.008

/-- `sampleTpl && sampleTpl.rarity === 'legendary'` for the first of a pool. -/
def hasLegendary (getTemplate : TemplateResolver) (pool : List ℕ) : Bool :=
  match pool.head?.bind getTemplate with
  | some tpl => tpl.rarity = some .legendary
  | none => false

/-- Which species shows up, and whether it came from the rare pool. -/
def rollSpecies (route : Route) (getTemplate : TemplateResolver) (r : Rng)
    (buffs : EncounterBuffs) : Option ℕ × Bool × Rng :=
  if route.rarePool = [] then
    let p := r.pick fl route.wildPool
    (p.1, false, p.2)
  else
    let poolChance :=
      if hasLegendary getTemplate route.rarePool then
        fl (fl legendZoneChance * buffs.legend.getD 1)
      else fl (fl rareZoneChance * buffs.rare.getD 1)
    let c := r.chance poolChance
    if c.1 then
      let p := c.2.pick fl route.rarePool
      (p.1, true, p.2)
    else
      let p := c.2.pick fl route.wildPool
      (p.1, false, p.2)

/-- A wild monster for a route, or none if the pool is empty or the species unknown. Rares come a
few levels above the route's band. -/
def generateWildMonster (route : Route) (getTemplate : TemplateResolver) (r : Rng)
    (buffs : EncounterBuffs) : Option MonsterInstance × Rng :=
  let species := rollSpecies fl route getTemplate r buffs
  match species.1.bind getTemplate with
  | none => (none, species.2.2)
  | some template =>
    let level :=
      if species.2.1 then
        let u := species.2.2.int fl 0 4
        (route.levelRange.2 + u.1 + 3, u.2)
      else species.2.2.int fl route.levelRange.1 route.levelRange.2
    let mon := createMonsterInstance fl template level.1
    (some { mon with rarity := some (template.rarity.getD .common) }, level.2)

/-! ## Throwing a ball -/

/-- `CATCH_RATE`. -/
def catchRateOf : Rarity → ℚ
  | .common => 0.4
  | .rare => 0.08
  | .legendary => 0.015

/-- What each level takes off the rate. -/
def catchLevelPenalty : ℚ := 0.005
/-- The rate is never lower, whatever the level. -/
def catchRateMin : ℚ := 0.005
/-- The rate of a plain ball is never higher. -/
def catchRateMax : ℚ := 0.9
/-- A ball with this multiplier never fails. -/
def masterballMult : ℚ := 999

/-- The chance that a ball holds a wild monster. -/
def catchRate (wild : MonsterInstance) (ballMult : ℚ := 1) : ℚ :=
  let base := fl (catchRateOf (wild.rarity.getD .common))
  let penalty := max 0 (fl (wild.level * fl catchLevelPenalty))
  let rate := min (fl catchRateMax) (max (fl catchRateMin) (fl (base - penalty)))
  if masterballMult ≤ ballMult then 1
  else if 1 < ballMult then min 1 (fl (rate * ballMult))
  else rate

/-- The outcome of a throw. -/
structure CatchResult where
  caught : Bool
  ballsUsed : ℤ
  rate : ℚ
  deriving DecidableEq, Repr

/-- Throw one ball. -/
def attemptCatch (wild : MonsterInstance) (ballMult : ℚ) (r : Rng) : CatchResult × Rng :=
  let rate := catchRate fl wild ballMult
  let c := r.chance rate
  (⟨c.1, 1, rate⟩, c.2)

/-! ## Team and box -/

/-- Monsters a team holds. -/
def partySize : ℕ := 4
/-- Monsters a box holds. -/
def boxSize : ℕ := 6
/-- Monsters of one type that a team takes. -/
def sameTypeLimit : ℕ := 2

/-- Where a new monster went. -/
inductive Placement where
  | party
  | box
  | none
  deriving DecidableEq, Repr

/-- Whether and where a new monster was placed, and who was released for it. -/
structure PlacementResult where
  placed : Bool
  place : Placement
  released : Option MonsterInstance
  deriving DecidableEq, Repr

/-- Index of the first of the weakest, found by a scan that only a strictly weaker one moves. -/
def weakestIdx (all : List MonsterInstance) : ℕ × ℤ :=
  all.zipIdx.foldl
    (fun weak m => if getMonsterPower m.1 < weak.2 then (m.2, getMonsterPower m.1) else weak)
    (0, (all.head?.map getMonsterPower).getD 0)

/-- The party fills first, then the box; a full roster gives its weakest up for a stronger one. -/
def placeNewMonster (trainer : Trainer) (newMon : MonsterInstance) : PlacementResult × Trainer :=
  if trainer.team.length < partySize then
    (⟨true, .party, none⟩, { trainer with team := trainer.team ++ [newMon] })
  else if trainer.box.length < boxSize then
    (⟨true, .box, none⟩, { trainer with box := trainer.box ++ [newMon] })
  else
    let weak := weakestIdx (trainer.team ++ trainer.box)
    if getMonsterPower newMon ≤ weak.2 then (⟨false, .none, none⟩, trainer)
    else if weak.1 < trainer.team.length then
      (⟨true, .party, trainer.team[weak.1]?⟩,
        { trainer with team := trainer.team.eraseIdx weak.1 ++ [newMon] })
    else
      let boxIdx := weak.1 - trainer.team.length
      (⟨true, .box, trainer.box[boxIdx]?⟩,
        { trainer with box := trainer.box.eraseIdx boxIdx ++ [newMon] })

/-- `all.reduce((w, m) => (power(m) < power(w) ? m : w))`, nothing for an empty roster. -/
def weakestOf : List MonsterInstance → Option MonsterInstance
  | [] => none
  | first :: rest =>
    some (rest.foldl (fun w m => if getMonsterPower m < getMonsterPower w then m else w) first)

/-- `!weakest || newPower > getMonsterPower(weakest)`. -/
def isUpgrade (all : List MonsterInstance) (wild : MonsterInstance) : Bool :=
  match weakestOf all with
  | none => true
  | some weakest => getMonsterPower weakest < getMonsterPower wild

/-- Whether a wild monster is worth a ball. -/
def shouldCatch (trainer : Trainer) (wild : MonsterInstance) : Bool :=
  let strat := trainer.strat
  if strat.catchEnabled = some false then false
  else if trainer.items.ball ≤ 0 then false
  else
    let isRareOrLegend := wild.rarity = some .rare || wild.rarity = some .legendary
    let rareOverride := isRareOrLegend && strat.prioritizeRare ≠ some false
    let typeAllowed :=
      match strat.catchTypes with
      | none => true
      | some types => types.lookup wild.type ≠ some false
    let sameTypeCount := (trainer.team.filter fun m => m.type = wild.type).length
    let typeSlotOpen := decide (sameTypeCount < sameTypeLimit)
    let hasDup :=
      trainer.team.any (fun m => m.templateId = wild.templateId) ||
        trainer.box.any (fun m => m.templateId = wild.templateId)
    if hasDup then false
    else
      let all := trainer.team ++ trainer.box
      let rosterHasRoom := decide (all.length < partySize + boxSize)
      if !(rareOverride || (typeAllowed && typeSlotOpen)) then false
      else rosterHasRoom || isUpgrade all wild

end Pokeage.Game
