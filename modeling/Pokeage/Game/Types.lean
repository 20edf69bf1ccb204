import Mathlib.Data.Rat.Floor
import Mathlib.Tactic.Common

/-!
# Data of the game engine

`types.ts`. Levels, stats, hit points, experience and item counts are integers; odds, rates and
affection are fractions. Of the records, the fields that only a display reads are left out.

Integer arithmetic is exact: an integer stands for the number of a script as long as it is within 2⁵³,
where doubles hold every integer. What a fraction becomes when a JavaScript number stores it is a parameter
of the engine (`Floats`), and so is `Math.pow`.
-/

namespace Pokeage.Game

/-- How the machine rounds the result of an operation on fractions, and its `Math.pow`. -/
structure Floats where
  round : ℚ → ℚ
  pow : ℚ → ℚ → ℚ

instance : CoeFun Floats fun _ => ℚ → ℚ := ⟨Floats.round⟩

/-- `x || d` on numbers. -/
def orElse {α : Type} [Zero α] [DecidableEq α] (x d : α) : α := if x = 0 then d else x

@[simp] theorem orElse_zero {α : Type} [Zero α] [DecidableEq α] (x : α) : orElse x 0 = x := by
  unfold orElse
  split <;> simp [*]

/-! ## Species and monsters -/

/-- The seventeen types. -/
inductive MonsterType where
  | normal
  | fire
  | water
  | grass
  | electric
  | ice
  | fighting
  | poison
  | ground
  | flying
  | psychic
  | bug
  | rock
  | ghost
  | dragon
  | dark
  | steel
  deriving DecidableEq, Repr

/-- Gameplay rarity. -/
inductive Rarity where
  | common
  | rare
  | legendary
  deriving DecidableEq, Repr

/-- Card rarity tiers, in the order of their on-chain codes. -/
inductive RarityTier where
  | common
  | uncommon
  | rare
  | holo
  | ultra
  | secret
  deriving DecidableEq, Repr

/-- The four stats. -/
structure Stats where
  hp : ℤ
  atk : ℤ
  defense : ℤ
  spd : ℤ
  deriving DecidableEq, Repr

/-- A species. Legendaries leave `ev1` and `ev2` out. -/
structure MonsterTemplate where
  id : ℕ
  name : String
  type : MonsterType
  asset : String
  base : Stats
  stage1 : Option Stats
  stage2 : Option Stats
  ev1 : Option ℤ
  ev2 : Option ℤ
  rarity : Option Rarity
  rarityTier : Option RarityTier
  deriving DecidableEq, Repr

/-- A move. A `power` of zero only inflicts a status. -/
structure Move where
  id : ℕ
  name : String
  type : MonsterType
  power : ℤ
  acc : ℤ
  pp : ℤ
  status : Option String
  effChance : ℤ
  crit : Bool
  multi : Bool
  deriving DecidableEq, Repr

/-- A concrete monster. `moves` is a cache that battles fill. -/
structure MonsterInstance where
  templateId : ℕ
  name : String
  type : MonsterType
  asset : String
  level : ℤ
  xp : ℤ
  stage : ℤ
  stats : Stats
  currentHP : ℤ
  targetStats : Stats
  ev1 : Option ℤ
  ev2 : Option ℤ
  rarity : Option Rarity
  rarityTier : Option RarityTier
  affection : ℚ
  moves : Option (List Move)
  deriving DecidableEq, Repr

/-- Where a resolver finds species by id. -/
abbrev TemplateResolver := ℕ → Option MonsterTemplate

/-! ## The world -/

/-- One monster of a leader's team. -/
structure GymEntry where
  monsterId : ℕ
  level : ℤ
  deriving DecidableEq, Repr

/-- A gym, its badge and its place in the order. -/
structure Gym where
  leader : String
  type : MonsterType
  badge : String
  team : List GymEntry
  order : ℤ
  deriving DecidableEq, Repr

/-- A town, with the next one and the badge that opens it. -/
structure Town where
  id : String
  name : String
  gym : Option Gym
  routes : List String
  nextTown : Option String
  requiredBadge : Option String
  deriving DecidableEq, Repr

/-- A route and what lives there. -/
structure Route where
  id : String
  name : String
  levelRange : ℤ × ℤ
  wildPool : List ℕ
  rarePool : List ℕ
  encounterRate : ℚ
  deriving DecidableEq, Repr

/-- The map. -/
structure World where
  towns : List Town
  routes : List Route
  deriving DecidableEq, Repr

/-! ## Trainers -/

/-- Item counts. `ball` is the one the engine spends. -/
structure TrainerItems where
  ball : ℤ
  others : List (String × ℤ)
  deriving DecidableEq, Repr

/-- Flags of the autonomous loop. One that is absent counts as on. -/
structure Strategy where
  autoHeal : Option Bool
  autoGym : Option Bool
  autoMove : Option Bool
  catchEnabled : Option Bool
  prioritizeRare : Option Bool
  catchTypes : Option (List (MonsterType × Bool))
  deriving DecidableEq, Repr

/-- `{}`. -/
def Strategy.empty : Strategy := ⟨none, none, none, none, none, none⟩

/-- A trainer, as a run changes it and a save holds it. -/
structure Trainer where
  id : String
  name : String
  team : List MonsterInstance
  box : List MonsterInstance
  badges : List String
  location : String
  items : TrainerItems
  totalBattles : ℕ
  totalCaught : ℕ
  strategy : Option Strategy
  deriving DecidableEq, Repr

/-- `trainer.strategy || {}`. -/
def Trainer.strat (t : Trainer) : Strategy := t.strategy.getD .empty

end Pokeage.Game
