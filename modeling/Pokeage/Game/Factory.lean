import Pokeage.Game.Data.Monsters
import Pokeage.Game.Data.World
import Pokeage.Game.Engine
import Pokeage.Game.Exact

/-!
# New trainers

`factory.ts`, and the engine that its tests start from.
-/

namespace Pokeage.Game

/-- What a host may choose about a new trainer. -/
structure NewTrainerOptions where
  starterId : Option ℕ
  starterLevel : Option ℤ
  balls : Option ℤ
  location : Option String
  deriving DecidableEq, Repr

/-- `{}`. -/
def NewTrainerOptions.empty : NewTrainerOptions := ⟨none, none, none, none⟩

variable (fl : Floats)

/-- A fresh trainer with a single starter and a few balls. -/
def newTrainer (id name : String) (registry : Registry)
    (opts : NewTrainerOptions := .empty) : Trainer where
  id := id
  name := name
  team :=
    match registry.getMonsterById (opts.starterId.getD 1) with
    | some tpl => [createMonsterInstance fl tpl (opts.starterLevel.getD 5)]
    | none => []
  box := []
  badges := []
  location := opts.location.getD "seedling"
  items := ⟨opts.balls.getD 10, []⟩
  totalBattles := 0
  totalCaught := 0
  strategy := some .empty

variable {fl} {id name : String} {registry : Registry} {opts : NewTrainerOptions}

/-- The team is the starter, or nobody if the registry does not know it. -/
theorem mem_newTrainer_team {m : MonsterInstance}
    (h : m ∈ (newTrainer fl id name registry opts).team) :
    ∃ tpl, registry.getMonsterById (opts.starterId.getD 1) = some tpl ∧
      m = createMonsterInstance fl tpl (opts.starterLevel.getD 5) := by
  unfold newTrainer at h
  dsimp only at h
  split at h
  · next tpl known => exact ⟨tpl, known, List.mem_singleton.1 h⟩
  · cases h

theorem newTrainer_team_length : (newTrainer fl id name registry opts).team.length ≤ 1 := by
  unfold newTrainer
  dsimp only
  split <;> simp

/-! ## The engine of the tests -/

/-- The sample world and roster, without boosts. -/
def sampleEnv : Env := ⟨exactFloats, world, sampleRegistry.getMonsterById, ⟨none, none⟩⟩

/-- The trainer of the tests: a fire starter at level six and twenty balls. -/
def freshTrainer : Trainer :=
  newTrainer exactFloats "p1" "TESTER" sampleRegistry ⟨some 4, some 6, some 20, none⟩

/-- `freshEngine` of `tests/engine.test.ts`. -/
def freshEngine (seed : UInt32) : Engine := Engine.new freshTrainer (Rng.new seed)

end Pokeage.Game
