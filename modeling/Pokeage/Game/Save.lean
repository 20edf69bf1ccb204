import Pokeage.Game.Engine

/-!
# Saving and loading

`save.ts`. A save holds the trainer without cached moves, and the state of the generator. Loading
puts defaults where a field is missing or falsy.
-/

namespace Pokeage.Game

/-- `SAVE_VERSION`. -/
def saveVersion : ℕ := 1

/-- What is written down of a run. -/
structure SavedGame where
  version : ℕ
  trainer : Trainer
  rngState : Option UInt32
  deriving DecidableEq, Repr

/-! ## Saving -/

/-- A monster without its cached moves. -/
def stripMon (m : MonsterInstance) : MonsterInstance := { m with moves := none }

/-- A trainer with no move cached. -/
def Trainer.stripped (t : Trainer) : Trainer :=
  { t with team := t.team.map stripMon, box := t.box.map stripMon }

/-- The save of a trainer, with the generator's state if the run is to be resumed. -/
def saveTrainer (trainer : Trainer) (rngState : Option UInt32) : SavedGame where
  version := saveVersion
  trainer := trainer.stripped
  rngState := rngState

/-! ## Loading -/

/-- Hit points that are there, be they zero, stay: their default is for `null` only. -/
def normalizeMon (m : MonsterInstance) : MonsterInstance :=
  { m with
    xp := orElse m.xp 0
    stage := orElse m.stage 0
    affection := orElse m.affection 0 }

@[simp] theorem normalizeMon_eq (m : MonsterInstance) : normalizeMon m = m := by
  unfold normalizeMon
  simp only [orElse_zero]

/-- `t.location || 'seedling'`. -/
def loadLocation (location : String) : String := if location = "" then "seedling" else location

/-- Lists and item counts are objects, which are never falsy. -/
def loadTrainer (save : SavedGame) : Except String Trainer :=
  if save.version ≠ saveVersion then
    .error ("unsupported save version " ++ toString save.version)
  else
    let t := save.trainer
    .ok {
      id := t.id
      name := t.name
      team := t.team.map normalizeMon
      box := t.box.map normalizeMon
      badges := t.badges
      location := loadLocation t.location
      items := t.items
      totalBattles := orElse t.totalBattles 0
      totalCaught := orElse t.totalCaught 0
      strategy := some t.strat }

/-- What loading makes of a trainer it was given whole. -/
theorem loadTrainer_saveTrainer (t : Trainer) (rngState : Option UInt32) :
    loadTrainer (saveTrainer t rngState) =
      .ok { t.stripped with location := loadLocation t.location, strategy := some t.strat } := by
  have normal : normalizeMon = id := funext normalizeMon_eq
  unfold loadTrainer saveTrainer
  simp only [normal, orElse_zero, ne_eq, not_true, if_false, List.map_id, Trainer.stripped,
    Trainer.strat]

/-! ## Saving and resuming a run -/

/-- What a run writes down: its trainer and a snapshot of its generator. -/
def Engine.save (e : Engine) : SavedGame := saveTrainer e.trainer (some e.rng.snapshot)

/-- A new engine on a loaded trainer, with a generator restored from the save if there is one. -/
def Engine.resume (save : SavedGame) : Except String Engine := do
  let trainer ← loadTrainer save
  let rng :=
    match save.rngState with
    | some state => Rng.new.restore state
    | none => Rng.new
  return Engine.new trainer rng

/-- What comes back of a save: the trainer without caches, and no cooldown. -/
theorem Engine.resume_save (e : Engine) :
    Engine.resume e.save =
      .ok (Engine.new
        { e.trainer.stripped with
          location := loadLocation e.trainer.location
          strategy := some e.trainer.strat } e.rng) := by
  unfold Engine.resume Engine.save
  rw [loadTrainer_saveTrainer]
  rfl

end Pokeage.Game
