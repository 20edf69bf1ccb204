import Pokeage.Game.Types

/-!
# The sample roster

`data/monsters.ts`.
-/

namespace Pokeage.Game

/-- `SAMPLE_MONSTERS`. -/
def sampleMonsters : List MonsterTemplate := [
  -- grass starter line
  { id := 1, name := "Sprigthorn", type := .grass, asset := "sprigthorn", base := ⟨45, 49, 49, 45⟩
    stage1 := some ⟨60, 62, 63, 60⟩, stage2 := some ⟨80, 82, 83, 80⟩, ev1 := some 16, ev2 := some 32
    rarity := some .common, rarityTier := some .uncommon },
  { id := 2, name := "Thornmaw", type := .grass, asset := "thornmaw", base := ⟨60, 62, 63, 60⟩
    stage1 := none, stage2 := some ⟨80, 82, 83, 80⟩, ev1 := none, ev2 := some 32
    rarity := some .common, rarityTier := some .rare },
  { id := 3, name := "Verdrake", type := .grass, asset := "verdrake", base := ⟨80, 82, 83, 80⟩
    stage1 := none, stage2 := none, ev1 := none, ev2 := none
    rarity := some .rare, rarityTier := some .holo },
  -- fire starter line
  { id := 4, name := "Cindercub", type := .fire, asset := "cindercub", base := ⟨39, 52, 43, 65⟩
    stage1 := some ⟨58, 64, 58, 80⟩, stage2 := some ⟨78, 84, 78, 100⟩, ev1 := some 16, ev2 := some 32
    rarity := some .common, rarityTier := some .uncommon },
  { id := 5, name := "Blazepaw", type := .fire, asset := "blazepaw", base := ⟨58, 64, 58, 80⟩
    stage1 := none, stage2 := some ⟨78, 84, 78, 100⟩, ev1 := none, ev2 := some 32
    rarity := some .common, rarityTier := some .rare },
  { id := 6, name := "Pyrothane", type := .fire, asset := "pyrothane", base := ⟨78, 84, 78, 100⟩
    stage1 := none, stage2 := none, ev1 := none, ev2 := none
    rarity := some .rare, rarityTier := some .holo },
  -- water starter line
  { id := 7, name := "Drizzlefin", type := .water, asset := "drizzlefin", base := ⟨44, 48, 65, 43⟩
    stage1 := some ⟨59, 63, 80, 58⟩, stage2 := some ⟨79, 83, 100, 78⟩, ev1 := some 16, ev2 := some 32
    rarity := some .common, rarityTier := some .uncommon },
  { id := 8, name := "Tidewhisk", type := .water, asset := "tidewhisk", base := ⟨59, 63, 80, 58⟩
    stage1 := none, stage2 := some ⟨79, 83, 100, 78⟩, ev1 := none, ev2 := some 32
    rarity := some .common, rarityTier := some .rare },
  { id := 9, name := "Maeltide", type := .water, asset := "maeltide", base := ⟨79, 83, 100, 78⟩
    stage1 := none, stage2 := none, ev1 := none, ev2 := none
    rarity := some .rare, rarityTier := some .holo },
  -- electric two-stage
  { id := 10, name := "Sparkit", type := .electric, asset := "sparkit", base := ⟨35, 45, 40, 70⟩
    stage1 := some ⟨55, 70, 55, 100⟩, stage2 := none, ev1 := some 22, ev2 := none
    rarity := some .common, rarityTier := some .common },
  { id := 11, name := "Voltyx", type := .electric, asset := "voltyx", base := ⟨55, 70, 55, 100⟩
    stage1 := none, stage2 := none, ev1 := none, ev2 := none
    rarity := some .common, rarityTier := some .uncommon },
  -- rock two-stage
  { id := 12, name := "Pebblet", type := .rock, asset := "pebblet", base := ⟨50, 55, 80, 25⟩
    stage1 := some ⟨70, 75, 110, 40⟩, stage2 := none, ev1 := some 24, ev2 := none
    rarity := some .common, rarityTier := some .common },
  { id := 13, name := "Boulderon", type := .rock, asset := "boulderon", base := ⟨70, 75, 110, 40⟩
    stage1 := none, stage2 := none, ev1 := none, ev2 := none
    rarity := some .common, rarityTier := some .uncommon },
  -- ice two-stage
  { id := 14, name := "Frostnip", type := .ice, asset := "frostnip", base := ⟨50, 50, 50, 50⟩
    stage1 := some ⟨75, 70, 70, 70⟩, stage2 := none, ev1 := some 28, ev2 := none
    rarity := some .common, rarityTier := some .common },
  { id := 15, name := "Glacialox", type := .ice, asset := "glacialox", base := ⟨75, 70, 70, 70⟩
    stage1 := none, stage2 := none, ev1 := none, ev2 := none
    rarity := some .common, rarityTier := some .uncommon },
  -- bug two-stage
  { id := 16, name := "Mothlet", type := .bug, asset := "mothlet", base := ⟨40, 35, 30, 50⟩
    stage1 := some ⟨60, 55, 50, 75⟩, stage2 := none, ev1 := some 12, ev2 := none
    rarity := some .common, rarityTier := some .common },
  { id := 17, name := "Dustwing", type := .bug, asset := "dustwing", base := ⟨60, 55, 50, 75⟩
    stage1 := none, stage2 := none, ev1 := none, ev2 := none
    rarity := some .common, rarityTier := some .common },
  -- poison two-stage
  { id := 18, name := "Sludgeling", type := .poison, asset := "sludgeling", base := ⟨55, 50, 48, 42⟩
    stage1 := some ⟨80, 72, 68, 58⟩, stage2 := none, ev1 := some 24, ev2 := none
    rarity := some .common, rarityTier := some .common },
  { id := 19, name := "Toxiboar", type := .poison, asset := "toxiboar", base := ⟨80, 72, 68, 58⟩
    stage1 := none, stage2 := none, ev1 := none, ev2 := none
    rarity := some .common, rarityTier := some .uncommon },
  -- ghost two-stage
  { id := 20, name := "Wispurr", type := .ghost, asset := "wispurr", base := ⟨45, 50, 45, 65⟩
    stage1 := some ⟨65, 75, 65, 95⟩, stage2 := none, ev1 := some 26, ev2 := none
    rarity := some .common, rarityTier := some .uncommon },
  { id := 21, name := "Phantomane", type := .ghost, asset := "phantomane", base := ⟨65, 75, 65, 95⟩
    stage1 := none, stage2 := none, ev1 := none, ev2 := none
    rarity := some .rare, rarityTier := some .rare },
  -- flying two-stage
  { id := 22, name := "Hatchick", type := .flying, asset := "hatchick", base := ⟨40, 45, 40, 56⟩
    stage1 := some ⟨65, 70, 60, 90⟩, stage2 := none, ev1 := some 18, ev2 := none
    rarity := some .common, rarityTier := some .common },
  { id := 23, name := "Skyroost", type := .flying, asset := "skyroost", base := ⟨65, 70, 60, 90⟩
    stage1 := none, stage2 := none, ev1 := none, ev2 := none
    rarity := some .common, rarityTier := some .uncommon },
  -- single-stage species
  { id := 24, name := "Gritmole", type := .ground, asset := "gritmole", base := ⟨60, 80, 60, 55⟩
    stage1 := none, stage2 := none, ev1 := none, ev2 := none
    rarity := some .common, rarityTier := some .uncommon },
  { id := 25, name := "Mindkit", type := .psychic, asset := "mindkit", base := ⟨55, 70, 55, 80⟩
    stage1 := none, stage2 := none, ev1 := none, ev2 := none
    rarity := some .common, rarityTier := some .uncommon },
  { id := 26, name := "Jabette", type := .fighting, asset := "jabette", base := ⟨65, 85, 60, 60⟩
    stage1 := none, stage2 := none, ev1 := none, ev2 := none
    rarity := some .common, rarityTier := some .uncommon },
  { id := 27, name := "Ironhide", type := .steel, asset := "ironhide", base := ⟨70, 70, 95, 40⟩
    stage1 := none, stage2 := none, ev1 := none, ev2 := none
    rarity := some .common, rarityTier := some .uncommon },
  { id := 28, name := "Dapplefawn", type := .normal, asset := "dapplefawn", base := ⟨55, 55, 50, 60⟩
    stage1 := none, stage2 := none, ev1 := none, ev2 := none
    rarity := some .common, rarityTier := some .common },
  { id := 29, name := "Bramblepup", type := .grass, asset := "bramblepup", base := ⟨50, 60, 48, 58⟩
    stage1 := none, stage2 := none, ev1 := none, ev2 := none
    rarity := some .common, rarityTier := some .common },
  { id := 30, name := "Tideling", type := .water, asset := "tideling", base := ⟨50, 50, 55, 55⟩
    stage1 := none, stage2 := none, ev1 := none, ev2 := none
    rarity := some .common, rarityTier := some .common },
  -- extra two-stage lines
  { id := 31, name := "Cobblepup", type := .ground, asset := "cobblepup", base := ⟨55, 65, 55, 50⟩
    stage1 := some ⟨80, 95, 80, 65⟩, stage2 := none, ev1 := some 25, ev2 := none
    rarity := some .common, rarityTier := some .common },
  { id := 32, name := "Terradon", type := .ground, asset := "terradon", base := ⟨80, 95, 80, 65⟩
    stage1 := none, stage2 := none, ev1 := none, ev2 := none
    rarity := some .common, rarityTier := some .uncommon },
  { id := 33, name := "Sparrowkit", type := .flying, asset := "sparrowkit", base := ⟨42, 50, 42, 70⟩
    stage1 := some ⟨62, 75, 60, 100⟩, stage2 := none, ev1 := some 20, ev2 := none
    rarity := some .common, rarityTier := some .common },
  { id := 34, name := "Galehawk", type := .flying, asset := "galehawk", base := ⟨62, 75, 60, 100⟩
    stage1 := none, stage2 := none, ev1 := none, ev2 := none
    rarity := some .common, rarityTier := some .uncommon },
  { id := 35, name := "Emberling", type := .fire, asset := "emberling", base := ⟨48, 58, 44, 62⟩
    stage1 := some ⟨72, 86, 64, 88⟩, stage2 := none, ev1 := some 26, ev2 := none
    rarity := some .common, rarityTier := some .uncommon },
  { id := 36, name := "Magnaroar", type := .fire, asset := "magnaroar", base := ⟨72, 86, 64, 88⟩
    stage1 := none, stage2 := none, ev1 := none, ev2 := none
    rarity := some .rare, rarityTier := some .rare },
  { id := 37, name := "Ripplet", type := .water, asset := "ripplet", base := ⟨52, 48, 58, 50⟩
    stage1 := some ⟨78, 70, 84, 66⟩, stage2 := none, ev1 := some 24, ev2 := none
    rarity := some .common, rarityTier := some .common },
  { id := 38, name := "Aquadon", type := .water, asset := "aquadon", base := ⟨78, 70, 84, 66⟩
    stage1 := none, stage2 := none, ev1 := none, ev2 := none
    rarity := some .common, rarityTier := some .uncommon },
  { id := 39, name := "Cinderfox", type := .fire, asset := "cinderfox", base := ⟨46, 60, 44, 72⟩
    stage1 := none, stage2 := none, ev1 := none, ev2 := none
    rarity := some .common, rarityTier := some .uncommon },
  -- extra single-stage species
  { id := 43, name := "Boltpup", type := .electric, asset := "boltpup", base := ⟨48, 58, 46, 78⟩
    stage1 := none, stage2 := none, ev1 := none, ev2 := none
    rarity := some .common, rarityTier := some .common },
  { id := 44, name := "Spinekoi", type := .water, asset := "spinekoi", base := ⟨54, 52, 60, 48⟩
    stage1 := none, stage2 := none, ev1 := none, ev2 := none
    rarity := some .common, rarityTier := some .common },
  { id := 45, name := "Glimmernewt", type := .psychic, asset := "glimmernewt", base := ⟨50, 72, 50, 76⟩
    stage1 := none, stage2 := none, ev1 := none, ev2 := none
    rarity := some .common, rarityTier := some .uncommon },
  { id := 46, name := "Thornhog", type := .grass, asset := "thornhog", base := ⟨62, 64, 66, 44⟩
    stage1 := none, stage2 := none, ev1 := none, ev2 := none
    rarity := some .common, rarityTier := some .uncommon },
  { id := 47, name := "Cragmaw", type := .rock, asset := "cragmaw", base := ⟨64, 78, 88, 36⟩
    stage1 := none, stage2 := none, ev1 := none, ev2 := none
    rarity := some .common, rarityTier := some .uncommon },
  { id := 48, name := "Frostkit", type := .ice, asset := "frostkit", base := ⟨50, 54, 52, 58⟩
    stage1 := none, stage2 := none, ev1 := none, ev2 := none
    rarity := some .common, rarityTier := some .common },
  { id := 49, name := "Shadeling", type := .dark, asset := "shadeling", base := ⟨52, 70, 50, 72⟩
    stage1 := none, stage2 := none, ev1 := none, ev2 := none
    rarity := some .common, rarityTier := some .uncommon },
  { id := 50, name := "Mossback", type := .bug, asset := "mossback", base := ⟨58, 56, 62, 46⟩
    stage1 := none, stage2 := none, ev1 := none, ev2 := none
    rarity := some .common, rarityTier := some .common },
  -- legendaries (no evolution)
  { id := 40, name := "Voltaire", type := .electric, asset := "voltaire", base := ⟨90, 110, 85, 130⟩
    stage1 := none, stage2 := none, ev1 := none, ev2 := none
    rarity := some .legendary, rarityTier := some .secret },
  { id := 41, name := "Terravorg", type := .dragon, asset := "terravorg", base := ⟨100, 130, 110, 90⟩
    stage1 := none, stage2 := none, ev1 := none, ev2 := none
    rarity := some .legendary, rarityTier := some .secret },
  { id := 42, name := "Umbroth", type := .dark, asset := "umbroth", base := ⟨95, 115, 95, 105⟩
    stage1 := none, stage2 := none, ev1 := none, ev2 := none
    rarity := some .legendary, rarityTier := some .secret } ]

/-- What is found under an id carries it. -/
structure Registry where
  getMonsterById : TemplateResolver
  all : List MonsterTemplate
  keyed : ∀ {id : ℕ} {tpl : MonsterTemplate}, getMonsterById id = some tpl → tpl.id = id

/-- The species of a roster by id. A later entry takes the place of an earlier one with its id. -/
def createRegistry (roster : List MonsterTemplate := sampleMonsters) : Registry where
  getMonsterById := fun id => roster.reverse.find? fun tpl => tpl.id = id
  all := roster
  keyed := fun found => by simpa using List.find?_some found

/-- The sample roster by id. -/
def sampleRegistry : Registry := createRegistry

/-- A registry finds nothing but entries of its roster. -/
theorem mem_of_createRegistry {roster : List MonsterTemplate} {id : ℕ} {tpl : MonsterTemplate}
    (found : (createRegistry roster).getMonsterById id = some tpl) : tpl ∈ roster := by
  unfold createRegistry at found
  exact List.mem_reverse.1 (List.mem_of_find?_eq_some found)

end Pokeage.Game
