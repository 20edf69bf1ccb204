import Mathlib.Data.List.Sort
import Pokeage.Game.Types

/-!
# Moves

The move data of `moves.ts`.
-/

namespace Pokeage.Game

/-- Every move: id, name, type, power, accuracy, points, status with its chance, and two flags. -/
def moves : List Move := [
  -- normal
  ⟨1, "Strike Hit", .normal, 40, 100, 35, none, 0, false, false⟩,
  ⟨2, "Body Ram", .normal, 60, 100, 20, none, 0, false, false⟩,
  ⟨3, "Power Smash", .normal, 85, 95, 15, none, 0, false, false⟩,
  ⟨4, "Final Charge", .normal, 110, 85, 5, none, 0, false, false⟩,
  ⟨5, "Rapid Jab", .normal, 18, 85, 30, none, 0, false, true⟩,
  -- fire
  ⟨10, "Ember Lash", .fire, 40, 100, 25, (some "burn"), 10, false, false⟩,
  ⟨11, "Flame Burst", .fire, 65, 100, 15, (some "burn"), 10, false, false⟩,
  ⟨12, "Inferno Wave", .fire, 90, 95, 10, (some "burn"), 20, false, false⟩,
  ⟨13, "Solar Pyre", .fire, 115, 85, 5, (some "burn"), 30, false, false⟩,
  -- water
  ⟨20, "Splash Jet", .water, 40, 100, 25, none, 0, false, false⟩,
  ⟨21, "Tide Pulse", .water, 65, 100, 15, none, 0, false, false⟩,
  ⟨22, "Torrent Crash", .water, 90, 95, 10, none, 0, false, false⟩,
  ⟨23, "Abyssal Surge", .water, 115, 85, 5, none, 0, false, false⟩,
  -- grass
  ⟨30, "Vine Snap", .grass, 40, 100, 25, none, 0, false, false⟩,
  ⟨31, "Leaf Storm", .grass, 65, 100, 15, none, 0, false, false⟩,
  ⟨32, "Bloom Beam", .grass, 90, 95, 10, (some "poison"), 15, false, false⟩,
  ⟨33, "Verdant Wrath", .grass, 115, 85, 5, none, 0, false, false⟩,
  -- electric
  ⟨40, "Spark Nip", .electric, 40, 100, 25, (some "paralyze"), 10, false, false⟩,
  ⟨41, "Volt Arc", .electric, 65, 100, 15, (some "paralyze"), 15, false, false⟩,
  ⟨42, "Thunder Lance", .electric, 90, 90, 10, (some "paralyze"), 25, false, false⟩,
  ⟨43, "Storm Break", .electric, 115, 80, 5, (some "paralyze"), 30, false, false⟩,
  -- ice
  ⟨50, "Frost Bite", .ice, 40, 100, 25, (some "freeze"), 5, false, false⟩,
  ⟨51, "Glacier Edge", .ice, 65, 100, 15, (some "freeze"), 10, false, false⟩,
  ⟨52, "Blizzard Veil", .ice, 90, 90, 10, (some "freeze"), 15, false, false⟩,
  ⟨53, "Permafrost", .ice, 115, 80, 5, (some "freeze"), 20, false, false⟩,
  -- fighting
  ⟨60, "Quick Kick", .fighting, 45, 100, 25, none, 0, false, false⟩,
  ⟨61, "Iron Fist", .fighting, 70, 100, 15, none, 0, false, false⟩,
  ⟨62, "Crushing Blow", .fighting, 95, 90, 10, none, 0, true, false⟩,
  ⟨63, "Titan Strike", .fighting, 120, 80, 5, none, 0, false, false⟩,
  -- poison
  ⟨70, "Venom Sting", .poison, 40, 100, 25, (some "poison"), 20, false, false⟩,
  ⟨71, "Toxic Spray", .poison, 65, 100, 15, (some "poison"), 30, false, false⟩,
  ⟨72, "Sludge Wave", .poison, 90, 95, 10, (some "poison"), 40, false, false⟩,
  -- ground
  ⟨80, "Mud Slap", .ground, 40, 100, 25, none, 0, false, false⟩,
  ⟨81, "Rock Drill", .ground, 65, 100, 15, none, 0, false, false⟩,
  ⟨82, "Quake Stomp", .ground, 95, 95, 10, none, 0, false, false⟩,
  ⟨83, "Fault Rupture", .ground, 120, 80, 5, none, 0, false, false⟩,
  -- flying
  ⟨90, "Wing Cut", .flying, 40, 100, 25, none, 0, false, false⟩,
  ⟨91, "Gale Dive", .flying, 70, 100, 15, none, 0, false, false⟩,
  ⟨92, "Cyclone Rush", .flying, 95, 90, 10, none, 0, false, false⟩,
  -- psychic
  ⟨100, "Mind Jab", .psychic, 40, 100, 25, none, 0, false, false⟩,
  ⟨101, "Psy Pulse", .psychic, 65, 100, 15, none, 0, false, false⟩,
  ⟨102, "Astral Beam", .psychic, 90, 95, 10, none, 0, false, false⟩,
  ⟨103, "Void Collapse", .psychic, 115, 85, 5, none, 0, false, false⟩,
  -- bug
  ⟨110, "Pin Nip", .bug, 40, 100, 25, none, 0, false, false⟩,
  ⟨111, "Swarm Bite", .bug, 65, 100, 15, none, 0, false, true⟩,
  ⟨112, "Hive Frenzy", .bug, 90, 90, 10, none, 0, false, false⟩,
  -- rock
  ⟨120, "Pebble Toss", .rock, 40, 95, 25, none, 0, false, false⟩,
  ⟨121, "Boulder Hurl", .rock, 70, 90, 15, none, 0, false, false⟩,
  ⟨122, "Stone Avalanche", .rock, 95, 85, 10, none, 0, false, false⟩,
  -- ghost
  ⟨130, "Shade Touch", .ghost, 40, 100, 25, none, 0, false, false⟩,
  ⟨131, "Phantom Hex", .ghost, 65, 100, 15, none, 0, false, false⟩,
  ⟨132, "Wraith Lance", .ghost, 90, 95, 10, none, 0, true, false⟩,
  -- dragon
  ⟨140, "Scale Rake", .dragon, 50, 100, 20, none, 0, false, false⟩,
  ⟨141, "Dragon Pulse", .dragon, 80, 100, 12, none, 0, false, false⟩,
  ⟨142, "Tempest Roar", .dragon, 110, 90, 6, none, 0, false, false⟩,
  -- dark
  ⟨150, "Sneak Bite", .dark, 40, 100, 25, none, 0, true, false⟩,
  ⟨151, "Night Slash", .dark, 70, 100, 15, none, 0, true, false⟩,
  ⟨152, "Abyss Maul", .dark, 95, 90, 10, none, 0, false, false⟩,
  -- steel
  ⟨160, "Metal Tap", .steel, 40, 100, 25, none, 0, false, false⟩,
  ⟨161, "Gear Grind", .steel, 65, 100, 15, none, 0, false, false⟩,
  ⟨162, "Anvil Drop", .steel, 95, 90, 10, none, 0, false, false⟩]

/-- The attack moves of a type, sorted by ascending power. The sort is stable. -/
def movesByType (type : MonsterType) : List Move :=
  (moves.filter fun mv => 0 < mv.power ∧ mv.type = type).insertionSort
    fun a b => a.power ≤ b.power

/-- What a monster does that has no move to pick from. -/
def fallbackMove : Move := ⟨0, "Strike Hit", .normal, 40, 100, 35, none, 0, false, false⟩

end Pokeage.Game
