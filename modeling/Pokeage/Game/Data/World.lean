import Pokeage.Game.Types

/-!
# World data

`data/world.ts`: twelve towns in a row, each of which gates the next behind a badge.
-/

namespace Pokeage.Game

/-- `TOWNS`. -/
def towns : List Town := [
  { id := "seedling", name := "SEEDLING TOWN"
    gym := some {
      leader := "MOLLY", type := .normal, badge := "NORMAL", order := 0
      team := [⟨28, 5⟩, ⟨22, 6⟩, ⟨24, 7⟩] }
    routes := ["route-1"], nextTown := some "thornwood", requiredBadge := none },
  { id := "thornwood", name := "THORNWOOD"
    gym := some {
      leader := "BUZZ", type := .bug, badge := "INSECT", order := 1
      team := [⟨16, 8⟩, ⟨29, 9⟩, ⟨17, 11⟩] }
    routes := ["route-2"], nextTown := some "ironridge", requiredBadge := some "NORMAL" },
  { id := "ironridge", name := "IRONRIDGE CITY"
    gym := some {
      leader := "ROCKY", type := .rock, badge := "BOULDER", order := 2
      team := [⟨12, 12⟩, ⟨24, 13⟩, ⟨13, 15⟩] }
    routes := ["route-3"], nextTown := some "rivercrest", requiredBadge := some "INSECT" },
  { id := "rivercrest", name := "RIVERCREST CITY"
    gym := some {
      leader := "SPLASH", type := .water, badge := "STREAM", order := 3
      team := [⟨30, 18⟩, ⟨7, 19⟩, ⟨8, 21⟩] }
    routes := ["route-4"], nextTown := some "voltport", requiredBadge := some "BOULDER" },
  { id := "voltport", name := "VOLTPORT"
    gym := some {
      leader := "STORM", type := .electric, badge := "BOLT", order := 4
      team := [⟨10, 21⟩, ⟨23, 23⟩, ⟨11, 25⟩] }
    routes := ["route-5"], nextTown := some "bloomvale", requiredBadge := some "STREAM" },
  { id := "bloomvale", name := "BLOOMVALE"
    gym := some {
      leader := "CLOVER", type := .grass, badge := "BLOOM", order := 5
      team := [⟨29, 27⟩, ⟨1, 28⟩, ⟨2, 30⟩] }
    routes := ["route-6"], nextTown := some "mistveil", requiredBadge := some "BOLT" },
  { id := "mistveil", name := "MISTVEIL"
    gym := some {
      leader := "SLUDGE", type := .poison, badge := "MURK", order := 6
      team := [⟨18, 32⟩, ⟨19, 33⟩, ⟨19, 35⟩] }
    routes := ["route-7"], nextTown := some "hauntmere", requiredBadge := some "BLOOM" },
  { id := "hauntmere", name := "HAUNTMERE"
    gym := some {
      leader := "SHADOW", type := .ghost, badge := "GHOST", order := 7
      team := [⟨20, 35⟩, ⟨21, 36⟩, ⟨21, 38⟩] }
    routes := ["route-8"], nextTown := some "crystalspire", requiredBadge := some "MURK" },
  { id := "crystalspire", name := "CRYSTALSPIRE"
    gym := some {
      leader := "SAGE", type := .psychic, badge := "SAGE", order := 8
      team := [⟨25, 38⟩, ⟨22, 39⟩, ⟨25, 41⟩] }
    routes := ["route-9"], nextTown := some "emberpeak", requiredBadge := some "GHOST" },
  { id := "emberpeak", name := "EMBERPEAK ISLE"
    gym := some {
      leader := "BLAZE", type := .fire, badge := "EMBER", order := 9
      team := [⟨4, 42⟩, ⟨5, 43⟩, ⟨6, 44⟩, ⟨5, 46⟩] }
    routes := ["route-10"], nextTown := some "forgecrest", requiredBadge := some "SAGE" },
  { id := "forgecrest", name := "FORGECREST CITY"
    gym := some {
      leader := "IRON", type := .steel, badge := "STEEL", order := 10
      team := [⟨27, 45⟩, ⟨27, 46⟩] }
    routes := ["route-11"], nextTown := some "dracospire", requiredBadge := some "EMBER" },
  { id := "dracospire", name := "DRACOSPIRE PEAK"
    gym := some {
      leader := "THUNDER", type := .dragon, badge := "HORN", order := 11
      team := [⟨14, 48⟩, ⟨15, 49⟩, ⟨41, 50⟩] }
    routes := ["route-12"], nextTown := none, requiredBadge := some "STEEL" } ]

/-- `ROUTES`. -/
def routes : List Route := [
  { id := "route-1", name := "ROUTE 1", levelRange := (2, 5), wildPool := [28, 29, 30, 22, 16, 10]
    rarePool := [], encounterRate := 0.15 },
  { id := "route-2", name := "ROUTE 2", levelRange := (4, 8), wildPool := [28, 29, 30, 22, 16, 10]
    rarePool := [], encounterRate := 0.15 },
  { id := "route-3", name := "ROUTE 3", levelRange := (8, 14), wildPool := [16, 12, 24, 29, 22, 10]
    rarePool := [14], encounterRate := 0.12 },
  { id := "route-4", name := "ROUTE 4", levelRange := (14, 20), wildPool := [12, 30, 7, 18, 24, 10]
    rarePool := [20], encounterRate := 0.12 },
  { id := "route-5", name := "ROUTE 5", levelRange := (20, 26), wildPool := [10, 18, 7, 12, 30, 24]
    rarePool := [21], encounterRate := 0.1 },
  { id := "route-6", name := "ROUTE 6", levelRange := (26, 32), wildPool := [1, 29, 18, 20, 7, 24]
    rarePool := [40], encounterRate := 0.1 },
  { id := "route-7", name := "ROUTE 7", levelRange := (30, 36), wildPool := [18, 20, 1, 4, 7, 12]
    rarePool := [40], encounterRate := 0.08 },
  { id := "route-8", name := "ROUTE 8", levelRange := (34, 40), wildPool := [20, 4, 7, 1, 18, 14]
    rarePool := [42], encounterRate := 0.08 },
  { id := "route-9", name := "ROUTE 9", levelRange := (36, 42), wildPool := [4, 7, 1, 14, 25, 20]
    rarePool := [42], encounterRate := 0.08 },
  { id := "route-10", name := "ROUTE 10", levelRange := (40, 46), wildPool := [4, 7, 1, 14, 25, 27]
    rarePool := [40], encounterRate := 0.06 },
  { id := "route-11", name := "ROUTE 11", levelRange := (44, 48), wildPool := [4, 7, 1, 14, 27, 25]
    rarePool := [41], encounterRate := 0.06 },
  { id := "route-12", name := "ROUTE 12", levelRange := (46, 52), wildPool := [4, 7, 1, 14, 27, 25]
    rarePool := [41], encounterRate := 0.05 } ]

/-- `WORLD`. -/
def world : World := ⟨towns, routes⟩

end Pokeage.Game
