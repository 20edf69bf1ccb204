import Pokeage.Game.Data.Monsters
import Pokeage.Game.Roster
import Mathlib.Data.List.Sort

/-!
# Opponents

`trainers.ts`, and `getTrainerPower` of `power.ts`: a field of rival trainers with teams drawn from a
roster. Reading the species that a draw outside of the pool gives would throw; here it is `none`.
-/

namespace Pokeage.Game

/-- What a host may choose about generated opponents. -/
structure OpponentOptions where
  teamSize : Option ℤ
  levelSpread : Option ℤ
  excludeLegendary : Option Bool
  deriving DecidableEq, Repr

namespace OpponentOptions

/-- `{}`. -/
def empty : OpponentOptions := ⟨none, none, none⟩

/-- `opts.teamSize ?? 3`. -/
def size (opts : OpponentOptions) : ℤ := opts.teamSize.getD 3
/-- `opts.levelSpread ?? 2`. -/
def spread (opts : OpponentOptions) : ℤ := opts.levelSpread.getD 2
/-- `opts.excludeLegendary ?? true`. -/
def exclude (opts : OpponentOptions) : Bool := opts.excludeLegendary.getD true

/-- The species that may be drawn. -/
def pool (opts : OpponentOptions) (registry : Registry) : List MonsterTemplate :=
  registry.all.filter fun m => if opts.exclude then m.rarity ≠ some .legendary else true

end OpponentOptions

/-- `NAME_PREFIX`. -/
def namePrefixes : List String :=
  ["RIVAL", "ACE", "ROOKIE", "VETERAN", "RANGER", "NOMAD", "WARDEN", "SCOUT"]

variable (fl : Floats)

/-- `while (team.length < size && guard++ < size * 8)`, with so many guarded rounds left. A species that
is on the team already uses up its round. -/
def draftLoop (pool : List MonsterTemplate) (size level spread : ℤ) :
    ℕ → List MonsterInstance → List ℕ → Rng → Option (List MonsterInstance × Rng)
  | 0, team, _, r => some (team, r)
  | rounds + 1, team, used, r =>
    if (team.length : ℤ) < size then
      let drawn := r.pick fl pool
      match drawn.1 with
      | none => none
      | some tpl =>
        if tpl.id ∈ used then draftLoop pool size level spread rounds team used drawn.2
        else
          let off := drawn.2.int fl (-spread) spread
          let lv := max 2 (level + off.1)
          draftLoop pool size level spread rounds (team ++ [createMonsterInstance fl tpl lv])
            (used ++ [tpl.id]) off.2
    else some (team, r)

/-- A level-scaled team from the roster. -/
def buildTeam (registry : Registry) (level : ℤ) (opts : OpponentOptions) (r : Rng) :
    Option (List MonsterInstance × Rng) :=
  let pool := opts.pool registry
  if pool = [] then some ([], r)
  else draftLoop fl pool opts.size level opts.spread (opts.size * 8).toNat [] [] r

/-- The id of an index. -/
def opponentId (index : ℕ) : String := "ai-" ++ toString index

/-- The name of an index: prefixes in turn, numbers from one. -/
def opponentName (index : ℕ) : String :=
  namePrefixes.getD (index % namePrefixes.length) "" ++ " " ++ toString (index + 1)

/-- One trainer scaled to a target level. -/
def generateOpponent (index : ℕ) (level : ℤ) (registry : Registry) (r : Rng)
    (opts : OpponentOptions) : Option (Trainer × Rng) :=
  (buildTeam fl registry level opts r).map fun drafted =>
    ({ id := opponentId index
       name := opponentName index
       team := drafted.1
       box := []
       badges := []
       location := "seedling"
       items := ⟨0, []⟩
       totalBattles := 0
       totalCaught := 0
       strategy := some .empty }, drafted.2)

/-- The power of the team together. -/
def getTrainerPower (t : Trainer) : ℤ := (t.team.map getMonsterPower).sum

/-- `for (let i = 0; i < count; i++) out.push(…)`, from index `i` on. -/
def draftField (level : ℤ) (registry : Registry) (opts : OpponentOptions) :
    ℕ → ℕ → Rng → Option (List Trainer × Rng)
  | 0, _, r => some ([], r)
  | count + 1, i, r =>
    match generateOpponent fl i level registry r opts with
    | none => none
    | some (t, r) =>
      (draftField level registry opts count (i + 1) r).map fun rest => (t :: rest.1, rest.2)

/-- A field of opponents, the most powerful first. The sort is stable. -/
def generateOpponents (count : ℕ) (level : ℤ) (registry : Registry) (r : Rng)
    (opts : OpponentOptions) : Option (List Trainer × Rng) :=
  (draftField fl level registry opts count 0 r).map fun field =>
    (field.1.insertionSort fun a b => getTrainerPower b ≤ getTrainerPower a, field.2)

end Pokeage.Game
