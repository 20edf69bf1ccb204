import Pokeage.Infra.Except
import Pokeage.Infra.Json
import Pokeage.Game.Save

/-!
# Saves as text

`serializeTrainer` and `deserializeTrainer` of `save.ts`. Loading checks the version and nothing else: what
it returns is made of whatever values the text holds. So what is loaded is a value of the text here
(`Text.loadTrainer`), and the records of the engine are written as such values (`Trainer.json`).

`none` stands for `undefined`. A field set to it is left out. Keys keep the order in which they came, also
those that are numbers, which scripts put first.
-/

namespace Pokeage.Game

open Infra (Json require)

namespace Text

open Infra.Json (Numbers parse put stringify)

/-- Zero, and the range in which doubles have all their bits. -/
def Normal (q : ℚ) : Prop := q = 0 ∨ 1 / 2 ^ 1022 ≤ |q| ∧ |q| < 2 ^ 1024

instance : DecidablePred Normal := fun _ => inferInstanceAs (Decidable (_ ∨ _))

/-- Numbers are doubles, printed with the fewest digits that tell them apart. A text with a number beyond the
normal range, which scripts read as infinite or with fewer bits, is not read here. -/
def numbers : Numbers where
  print := Infra.Decimal.write (Infra.Rounding.roundTo 53) 17
  read cs := do
    let (q, rest) ← Infra.Decimal.readNumber (Infra.Rounding.roundTo 53) cs
    if Normal q then return (q, rest) else none

/-! ## Values of a script -/

/-- A text that is no value, a property read where there is none, and the errors of the source. -/
inductive LoadError where
  | syntaxError
  | typeError
  | error (message : String)
  deriving DecidableEq, Repr

/-- `v.key`. Neither `undefined` nor `null` has properties. -/
def prop (v : Option Json) (key : String) : Except LoadError (Option Json) :=
  match v with
  | none => .error .typeError
  | some .null => .error .typeError
  | some v => .ok (v.get key)

/-- What counts as true in a condition. -/
def truthy : Json → Bool
  | .null => false
  | .bool b => b
  | .num q => q ≠ 0
  | .str s => s ≠ ""
  | .arr _ => true
  | .obj _ => true

/-- `v || d`. -/
def orElse (v : Option Json) (d : Json) : Json :=
  match v with
  | some v => if truthy v then v else d
  | none => d

mutual

/-- `${v}`. An object whose `toString` is overridden, which only a value that is no function can do in a
text, has none. -/
def display : Json → Except LoadError String
  | .null => .ok "null"
  | .bool b => .ok (if b then "true" else "false")
  | .num q => .ok (String.ofList (numbers.print q))
  | .str s => .ok s
  | .arr items => do return ",".intercalate (← displayItems items)
  | .obj fields =>
    if fields.any (·.1 = "toString") then .error .typeError else .ok "[object Object]"

/-- `null` is blank among the items of an array. -/
def displayItems : List Json → Except LoadError (List String)
  | [] => .ok []
  | .null :: vs => do return "" :: (← displayItems vs)
  | v :: vs => do return (← display v) :: (← displayItems vs)

end

/-- The fields of `{...v}`. -/
def spread : Json → List (String × Json)
  | .obj fields => fields
  | _ => []

/-- `{ ...fields, key: value }` where the value may be `undefined`, which a text leaves out. -/
def set (fields : List (String × Json)) (key : String) (value : Option Json) : List (String × Json) :=
  match value with
  | some v => put fields (key, v)
  | none => fields.filter (·.1 ≠ key)

/-- A field that may be `undefined`. -/
def field? (key : String) (value : Option Json) : List (String × Json) :=
  (value.map fun v => (key, v)).toList

/-! ## Loading -/

/-- `m.currentHP ?? m.stats.hp`. -/
def currentHP (m : Json) : Except LoadError (Option Json) := do
  match ← prop (some m) "currentHP" with
  | none => prop (← prop (some m) "stats") "hp"
  | some .null => prop (← prop (some m) "stats") "hp"
  | some hp => return some hp

/-- The items of an array and the characters of a string are spread too, but neither has `stats`: they
throw before anything comes of it. -/
def normalizeMon (m : Json) : Except LoadError Json := do
  let xp := orElse (← prop (some m) "xp") (.num 0)
  let stage := orElse (← prop (some m) "stage") (.num 0)
  let affection := orElse (← prop (some m) "affection") (.num 0)
  let hp ← currentHP m
  return .obj (set (put (put (put (spread m) ("xp", xp)) ("stage", stage)) ("affection", affection))
    "currentHP" hp)

/-- `(v || []).map(normalizeMon)`. Only an array has `map`. -/
def mapMons (v : Option Json) : Except LoadError Json :=
  match orElse v (.arr []) with
  | .arr items => do return .arr (← items.mapM normalizeMon)
  | _ => .error .typeError

/-- `v === SAVE_VERSION`. -/
def isVersion : Option Json → Bool
  | some (.num q) => q = saveVersion
  | _ => false

/-- `${v}` where `v` may be `undefined`. -/
def displayVersion : Option Json → Except LoadError String
  | none => .ok "undefined"
  | some v => display v

/-- `v && typeof v === 'object'`. -/
def isObject : Json → Bool
  | .arr _ => true
  | .obj _ => true
  | _ => false

/-- Refuse a save of another version. -/
def checkVersion (version : Option Json) : Except LoadError Unit :=
  if isVersion version then .ok ()
  else do throw (.error ("unsupported save version " ++ (← displayVersion version)))

/-- `loadTrainer`, of any value. -/
def loadTrainer (save : Json) : Except LoadError Json := do
  require (isObject save) (.error "invalid save")
  checkVersion (← prop (some save) "version")
  let t ← prop (some save) "trainer"
  let id ← prop t "id"
  let name ← prop t "name"
  let team ← mapMons (← prop t "team")
  let box ← mapMons (← prop t "box")
  let badges := orElse (← prop t "badges") (.arr [])
  let location := orElse (← prop t "location") (.str "seedling")
  let items := orElse (← prop t "items") (.obj [("ball", .num 0)])
  let totalBattles := orElse (← prop t "totalBattles") (.num 0)
  let totalCaught := orElse (← prop t "totalCaught") (.num 0)
  let strategy := orElse (← prop t "strategy") (.obj [])
  return .obj (field? "id" id ++ field? "name" name ++
    [("team", team), ("box", box), ("badges", badges), ("location", location), ("items", items),
      ("totalBattles", totalBattles), ("totalCaught", totalCaught), ("strategy", strategy)])

/-- `loadTrainer(JSON.parse(json))`. -/
def deserializeTrainer (json : String) : Except LoadError Json :=
  match parse numbers json with
  | some save => loadTrainer save
  | none => .error .syntaxError

/-! ## Saving what was loaded -/

/-- `const { moves, ...rest } = m; return { ...rest };`. All that was loaded are objects. -/
def stripMon (m : Json) : Except LoadError Json :=
  match m with
  | .null => .error .typeError
  | m => .ok (.obj ((spread m).filter (·.1 ≠ "moves")))

/-- `v.map(stripMon)`. -/
def stripMons (v : Option Json) : Except LoadError Json :=
  match v with
  | some (.arr items) => do return .arr (← items.mapM stripMon)
  | _ => .error .typeError

/-- `saveTrainer`, of any value. -/
def saveTrainer (trainer : Json) (rngState : Option UInt32) : Except LoadError Json := do
  let team ← stripMons (← prop (some trainer) "team")
  let box ← stripMons (some (orElse (← prop (some trainer) "box") (.arr [])))
  return .obj (("version", .num saveVersion) ::
    (field? "rngState" (rngState.map fun state => .num state.toNat) ++
      [("trainer", .obj (put (put (spread trainer) ("team", team)) ("box", box)))]))

/-- `JSON.stringify(saveTrainer(trainer, rngState))`. -/
def serializeTrainer (trainer : Json) (rngState : Option UInt32) : Except LoadError String := do
  return stringify numbers (← saveTrainer trainer rngState)

end Text

/-! ## Records as values -/

open Text (field?)

/-- A type as the source spells it. -/
def MonsterType.key : MonsterType → String
  | .normal => "normal"
  | .fire => "fire"
  | .water => "water"
  | .grass => "grass"
  | .electric => "electric"
  | .ice => "ice"
  | .fighting => "fighting"
  | .poison => "poison"
  | .ground => "ground"
  | .flying => "flying"
  | .psychic => "psychic"
  | .bug => "bug"
  | .rock => "rock"
  | .ghost => "ghost"
  | .dragon => "dragon"
  | .dark => "dark"
  | .steel => "steel"

/-- A rarity as the source spells it. -/
def Rarity.key : Rarity → String
  | .common => "common"
  | .rare => "rare"
  | .legendary => "legendary"

/-- A tier as the source spells it. -/
def RarityTier.key : RarityTier → String
  | .common => "common"
  | .uncommon => "uncommon"
  | .rare => "rare"
  | .holo => "holo"
  | .ultra => "ultra"
  | .secret => "secret"

/-- Stats as a value. -/
def Stats.json (s : Stats) : Json :=
  .obj [("hp", .num s.hp), ("atk", .num s.atk), ("def", .num s.defense), ("spd", .num s.spd)]

/-- A move as a value. -/
def Move.json (mv : Move) : Json :=
  .obj [("id", .num mv.id), ("name", .str mv.name), ("type", .str mv.type.key), ("power", .num mv.power),
    ("acc", .num mv.acc), ("pp", .num mv.pp), ("status", mv.status.elim .null .str),
    ("effChance", .num mv.effChance), ("crit", .bool mv.crit), ("multi", .bool mv.multi)]

/-- `number | null`. -/
def orNull (x : Option ℤ) : Json := x.elim .null fun (n : ℤ) => .num n

/-- The fields of a monster, without those that are `undefined`. -/
def MonsterInstance.fields (m : MonsterInstance) : List (String × Json) :=
  [("templateId", .num m.templateId), ("name", .str m.name), ("type", .str m.type.key),
    ("asset", .str m.asset), ("level", .num m.level), ("xp", .num m.xp), ("stage", .num m.stage),
    ("stats", m.stats.json), ("currentHP", .num m.currentHP), ("targetStats", m.targetStats.json),
    ("ev1", orNull m.ev1), ("ev2", orNull m.ev2)] ++
  (field? "rarity" (m.rarity.map fun r => .str r.key) ++
  (field? "rarityTier" (m.rarityTier.map fun r => .str r.key) ++
  (("affection", .num m.affection) :: field? "moves" (m.moves.map fun mvs => .arr (mvs.map Move.json)))))

/-- A monster as a value. -/
def MonsterInstance.json (m : MonsterInstance) : Json := .obj m.fields

/-- Item counts as a value. -/
def TrainerItems.json (items : TrainerItems) : Json :=
  .obj (("ball", .num items.ball) :: items.others.map fun item => (item.1, .num item.2))

/-- Flags as a value, without those that are absent. -/
def Strategy.json (s : Strategy) : Json :=
  .obj (field? "autoHeal" (s.autoHeal.map .bool) ++
    (field? "autoGym" (s.autoGym.map .bool) ++
    (field? "autoMove" (s.autoMove.map .bool) ++
    (field? "catchEnabled" (s.catchEnabled.map .bool) ++
    (field? "prioritizeRare" (s.prioritizeRare.map .bool) ++
    field? "catchTypes" (s.catchTypes.map fun types =>
      .obj (types.map fun entry => (entry.1.key, .bool entry.2))))))))

/-- A trainer as a value. -/
def Trainer.json (t : Trainer) : Json :=
  .obj ([("id", .str t.id), ("name", .str t.name), ("team", .arr (t.team.map MonsterInstance.json)),
    ("box", .arr (t.box.map MonsterInstance.json)), ("badges", .arr (t.badges.map .str)),
    ("location", .str t.location), ("items", t.items.json), ("totalBattles", .num t.totalBattles),
    ("totalCaught", .num t.totalCaught)] ++ field? "strategy" (t.strategy.map Strategy.json))

/-! ## Saving -/

/-- A save as a value. -/
def SavedGame.json (save : SavedGame) : Json :=
  .obj (("version", .num save.version) ::
    (field? "rngState" (save.rngState.map fun state => .num state.toNat) ++ [("trainer", save.trainer.json)]))

/-- `serializeTrainer`, of a trainer of the engine. -/
def serializeTrainer (trainer : Trainer) (rngState : Option UInt32) : String :=
  Json.stringify Text.numbers (saveTrainer trainer rngState).json

/-- The text of what a run writes down. -/
def Engine.saveText (e : Engine) : String := serializeTrainer e.trainer (some e.rng.snapshot)

end Pokeage.Game
