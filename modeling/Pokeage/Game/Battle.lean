import Pokeage.Game.Combat
import Pokeage.Game.Data.Moves

/-!
# The full battle

`moves.ts`, the standard formula of `damage.ts` and `simulateBattle` of `battle.ts`: a fight of at most
twenty-four turns with moves, accuracy, criticals and a cap on each hit, which keeps a log.

The monsters are objects. A battle writes to one field of them, the cache of moves, so the model
returns both as it leaves them.
-/

namespace Pokeage.Game

/-! ## Which moves a monster has -/

/-- `for (let i = …, c = 0; i >= 0 && c < n; i -= step, c++) out.push(src[i])`. -/
def pickDown (src : List Move) (step : ℤ) : ℕ → ℤ → List Move
  | 0, _ => []
  | n + 1, i =>
    match Rng.at? src i with
    | some mv => mv :: pickDown src step n (i - step)
    | none => []

/-- The power a move of this level may have. -/
def powerCap (level : ℤ) : ℤ :=
  if 40 ≤ level then 999
  else if 28 ≤ level then 95
  else if 16 ≤ level then 75
  else 55

/-- Up to `n` moves of an ascending pool, from the strongest that the level allows down. -/
def pickTier (arr : List Move) (n : ℕ) (level : ℤ) : List Move :=
  let ok := arr.filter fun m => m.power ≤ powerCap level
  let src := if ok = [] then arr.take 2 else ok
  let step := max 1 (src.length / n : ℕ)
  pickDown src step n (src.length - 1)

/-- Keep the first move of each name. -/
def dedupe (mvs : List Move) : List Move :=
  mvs.foldl (fun seen mv => if mv.name ∈ seen.map (·.name) then seen else seen ++ [mv]) []

/-- Three moves of its type and a normal one. -/
def getMonMoves (type : MonsterType) (level : ℤ) : List Move :=
  let lv := orElse level 5
  let same := pickTier (movesByType type) 3 lv
  let norm := pickTier (movesByType .normal) 1 lv
  let mvs := dedupe (same ++ norm)
  if mvs = [] then [fallbackMove] else mvs.take 4

/-- The moves that a monster fights with: those of its cache, if it has one. -/
def MonsterInstance.pool (m : MonsterInstance) : List Move :=
  m.moves.getD (getMonMoves m.type m.level)

/-- The strongest move if it is very effective, else the second. -/
def choose (pool : List Move) (typeMod : ℚ) : Move :=
  let sorted := pool.insertionSort fun a b => b.power ≤ a.power
  let idx := if 2 ≤ typeMod then 0 else min 1 ((sorted.length : ℤ) - 1)
  ((Rng.at? sorted idx).or sorted.head?).getD fallbackMove

/-- The move of an attacker, and the attacker with its cache filled. -/
def pickMove (attacker : MonsterInstance) (typeMod : ℚ) : Move × MonsterInstance :=
  let attacker := { attacker with moves := some attacker.pool }
  (choose attacker.pool typeMod, attacker)

variable (fl : Floats)

/-! ## One hit -/

/-- `rng.variance(hi, lo)`. -/
def Rng.variance (r : Rng) (hi lo : ℚ) : ℚ × Rng :=
  let u := r.next
  (fl (lo + fl (u.1 * fl (hi - lo))), u.2)

/-- The power of a move that has none. -/
def defaultMovePower : ℤ := 50

/-- Damage before the same-type bonus and the critical hit, and the type multiplier in it. -/
structure DamageRoll where
  dmg : ℤ
  typeMod : ℚ
  deriving DecidableEq, Repr

/-- The standard formula. Against an immune type nothing is drawn. -/
def calcDamage (attacker defender : MonsterInstance) (movePower : ℤ) (r : Rng) : DamageRoll × Rng :=
  let level := orElse attacker.level 5
  let power := orElse movePower defaultMovePower
  let aStat := max 1 attacker.stats.atk
  let dStat := max 1 defender.stats.defense
  let typeMod := getTypeMultiplier attacker.type defender.type
  if typeMod = 0 then (⟨0, typeMod⟩, r)
  else
    let variance := r.variance fl 1 (fl 0.85)
    let raw := fl (fl (fl (fl (fl (fl ((2 * level : ℤ) / 5) + 2) * power) * fl (aStat / dStat)) / 50) + 2)
    (⟨max 1 ⌊fl (fl (raw * typeMod) * variance.1)⌋, typeMod⟩, variance.2)

/-- Same-type attack bonus. -/
def stab : ℚ := 1.5
/-- Chance of a critical hit. -/
def critChance : ℚ := 0.0625
/-- Multiplier of a critical hit. -/
def critMult : ℚ := 1.5
/-- Share of the target's maximum that a hit may take. -/
def hitCapNormal : ℚ := 0.3
/-- The same for a super effective hit. -/
def hitCapSuper : ℚ := 0.4
/-- Turns after which a battle is decided by hit points. -/
def battleTurnCap : ℕ := 24

/-- `stats.hp || currentHP || 1`. -/
def MonsterInstance.maxHP (m : MonsterInstance) : ℤ := orElse m.stats.hp (orElse m.currentHP 1)

/-- The most that one hit of this effectiveness takes, before the one point that every hit takes. -/
def hitCap (target : MonsterInstance) (typeMod : ℚ) : ℤ :=
  ⌈fl (target.maxHP * fl (if 2 ≤ typeMod then hitCapSuper else hitCapNormal))⌉

/-- `rng.next() * 100 > (mv.acc || 100)` for this draw. -/
def misses (mv : Move) (draw : ℚ) : Bool := (orElse mv.acc 100 : ℤ) < fl (draw * 100)

/-- The status that a hit leaves. A move without one draws nothing. -/
def inflict (mv : Move) (r : Rng) : Option String × Rng :=
  match mv.status.filter (· ≠ "") with
  | some status =>
    if 0 < mv.effChance then
      let u := r.next
      (if fl (u.1 * 100) < mv.effChance then some status else none, u.2)
    else (none, r)
  | none => (none, r)

/-- What a move that lands does. -/
structure Hit where
  dmg : ℤ
  typeMod : ℚ
  crit : Bool
  status : Option String
  deriving DecidableEq, Repr

/-- A move that does not miss: the roll, the multipliers, the cap, and at least a point. -/
def landHit (atk target : MonsterInstance) (mv : Move) (r : Rng) : Hit × Rng :=
  let roll := calcDamage fl atk target mv.power r
  let crit := roll.2.chance critChance
  let dmg := ⌊fl (fl (roll.1.dmg * if mv.type = atk.type then stab else 1) *
    if crit.1 then critMult else 1)⌋
  let status := inflict fl mv crit.2
  ({ dmg := max 1 (min dmg (hitCap fl target roll.1.typeMod))
     typeMod := roll.1.typeMod
     crit := crit.1
     status := status.1 }, status.2)

/-! ## The log -/

/-- Who strikes. -/
inductive Side where
  | me
  | foe
  deriving DecidableEq, Repr

/-- Who is struck. -/
def Side.other : Side → Side
  | me => foe
  | foe => me

/-- A status that is absent is `none`, as one that is `null`. -/
structure BattleEvent where
  who : Side
  atkName : String
  move : String
  moveType : Option MonsterType
  dmg : ℤ
  typeMod : ℚ
  crit : Option Bool
  miss : Bool
  status : Option String
  myHP : ℤ
  foeHP : ℤ
  deriving DecidableEq, Repr

/-- The outcome of a battle with its log. -/
structure BattleResult where
  won : Bool
  myHP : ℤ
  foeHP : ℤ
  turnsUsed : ℕ
  events : List BattleEvent
  deriving DecidableEq, Repr

/-! ## The fight -/

/-- The variables of `simulateBattle`. -/
structure Battle where
  me : MonsterInstance
  foe : MonsterInstance
  myHP : ℤ
  foeHP : ℤ
  turns : ℕ
  events : List BattleEvent
  rng : Rng
  deriving DecidableEq, Repr

namespace Battle

/-- Both are on their feet. -/
def Open (b : Battle) : Prop := 0 < b.myHP ∧ 0 < b.foeHP

instance (b : Battle) : Decidable b.Open := inferInstanceAs (Decidable (_ ∧ _))

/-- The monster of a side. -/
def fighter (b : Battle) : Side → MonsterInstance
  | .me => b.me
  | .foe => b.foe

/-- The battle with another value for the monster of a side. -/
def setFighter (b : Battle) (m : MonsterInstance) : Side → Battle
  | .me => { b with me := m }
  | .foe => { b with foe := m }

/-- The type multiplier of a strike. -/
def typeMod (b : Battle) (who : Side) : ℚ :=
  getTypeMultiplier (b.fighter who).type (b.fighter who.other).type

/-- The move of a strike, and the monster with the cache it was picked from. -/
def move (b : Battle) (who : Side) : Move × MonsterInstance :=
  pickMove (b.fighter who) (b.typeMod who)

/-- Whether the accuracy draw of a strike misses. -/
def Misses (b : Battle) (who : Side) : Prop := misses fl (b.move who).1 b.rng.next.1

instance (b : Battle) (who : Side) : Decidable (b.Misses fl who) := inferInstanceAs (Decidable (_ = _))

/-- What a strike logs, with the generator after it. -/
def strikeEvent (b : Battle) (who : Side) : BattleEvent × Rng :=
  let atk := b.fighter who
  let mv := (b.move who).1
  if b.Misses fl who then
    ({ who
       atkName := atk.name
       move := mv.name
       moveType := none
       dmg := 0
       typeMod := b.typeMod who
       crit := none
       miss := true
       status := none
       myHP := b.myHP
       foeHP := b.foeHP }, b.rng.next.2)
  else
    let hit := landHit fl atk (b.fighter who.other) mv b.rng.next.2
    ({ who
       atkName := atk.name
       move := mv.name
       moveType := some mv.type
       dmg := hit.1.dmg
       typeMod := hit.1.typeMod
       crit := some hit.1.crit
       miss := false
       status := hit.1.status
       myHP := if who = .me then b.myHP else max 0 (b.myHP - hit.1.dmg)
       foeHP := if who = .me then max 0 (b.foeHP - hit.1.dmg) else b.foeHP }, hit.2)

/-- One entry of the order of a turn. Once somebody is down it is skipped. -/
def strike (b : Battle) (who : Side) : Battle :=
  if b.Open then
    let ev := b.strikeEvent fl who
    { b.setFighter (b.move who).2 who with
      myHP := ev.1.myHP
      foeHP := ev.1.foeHP
      events := b.events ++ [ev.1]
      rng := ev.2 }
  else b

/-- Who strikes first: the faster one, and `me` if they are as fast. -/
def first (b : Battle) : Side := if b.foe.stats.spd ≤ b.me.stats.spd then .me else .foe

/-- The body of the loop. -/
def turn (b : Battle) : Battle :=
  ({ b with turns := b.turns + 1 }.strike fl b.first).strike fl b.first.other

/-- A strike is part of a turn. -/
theorem strike_turns (b : Battle) (who : Side) : (b.strike fl who).turns = b.turns := by
  unfold strike
  split
  · cases who <;> rfl
  · rfl

/-- A turn counts one. -/
theorem turn_turns (b : Battle) : (b.turn fl).turns = b.turns + 1 := by
  unfold turn
  rw [strike_turns, strike_turns]

/-- `while (myHP > 0 && foeHP > 0 && turns < BATTLE_TURN_CAP)`. -/
def loop (b : Battle) : Battle :=
  if b.Open ∧ b.turns < battleTurnCap then (b.turn fl).loop else b
termination_by battleTurnCap - b.turns
decreasing_by
  rw [turn_turns]
  omega

/-- Who has won: the one that stands, or the one with more of its hit points left. -/
def won (b : Battle) : Bool :=
  if b.foeHP ≤ 0 then true
  else if b.myHP ≤ 0 then false
  else fl (b.foeHP / b.foe.maxHP) ≤ fl (b.myHP / b.me.maxHP)

end Battle

/-- Both sides as they come in, before the first turn. -/
def Battle.start (me foe : MonsterInstance) (r : Rng) : Battle :=
  ⟨me, foe, me.currentHP, foe.currentHP, 0, [], r⟩

/-- A fight with its log. Also returns both monsters, of which only the cache can have changed. -/
def simulateBattle (me foe : MonsterInstance) (r : Rng) :
    BattleResult × MonsterInstance × MonsterInstance × Rng :=
  let b := (Battle.start me foe r).loop fl
  (⟨b.won fl, b.myHP, b.foeHP, b.turns, b.events⟩, b.me, b.foe, b.rng)

end Pokeage.Game
