import Pokeage.Game.Combat
import Pokeage.Game.Roster
import Mathlib.Data.List.Sort

/-!
# The engine

`engine.ts`. A tick looks at where the trainer stands and takes the first of four actions that
applies: heal, challenge the gym, move on, hunt. The objects it mutates are passed along.

Besides the trainer and the generator, the engine has two variables of its own, `gymCooldown` and
`state`.
-/

namespace Pokeage.Game

/-- What the agent is doing. -/
inductive AgentState where
  | idle
  | hunting
  | battling
  | gym
  | moving
  | healing
  deriving DecidableEq, Repr

/-- What a tick did. -/
inductive TickAction where
  | hunt
  | gym
  | move
  | heal
  | idle
  | caught
  deriving DecidableEq, Repr

/-- Without the list of battle events, which the engine leaves empty. -/
structure EncounterResult where
  encountered : Bool
  wild : Option MonsterInstance
  won : Option Bool
  caught : Option Bool
  xpGained : Option ℤ
  log : List String
  deriving DecidableEq, Repr

/-- What a tick reports. -/
structure TickResult where
  state : AgentState
  action : TickAction
  detail : Option String
  encounter : Option EncounterResult
  deriving DecidableEq, Repr

/-- Boosts that a host passes in. -/
structure EngineOptions where
  buffs : Option EncounterBuffs
  xpBuff : Option ℚ
  deriving DecidableEq, Repr

/-- What an engine is built on and never changes. -/
structure Env where
  fl : Floats
  world : World
  getTemplate : TemplateResolver
  opts : EngineOptions

/-- `opts.xpBuff || 1`. -/
def Env.xpBuff (env : Env) : ℚ :=
  match env.opts.xpBuff with
  | some b => if b = 0 then 1 else b
  | none => 1

/-- `opts.buffs`, without any boost if a host passes none. -/
def Env.buffs (env : Env) : EncounterBuffs := env.opts.buffs.getD ⟨none, none⟩

/-- What an engine changes: its trainer, the pause after a lost gym, its generator and its state. -/
structure Engine where
  trainer : Trainer
  gymCooldown : ℕ
  rng : Rng
  state : AgentState
  deriving DecidableEq, Repr

/-- `new Engine(trainer, …)` with the generator of its options. -/
def Engine.new (trainer : Trainer) (rng : Rng) : Engine where
  trainer := trainer
  gymCooldown := 0
  rng := rng
  state := .idle

/-- A string that is there and not empty. -/
def truthy (s : Option String) : Option String := s.filter (· ≠ "")

/-- It stands. -/
def MonsterInstance.alive (m : MonsterInstance) : Bool := 0 < m.currentHP

/-- Put monsters back in the places of those standing, in order. -/
def writeBack : List MonsterInstance → List MonsterInstance → List MonsterInstance
  | [], _ => []
  | team, [] => team
  | m :: team, p :: party =>
    if m.alive then p :: writeBack team party else m :: writeBack team (p :: party)

namespace Engine

variable (env : Env)

/-! ## Looking around -/

/-- The town of an id. -/
def townById (id : String) : Option Town := env.world.towns.find? fun t => t.id = id

/-- The route of an id. -/
def routeById (id : String) : Option Route := env.world.routes.find? fun r => r.id = id

/-- The town the trainer is in. -/
def currentTown (t : Trainer) : Option Town := townById env t.location

/-- `lead.currentHP < lead.stats.hp * 0.15` for a lead that stands. -/
def leadNeedsHeal (t : Trainer) : Bool :=
  match t.team.head? with
  | some lead =>
    lead.alive && decide ((lead.currentHP : ℚ) < env.fl (lead.stats.hp * env.fl 0.15))
  | none => false

/-- Nobody of the team stands. -/
def allFainted (t : Trainer) : Bool := t.team.all fun m => m.currentHP ≤ 0

/-- Nobody stands, or the lead is low and healing early is not off. -/
def needsHeal (t : Trainer) : Bool :=
  allFainted t || (leadNeedsHeal env t && t.strat.autoHeal ≠ some false)

/-! ## Healing and moving -/

/-- Hit points back to the maximum. -/
def heal (m : MonsterInstance) : MonsterInstance := { m with currentHP := m.stats.hp }

/-- Restore the whole team. -/
def healTeam (e : Engine) : Engine :=
  { e with state := .healing, trainer := { e.trainer with team := e.trainer.team.map heal } }

/-- Move on to a town, whose center restores the team. -/
def moveToTown (e : Engine) (town : Town) : Engine :=
  healTeam { e with state := .moving, trainer := { e.trainer with location := town.id } }

/-- The next town, if there is one and its gate is open. -/
def moveTarget (t : Trainer) (town : Town) : Option Town :=
  match town.gym, truthy town.nextTown with
  | some gym, some nextTown =>
    if t.strat.autoMove ≠ some false ∧ gym.badge ∈ t.badges then
      (townById env nextTown).filter fun next =>
        match truthy next.requiredBadge with
        | some badge => badge ∈ t.badges
        | none => true
    else none
  | _, _ => none

/-! ## Gyms -/

/-- Towns with a gym, by the gym's order. The sort is stable. -/
def gymTowns : List Town :=
  (env.world.towns.filter (·.gym.isSome)).insertionSort fun a b =>
    (a.gym.map (·.order)).getD 0 ≤ (b.gym.map (·.order)).getD 0

/-- The badge of the gym before this town's. -/
def previousBadge (town : Town) : Option String :=
  match (gymTowns env).findIdx? fun t => t.id = town.id with
  | some (idx + 1) => ((gymTowns env)[idx]?.bind (·.gym)).map (·.badge)
  | _ => none

/-- `leadLevel >= Math.max(...levels)`: at least every level of the leader's team. -/
def leadReaches (t : Trainer) (gym : Gym) : Bool :=
  match t.team.head? with
  | some lead => gym.team.all fun entry => entry.level ≤ lead.level
  | none => false

/-- The last three questions before a challenge: the badge before, somebody standing, and the
lead's level. -/
def readyFor (t : Trainer) (town : Town) (gym : Gym) : Bool :=
  (match previousBadge env town with
    | some badge => decide (badge ∈ t.badges)
    | none => true) &&
  t.team.any (·.alive) && leadReaches t gym

/-- Asking counts a cooldown down. -/
def shouldChallengeGym (e : Engine) (town : Town) : Bool × Engine :=
  match town.gym with
  | none => (false, e)
  | some gym =>
    if gym.badge ∈ e.trainer.badges then (false, e)
    else if 0 < e.gymCooldown then (false, { e with gymCooldown := e.gymCooldown - 1 })
    else (readyFor env e.trainer town gym, e)

/-- `if (tpl) grantXp(m, amount, tpl)`. -/
def gainXp (m : MonsterInstance) (amount : ℤ) : MonsterInstance :=
  match env.getTemplate m.templateId with
  | some tpl => (grantXp env.fl m amount tpl).1
  | none => m

/-- Experience of a won gym for one of the party. -/
def gymReward (gym : Gym) (m : MonsterInstance) : MonsterInstance :=
  gainXp env m (gymXpReward env.fl m.level gym.team.length env.xpBuff)

/-- Challenge a gym with the first four that stand. A win pays experience, the badge and three balls,
a loss is followed by a pause. -/
def doGymChallenge (e : Engine) (gym : Gym) : Bool × Engine :=
  let party := (e.trainer.team.filter (·.alive)).take 4
  let result := simulateGym env.fl party gym.team env.getTemplate e.rng
  if result.1.won then
    (true, { e with
      state := .gym
      rng := result.2.2
      trainer := { e.trainer with
        team := writeBack e.trainer.team (result.2.1.map (gymReward env gym))
        badges := e.trainer.badges ++ [gym.badge]
        items := { e.trainer.items with ball := e.trainer.items.ball + 3 } } })
  else
    (false, { e with
      state := .gym
      rng := result.2.2
      gymCooldown := 5
      trainer := { e.trainer with team := writeBack e.trainer.team result.2.1 } })

/-! ## Hunting -/

/-- What the encounter rate of a route is multiplied by. -/
def encounterRateMult : ℚ := 4
/-- A wild monster more levels above the lead than this is left alone. -/
def fleeLevelGap : ℤ := 2

/-- The lead after a fight it won, and the experience it is owed. -/
def spoils (lead wild : MonsterInstance) : MonsterInstance × ℤ :=
  let lead := (addAffection env.fl lead (affectionGainFor env.fl lead wild.level)).1
  let xpGained := wildXpReward env.fl lead.level wild.level env.xpBuff
  (gainXp env lead xpGained, xpGained)

/-- A ball for a beaten wild monster, if it is worth one. -/
def throwBall (t : Trainer) (wild : MonsterInstance) (r : Rng) :
    Bool × List String × Trainer × Rng :=
  if shouldCatch t wild then
    let cr := attemptCatch env.fl wild 1 r
    let t := { t with items := { t.items with ball := t.items.ball - cr.1.ballsUsed } }
    if cr.1.caught then
      let t := (placeNewMonster t wild).2
      (true, ["caught Lv." ++ toString wild.level ++ " " ++ wild.name],
        { t with totalCaught := t.totalCaught + 1 }, cr.2)
    else (false, [wild.name ++ " broke free"], t, cr.2)
  else (false, [], t, r)

/-- The fight of an encounter. -/
def fightWild (e : Engine) (lead wild : MonsterInstance) : EncounterResult × Engine :=
  let result := simulateAuto env.fl lead wild e.rng
  let lead := { lead with currentHP := result.1.hpRemaining }
  let t := { e.trainer with totalBattles := e.trainer.totalBattles + 1 }
  if result.1.won then
    let spoil := spoils env lead wild
    let thrown := throwBall env { t with team := writeBack t.team [spoil.1] } wild result.2
    ({ encountered := true
       wild := some wild
       won := some true
       caught := some thrown.1
       xpGained := some spoil.2
       log := thrown.2.1 },
      { e with state := .battling, trainer := thrown.2.2.1, rng := thrown.2.2.2 })
  else
    ({ encountered := true
       wild := some wild
       won := some false
       caught := some false
       xpGained := some 0
       log := [lead.name ++ " fainted against " ++ wild.name] },
      { e with
        state := .battling
        trainer := { t with team := writeBack t.team [lead] }
        rng := result.2 })

/-- Nothing met, with what the log says about it. -/
def nothing (log : List String) : EncounterResult := ⟨false, none, none, none, none, log⟩

/-- What comes of a wild monster: with nobody standing the team heals, and one that is too strong
is left alone. -/
def meetWild (e : Engine) (wild : MonsterInstance) : EncounterResult × Engine :=
  match e.trainer.team.find? (·.alive) with
  | none => (nothing [], healTeam e)
  | some lead =>
    if lead.level + fleeLevelGap < wild.level then
      (⟨true, some wild, none, none, none,
          ["Lv." ++ toString wild.level ++ " " ++ wild.name ++ " was too strong, backed off"]⟩,
        { e with state := .idle })
    else fightWild env e lead wild

/-- Whether tall grass rustles. A forced encounter draws nothing. -/
def rustle (r : Rng) (route : Route) (forced : Bool) : Bool × Rng :=
  if forced then (true, r)
  else
    let u := r.next
    (u.1 ≤ env.fl (route.encounterRate * encounterRateMult), u.2)

/-- Search the first route of a town. -/
def doWildEncounter (e : Engine) (town : Town) (forced : Bool := false) :
    EncounterResult × Engine :=
  match town.routes.head?.bind (routeById env) with
  | none => (nothing [], e)
  | some route =>
    let found := rustle env e.rng route forced
    if found.1 then
      let wild := generateWildMonster env.fl route env.getTemplate found.2 env.buffs
      let e := { e with state := .hunting, rng := wild.2 }
      match wild.1 with
      | none => (nothing [], e)
      | some wild => meetWild env e wild
    else (nothing ["searching " ++ route.name], { e with state := .hunting, rng := found.2 })

/-! ## Ticks -/

/-- Move on if the way is open, else hunt. -/
def roam (e : Engine) (town : Town) : TickResult × Engine :=
  match moveTarget env e.trainer town with
  | some next =>
    let e := moveToTown e next
    (⟨e.state, .move, some next.name, none⟩, e)
  | none =>
    let enc := doWildEncounter env e town
    (⟨enc.2.state, if enc.1.caught = some true then .caught else .hunt, none, some enc.1⟩, enc.2)

/-- Challenge the gym of a town, if it has one and the engine should, else roam. -/
def gymOrRoam (e : Engine) (town : Town) : TickResult × Engine :=
  if e.trainer.strat.autoGym = some false then roam env e town
  else
    let should := shouldChallengeGym env e town
    match should.1, town.gym with
    | true, some gym =>
      let won := doGymChallenge env should.2 gym
      (⟨won.2.state, .gym, some (if won.1 then "won" else "lost"), none⟩, won.2)
    | _, _ => roam env should.2 town

/-- Advance the run by one decision. -/
def tick (e : Engine) : TickResult × Engine :=
  match currentTown env e.trainer with
  | none => (⟨e.state, .idle, none, none⟩, e)
  | some town =>
    if needsHeal env e.trainer then
      let e := healTeam e
      (⟨e.state, .heal, none, none⟩, e)
    else gymOrRoam env e town

/-- `n` ticks. -/
def ticks (n : ℕ) : Engine → Engine := (fun e => (tick env e).2)^[n]

end Engine

end Pokeage.Game
