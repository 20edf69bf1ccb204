import Pokeage.Game.Save

/-!
# The move cache is never read

A tick gives the same result, and the same trainer up to cached moves, whether or not the moves of
its monsters are cached. Going down the call graph, every function commutes with `stripMon`.
-/

namespace Pokeage.Game

@[simp] theorem Trainer.stripped_stripped (t : Trainer) : t.stripped.stripped = t.stripped := by
  unfold Trainer.stripped
  simp only [List.map_map]
  rfl

variable (fl : Floats)

/-! ## Growth -/

/-- Levelling up reads no move. -/
theorem levelUp_stripMon (mon : MonsterInstance) (template : MonsterTemplate) (cost : ℤ) :
    levelUp fl (stripMon mon) template cost =
      (stripMon (levelUp fl mon template cost).1, (levelUp fl mon template cost).2) := by
  unfold levelUp stripMon
  dsimp only
  split
  · rfl
  · split <;> rfl

theorem levelLoop_stripMon (mon : MonsterInstance) (template : MonsterTemplate)
    (events : List ProgressEvent) :
    levelLoop fl (stripMon mon) template events =
      (stripMon (levelLoop fl mon template events).1, (levelLoop fl mon template events).2) := by
  fun_induction levelLoop fl mon template events with
  | case1 mon events hxp =>
    rw [levelLoop, show getXpForLevel fl (stripMon mon).level = none from hxp]
  | case2 mon events cost hxp h up ih =>
    rw [levelLoop, show getXpForLevel fl (stripMon mon).level = some cost from hxp]
    dsimp only
    rw [if_pos (show cost ≤ (stripMon mon).xp ∧ (stripMon mon).level < maxLevel from h),
      levelUp_stripMon]
    exact ih
  | case3 mon events cost hxp h =>
    rw [levelLoop, show getXpForLevel fl (stripMon mon).level = some cost from hxp]
    exact if_neg h

/-- Nor does a grant. -/
theorem grantXp_stripMon (mon : MonsterInstance) (amount : ℤ) (template : MonsterTemplate) :
    grantXp fl (stripMon mon) amount template =
      (stripMon (grantXp fl mon amount template).1, (grantXp fl mon amount template).2) :=
  levelLoop_stripMon fl { mon with xp := mon.xp + amount } template []

/-! ## Fights -/

theorem autoLoop_stripMon (party wild : MonsterInstance) (turns : ℕ) (s : Standing) :
    autoLoop fl (stripMon party) wild turns s = autoLoop fl party wild turns s := by
  fun_induction autoLoop fl party wild turns s with
  | case1 turns s h ih =>
    rw [autoLoop, if_pos h]
    exact ih
  | case2 turns s h => rw [autoLoop, if_neg h]

/-- Nor does a fight in the wild. -/
theorem simulateAuto_stripMon (party wild : MonsterInstance) (r : Rng) :
    simulateAuto fl (stripMon party) wild r = simulateAuto fl party wild r := by
  unfold simulateAuto
  rw [autoLoop_stripMon]
  rfl

theorem bout_stripMon (my foe : MonsterInstance) (s : Standing) :
    bout fl (stripMon my) foe s = bout fl my foe s := by
  fun_induction bout fl my foe s with
  | case1 s h ih =>
    rw [bout, if_pos h]
    exact ih
  | case2 s h => rw [bout, if_neg h]

theorem gymRound_stripMon (myMon : MonsterInstance) (tpl : MonsterTemplate) (entry : GymEntry)
    (g : GymFight) :
    gymRound fl (stripMon myMon) tpl entry g = gymRound fl myMon tpl entry g := by
  unfold gymRound
  dsimp only
  rw [bout_stripMon]
  rfl

/-- Nor does the loop of a gym. -/
theorem gymLoop_map_stripMon (party : List MonsterInstance) (gymTeam : List GymEntry)
    (getTemplate : TemplateResolver) (g : GymFight) :
    gymLoop fl (party.map stripMon) gymTeam getTemplate g =
      gymLoop fl party gymTeam getTemplate g := by
  fun_induction gymLoop fl party gymTeam getTemplate g with
  | case1 g h entry hnone ih =>
    rw [gymLoop, dif_pos (by rwa [List.length_map])]
    dsimp only
    rw [show getTemplate (gymTeam.get ⟨g.gymIdx, h.2⟩).monsterId = none from hnone]
    exact ih
  | case2 g h entry tpl hsome ih =>
    rw [gymLoop, dif_pos (by rwa [List.length_map])]
    dsimp only
    rw [show getTemplate (gymTeam.get ⟨g.gymIdx, h.2⟩).monsterId = some tpl from hsome]
    simp only [List.get_eq_getElem, List.getElem_map, gymRound_stripMon]
    exact ih
  | case3 g h => rw [gymLoop, dif_neg (by rwa [List.length_map])]

/-- Nor does a gym, up to the caches of the party it returns. -/
theorem simulateGym_map_stripMon (party : List MonsterInstance) (gymTeam : List GymEntry)
    (getTemplate : TemplateResolver) (r : Rng) :
    simulateGym fl (party.map stripMon) gymTeam getTemplate r =
      ((simulateGym fl party gymTeam getTemplate r).1,
        (simulateGym fl party gymTeam getTemplate r).2.1.map stripMon,
        (simulateGym fl party gymTeam getTemplate r).2.2) := by
  have hps : (party.map stripMon).map (·.currentHP) = party.map (·.currentHP) := List.map_map
  unfold simulateGym
  rw [hps]
  dsimp only
  rw [gymLoop_map_stripMon, List.zipWith_map_left, List.map_zipWith]
  rfl

/-! ## The roster -/

/-- The weakest does not depend on the caches. -/
theorem weakestIdx_map_stripMon (all : List MonsterInstance) :
    weakestIdx (all.map stripMon) = weakestIdx all := by
  unfold weakestIdx
  rw [List.zipIdx_map, List.foldl_map, List.head?_map, Option.map_map]
  rfl

theorem foldl_weaker_stripMon (rest : List MonsterInstance) (first : MonsterInstance) :
    (rest.map stripMon).foldl
        (fun w m => if getMonsterPower m < getMonsterPower w then m else w) (stripMon first) =
      stripMon
        (rest.foldl (fun w m => if getMonsterPower m < getMonsterPower w then m else w) first) := by
  induction rest generalizing first with
  | nil => rfl
  | cons m rest ih =>
    simp only [List.map_cons, List.foldl_cons]
    rw [← ih]
    congr 1
    show (if getMonsterPower m < getMonsterPower first then _ else _) = _
    split <;> rfl

theorem weakestOf_map_stripMon (all : List MonsterInstance) :
    weakestOf (all.map stripMon) = (weakestOf all).map stripMon := by
  cases all with
  | nil => rfl
  | cons first rest => exact congrArg some (foldl_weaker_stripMon rest first)

/-- Nor does what is worth a ball. -/
theorem shouldCatch_stripped (t : Trainer) (wild : MonsterInstance) :
    shouldCatch t.stripped wild = shouldCatch t wild := by
  have count : (t.team.map stripMon).filter (fun m => m.type = wild.type) =
      (t.team.filter fun m => m.type = wild.type).map stripMon := List.filter_map
  have dup (mons : List MonsterInstance) :
      (mons.map stripMon).any (fun m => m.templateId = wild.templateId) =
        mons.any fun m => m.templateId = wild.templateId := List.any_map
  have upgrade : isUpgrade ((t.team ++ t.box).map stripMon) wild =
      isUpgrade (t.team ++ t.box) wild := by
    unfold isUpgrade
    rw [weakestOf_map_stripMon]
    cases weakestOf (t.team ++ t.box) <;> rfl
  unfold shouldCatch
  simp only [Trainer.stripped, Trainer.strat, ← List.map_append, count, dup, upgrade,
    List.length_map]
  rfl

/-- Placing keeps caches where they were. -/
theorem placeNewMonster_stripped (t : Trainer) (newMon : MonsterInstance)
    (fresh : newMon.moves = none) :
    (placeNewMonster t.stripped newMon).2 = (placeNewMonster t newMon).2.stripped := by
  have snoc (mons : List MonsterInstance) :
      mons.map stripMon ++ [newMon] = (mons ++ [newMon]).map stripMon := by
    rw [List.map_append, List.map_singleton, show stripMon newMon = newMon by
      unfold stripMon
      rw [← fresh]]
  have weak : weakestIdx (t.stripped.team ++ t.stripped.box) = weakestIdx (t.team ++ t.box) := by
    unfold Trainer.stripped
    rw [← List.map_append, weakestIdx_map_stripMon]
  have team : t.stripped.team.length = t.team.length := List.length_map _
  have box : t.stripped.box.length = t.box.length := List.length_map _
  unfold placeNewMonster
  simp only [weak, team, box]
  split
  · simp only [Trainer.stripped, snoc]
  · split
    · simp only [Trainer.stripped, snoc]
    · split
      · rfl
      · split <;> simp only [Trainer.stripped, List.eraseIdx_map, snoc]

/-- A wild monster has no moves cached. -/
theorem generateWildMonster_moves (route : Route) (getTemplate : TemplateResolver) (r : Rng)
    (buffs : EncounterBuffs) (wild : MonsterInstance)
    (h : (generateWildMonster fl route getTemplate r buffs).1 = some wild) : wild.moves = none := by
  unfold generateWildMonster at h
  dsimp only at h
  split at h
  · cases h
  · cases h
    rfl

theorem filter_alive_stripMon (team : List MonsterInstance) :
    (team.map stripMon).filter (·.alive) = (team.filter (·.alive)).map stripMon :=
  List.filter_map

theorem writeBack_stripMon (team party : List MonsterInstance) :
    writeBack (team.map stripMon) (party.map stripMon) = (writeBack team party).map stripMon := by
  fun_induction writeBack team party with
  | case1 party => rfl
  | case2 team hteam =>
    cases team with
    | nil => rfl
    | cons m team => rfl
  | case3 m team p party h ih =>
    rw [List.map_cons, List.map_cons, writeBack, if_pos (show (stripMon m).alive from h), ih,
      List.map_cons]
  | case4 m team p party h ih =>
    rw [List.map_cons, List.map_cons, writeBack, if_neg (show ¬ (stripMon m).alive from h),
      List.map_cons, ← ih, List.map_cons]

/-! ## The engine -/

namespace Engine

variable (env : Env)

/-- An engine whose trainer has no move cached. -/
def stripped (e : Engine) : Engine := { e with trainer := e.trainer.stripped }

@[simp] theorem stripped_trainer (e : Engine) : e.stripped.trainer = e.trainer.stripped := rfl

/-- Healing asks for hit points only. -/
theorem needsHeal_stripped (t : Trainer) : needsHeal env t.stripped = needsHeal env t := by
  have fainted : allFainted t.stripped = allFainted t := List.all_map
  have lead : leadNeedsHeal env t.stripped = leadNeedsHeal env t := by
    unfold leadNeedsHeal Trainer.stripped
    rw [List.head?_map]
    cases t.team.head? <;> rfl
  unfold needsHeal
  rw [fainted, lead]
  rfl

theorem healTeam_stripped (e : Engine) : healTeam e.stripped = (healTeam e).stripped := by
  have heals : (e.trainer.team.map stripMon).map heal = (e.trainer.team.map heal).map stripMon := by
    rw [List.map_map, List.map_map]
    rfl
  unfold healTeam stripped Trainer.stripped
  simp only [heals]

theorem moveToTown_stripped (e : Engine) (town : Town) :
    moveToTown e.stripped town = (moveToTown e town).stripped :=
  healTeam_stripped
    { e with state := .moving, trainer := { e.trainer with location := town.id } }

theorem readyFor_stripped (t : Trainer) (town : Town) (gym : Gym) :
    readyFor env t.stripped town gym = readyFor env t town gym := by
  have standing : t.stripped.team.any (·.alive) = t.team.any (·.alive) := List.any_map
  have lead : leadReaches t.stripped gym = leadReaches t gym := by
    unfold leadReaches Trainer.stripped
    rw [List.head?_map]
    cases t.team.head? <;> rfl
  unfold readyFor
  rw [standing, lead]
  rfl

/-- The question for a gym reads no cache. -/
theorem shouldChallengeGym_stripped (e : Engine) (town : Town) :
    shouldChallengeGym env e.stripped town =
      ((shouldChallengeGym env e town).1, (shouldChallengeGym env e town).2.stripped) := by
  unfold shouldChallengeGym stripped
  cases town.gym with
  | none => rfl
  | some gym =>
    dsimp only
    rw [readyFor_stripped]
    show (if gym.badge ∈ e.trainer.badges then _ else _) = _
    split
    · rfl
    · split <;> rfl

theorem gainXp_stripMon (m : MonsterInstance) (amount : ℤ) :
    gainXp env (stripMon m) amount = stripMon (gainXp env m amount) := by
  have species : (stripMon m).templateId = m.templateId := rfl
  unfold gainXp
  rw [species]
  cases env.getTemplate m.templateId with
  | none => rfl
  | some tpl => exact congrArg Prod.fst (grantXp_stripMon env.fl m amount tpl)

/-- A challenge goes the same without caches. -/
theorem doGymChallenge_stripped (e : Engine) (gym : Gym) :
    doGymChallenge env e.stripped gym =
      ((doGymChallenge env e gym).1, (doGymChallenge env e gym).2.stripped) := by
  have party : ((e.trainer.team.map stripMon).filter (·.alive)).take 4 =
      ((e.trainer.team.filter (·.alive)).take 4).map stripMon := by
    rw [filter_alive_stripMon, List.map_take]
  have rewards (mons : List MonsterInstance) :
      (mons.map stripMon).map (gymReward env gym) = (mons.map (gymReward env gym)).map stripMon := by
    rw [List.map_map, List.map_map]
    exact List.map_congr_left fun m _ => gainXp_stripMon env m _
  unfold doGymChallenge stripped Trainer.stripped
  simp only [party, simulateGym_map_stripMon, rewards, writeBack_stripMon]
  split <;> rfl

theorem spoils_stripMon (lead wild : MonsterInstance) :
    spoils env (stripMon lead) wild =
      (stripMon (spoils env lead wild).1, (spoils env lead wild).2) :=
  congrArg (·, _) (gainXp_stripMon env
    (addAffection env.fl lead (affectionGainFor env.fl lead wild.level)).1 _)

/-- So does a throw. -/
theorem throwBall_stripped (t : Trainer) (wild : MonsterInstance) (r : Rng)
    (fresh : wild.moves = none) :
    throwBall env t.stripped wild r =
      ((throwBall env t wild r).1, (throwBall env t wild r).2.1,
        (throwBall env t wild r).2.2.1.stripped, (throwBall env t wild r).2.2.2) := by
  unfold throwBall
  rw [shouldCatch_stripped]
  split
  · dsimp only
    split
    · have placed := placeNewMonster_stripped { t with
        items := { t.items with ball := t.items.ball - (attemptCatch env.fl wild 1 r).1.ballsUsed } }
        wild fresh
      unfold Trainer.stripped at placed ⊢
      rw [placed]
    · rfl
  · rfl

/-- So does a fight in the wild. -/
theorem fightWild_stripped (e : Engine) (lead wild : MonsterInstance) (fresh : wild.moves = none) :
    fightWild env e.stripped (stripMon lead) wild =
      ((fightWild env e lead wild).1, (fightWild env e lead wild).2.stripped) := by
  have result : simulateAuto env.fl (stripMon lead) wild e.stripped.rng =
      simulateAuto env.fl lead wild e.rng := simulateAuto_stripMon env.fl lead wild e.rng
  have back (m : MonsterInstance) :
      writeBack (e.trainer.team.map stripMon) [stripMon m] =
        (writeBack e.trainer.team [m]).map stripMon := writeBack_stripMon e.trainer.team [m]
  unfold fightWild
  rw [result]
  dsimp only
  split
  · next hwon =>
    generalize (simulateAuto env.fl lead wild e.rng).1.hpRemaining = hp
    have spoil := spoils_stripMon env { lead with currentHP := hp } wild
    have thrown := throwBall_stripped env
      { e.trainer with
        totalBattles := e.trainer.totalBattles + 1
        team := writeBack e.trainer.team [(spoils env { lead with currentHP := hp } wild).1] }
      wild (simulateAuto env.fl lead wild e.rng).2 fresh
    unfold stripped Trainer.stripped at *
    dsimp only at *
    rw [← back] at thrown
    rw [show ({ stripMon lead with currentHP := hp } : MonsterInstance) =
      stripMon { lead with currentHP := hp } from rfl, spoil, thrown]
  · next hlost =>
    have fallen := back { lead with
      currentHP := (simulateAuto env.fl lead wild e.rng).1.hpRemaining }
    unfold stripped Trainer.stripped
    dsimp only
    rw [← fallen]
    rfl

/-- So does a meeting. -/
theorem meetWild_stripped (e : Engine) (wild : MonsterInstance) (fresh : wild.moves = none) :
    meetWild env e.stripped wild =
      ((meetWild env e wild).1, (meetWild env e wild).2.stripped) := by
  have lead : e.stripped.trainer.team.find? (·.alive) =
      (e.trainer.team.find? (·.alive)).map stripMon := List.find?_map
  unfold meetWild
  rw [lead]
  cases e.trainer.team.find? (·.alive) with
  | none => exact congrArg (_, ·) (healTeam_stripped e)
  | some lead =>
    dsimp only [Option.map_some]
    rw [fightWild_stripped env e lead wild fresh]
    show (if lead.level + fleeLevelGap < wild.level then _ else _) = _
    split <;> rfl

/-- So does a search. -/
theorem doWildEncounter_stripped (e : Engine) (town : Town) (forced : Bool) :
    doWildEncounter env e.stripped town forced =
      ((doWildEncounter env e town forced).1, (doWildEncounter env e town forced).2.stripped) := by
  unfold doWildEncounter
  cases town.routes.head?.bind (routeById env) with
  | none => rfl
  | some route =>
    have draws : e.stripped.rng = e.rng := rfl
    dsimp only
    rw [draws]
    split
    · cases hwild : (generateWildMonster env.fl route env.getTemplate
        (rustle env e.rng route forced).2 env.buffs).1 with
      | none => rfl
      | some wild =>
        let found := generateWildMonster env.fl route env.getTemplate
          (rustle env e.rng route forced).2 env.buffs
        exact meetWild_stripped env { e with state := .hunting, rng := found.2 } wild
          (generateWildMonster_moves env.fl _ _ _ _ wild hwild)
    · rfl

/-- So does roaming. -/
theorem roam_stripped (e : Engine) (town : Town) :
    roam env e.stripped town = ((roam env e town).1, (roam env e town).2.stripped) := by
  have target : moveTarget env e.stripped.trainer town = moveTarget env e.trainer town := rfl
  unfold roam
  rw [target]
  cases moveTarget env e.trainer town with
  | some next =>
    dsimp only
    rw [moveToTown_stripped]
    rfl
  | none =>
    dsimp only
    rw [doWildEncounter_stripped]
    rfl

/-- So does a tick that does not heal. -/
theorem gymOrRoam_stripped (e : Engine) (town : Town) :
    gymOrRoam env e.stripped town =
      ((gymOrRoam env e town).1, (gymOrRoam env e town).2.stripped) := by
  unfold gymOrRoam
  rw [shouldChallengeGym_stripped]
  show (if e.trainer.strat.autoGym = some false then _ else _) = _
  split
  · exact roam_stripped env e town
  · dsimp only
    split
    · next gym _ _ =>
      dsimp only
      rw [doGymChallenge_stripped]
      rfl
    · exact roam_stripped env _ town

/-- **A tick does not read the move cache.** -/
theorem tick_stripped (e : Engine) :
    tick env e.stripped = ((tick env e).1, (tick env e).2.stripped) := by
  have here : currentTown env e.stripped.trainer = currentTown env e.trainer := rfl
  unfold tick
  rw [here]
  cases currentTown env e.trainer with
  | none => rfl
  | some town =>
    dsimp only
    rw [stripped_trainer, needsHeal_stripped]
    split
    · rw [healTeam_stripped]
      rfl
    · exact gymOrRoam_stripped env e town

/-- Nor does a run. -/
theorem ticks_stripped (n : ℕ) (e : Engine) :
    ticks env n e.stripped = (ticks env n e).stripped :=
  have tick_comm : Function.Commute (fun e => (tick env e).2) stripped := fun e =>
    congrArg Prod.snd (tick_stripped env e)
  tick_comm.iterate_left n e

end Engine

end Pokeage.Game
