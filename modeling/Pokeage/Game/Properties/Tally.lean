import Pokeage.Game.Properties.Placement

/-!
# Balls, catches and battles

A tick makes at most a handful of calls whose results change a counter: a gym, a wild fight, a ball and
the placement of what it caught. `tickCalls` lists them, branch for branch as the engine makes them.

`Booked` says how the trainer's counters follow from such a list. It holds of the empty list and of two
lists one after the other, so it goes up the call graph and then along a run.
-/

namespace Pokeage.Game

/-! ## A place for what is wanted -/

theorem writeBack_length (team party : List MonsterInstance) :
    (writeBack team party).length = team.length := by
  fun_induction writeBack team party with
  | case1 => rfl
  | case2 => rfl
  | case3 m team p party _ ih => simp [ih]
  | case4 m team p party _ ih => simp [ih]

theorem weakestOf_mem {all : List MonsterInstance} {w : MonsterInstance}
    (h : weakestOf all = some w) : w ∈ all := by
  cases all with
  | nil => cases h
  | cons first rest =>
    obtain rfl := Option.some.inj h
    clear h
    induction rest generalizing first with
    | nil => exact List.mem_singleton_self first
    | cons m rest ih =>
      rw [List.foldl_cons]
      by_cases weaker : getMonsterPower m < getMonsterPower first
      · rw [if_pos weaker]
        exact List.mem_cons_of_mem _ (ih m)
      · rw [if_neg weaker]
        rcases List.mem_cons.1 (ih first) with same | later
        · rw [same]
          exact List.mem_cons_self
        · exact List.mem_cons_of_mem _ (List.mem_cons_of_mem _ later)

/-- What is worth a ball finds a place: `placeNewMonster` never declines what `shouldCatch` wants. -/
theorem Placed.of_wanted {t t' : Trainer} {wild : MonsterInstance} {res : PlacementResult}
    (h : Placed t wild (res, t'))
    (worth : t.roster.length < partySize + boxSize ∨ isUpgrade t.roster wild = true) :
    res.placed = true ∧
      t'.team.length + t'.box.length + (if res.released.isSome then 1 else 0) =
        t.team.length + t.box.length + 1 := by
  cases h with
  | party => simp [Nat.add_right_comm]
  | box => simp [Nat.add_assoc]
  | declined full weak =>
    exfalso
    rcases worth with room | upgrade
    · have team := full.team
      have box := full.box
      unfold Trainer.roster at room
      rw [List.length_append] at room
      omega
    · unfold isUpgrade at upgrade
      cases weakest : weakestOf t.roster with
      | none =>
        cases empty : t.roster with
        | nil =>
          have team := full.team
          rw [(List.append_eq_nil_iff.1 empty).1] at team
          exact absurd team (by decide)
        | cons m rest =>
          rw [empty] at weakest
          cases weakest
      | some w =>
        rw [weakest] at upgrade
        exact absurd (of_decide_eq_true upgrade) (not_lt.2 (weak w (weakestOf_mem weakest)))
  | inParty _ here =>
    exact ⟨rfl, congrArg (· + t.box.length + 1) (length_eraseIdx_append here)⟩
  | inBox _ here =>
    exact ⟨rfl, congrArg (t.team.length + · + 1) (length_eraseIdx_append here)⟩

namespace Engine

/-! ## The calls of a tick -/

/-- A call that a counter depends on, with what came of it. -/
inductive Call where
  | simulateGym (result : GymResult)
  | simulateAuto (result : AutoResult)
  | attemptCatch (result : CatchResult)
  | placeNewMonster (result : PlacementResult)

namespace Call

/-- A gym was won. -/
@[simp] def wonGym : Call → Bool
  | simulateGym result => result.won
  | _ => false

/-- A wild monster was fought. -/
@[simp] def fight : Call → Bool
  | simulateAuto _ => true
  | _ => false

/-- A wild monster was beaten. -/
@[simp] def wonFight : Call → Bool
  | simulateAuto result => result.won
  | _ => false

/-- A ball was thrown. -/
@[simp] def attempt : Call → Bool
  | attemptCatch _ => true
  | _ => false

/-- A ball held. -/
@[simp] def success : Call → Bool
  | attemptCatch result => result.caught
  | _ => false

/-- A monster was placed. -/
@[simp] def placing : Call → Bool
  | placeNewMonster result => result.placed
  | _ => false

/-- One was released for it. -/
@[simp] def release : Call → Bool
  | placeNewMonster result => result.released.isSome
  | _ => false

end Call

variable (env : Env)

/-- The calls of `throwBall`. -/
def throwCalls (t : Trainer) (wild : MonsterInstance) (r : Rng) : List Call :=
  if shouldCatch t wild then
    let cr := attemptCatch env.fl wild 1 r
    let t := { t with items := { t.items with ball := t.items.ball - cr.1.ballsUsed } }
    .attemptCatch cr.1 ::
      if cr.1.caught then [.placeNewMonster (placeNewMonster t wild).1] else []
  else []

/-- The calls of `fightWild`. -/
def fightCalls (e : Engine) (lead wild : MonsterInstance) : List Call :=
  let result := simulateAuto env.fl lead wild e.rng
  let lead := { lead with currentHP := result.1.hpRemaining }
  let t := { e.trainer with totalBattles := e.trainer.totalBattles + 1 }
  .simulateAuto result.1 ::
    if result.1.won then
      throwCalls env { t with team := writeBack t.team [(spoils env lead wild).1] } wild result.2
    else []

/-- The calls of `meetWild`. -/
def meetCalls (e : Engine) (wild : MonsterInstance) : List Call :=
  match e.trainer.team.find? (·.alive) with
  | none => []
  | some lead => if lead.level + fleeLevelGap < wild.level then [] else fightCalls env e lead wild

/-- The calls of `doWildEncounter`. -/
def encounterCalls (e : Engine) (town : Town) (forced : Bool := false) : List Call :=
  match town.routes.head?.bind (routeById env) with
  | none => []
  | some route =>
    let found := rustle env e.rng route forced
    if found.1 then
      let wild := generateWildMonster env.fl route env.getTemplate found.2 env.buffs
      match wild.1 with
      | none => []
      | some mon => meetCalls env { e with state := .hunting, rng := wild.2 } mon
    else []

/-- The calls of `roam`. -/
def roamCalls (e : Engine) (town : Town) : List Call :=
  match moveTarget env e.trainer town with
  | some _ => []
  | none => encounterCalls env e town

/-- The call of `doGymChallenge`. -/
def gymCalls (e : Engine) (gym : Gym) : List Call :=
  let party := (e.trainer.team.filter (·.alive)).take 4
  [.simulateGym (simulateGym env.fl party gym.team env.getTemplate e.rng).1]

/-- The calls of `gymOrRoam`. -/
def gymOrRoamCalls (e : Engine) (town : Town) : List Call :=
  if e.trainer.strat.autoGym = some false then roamCalls env e town
  else
    let should := shouldChallengeGym env e town
    match should.1, town.gym with
    | true, some gym => gymCalls env should.2 gym
    | _, _ => roamCalls env should.2 town

/-- The calls of a tick. -/
def tickCalls (e : Engine) : List Call :=
  match currentTown env e.trainer with
  | none => []
  | some town => if needsHeal env e.trainer then [] else gymOrRoamCalls env e town

/-- The calls of `n` ticks, in order. -/
def runCalls : ℕ → Engine → List Call
  | 0, _ => []
  | n + 1, e => tickCalls env e ++ runCalls n (tick env e).2

/-! ## What the counters owe to the calls -/

/-- The trainer `t'` has come out of `t` through these calls. -/
structure Booked (calls : List Call) (t t' : Trainer) : Prop where
  balls : t'.items.ball =
    t.items.ball + 3 * (calls.countP Call.wonGym : ℕ) - (calls.countP Call.attempt : ℕ)
  stock : 0 ≤ t.items.ball → 0 ≤ t'.items.ball
  badges : t'.badges.length = t.badges.length + calls.countP Call.wonGym
  totalCaught : t'.totalCaught = t.totalCaught + calls.countP Call.success
  placed : calls.countP Call.placing = calls.countP Call.success
  roster : t'.team.length + t'.box.length + calls.countP Call.release =
    t.team.length + t.box.length + calls.countP Call.success
  totalBattles : t'.totalBattles = t.totalBattles + calls.countP Call.fight

theorem Booked.trans {calls calls' : List Call} {t t' t'' : Trainer} (h : Booked calls t t')
    (h' : Booked calls' t' t'') : Booked (calls ++ calls') t t'' := by
  obtain ⟨balls, stock, badges, caught, placed, roster, battles⟩ := h
  obtain ⟨balls', stock', badges', caught', placed', roster', battles'⟩ := h'
  refine ⟨?_, fun start => stock' (stock start), ?_, ?_, ?_, ?_, ?_⟩
  all_goals
    simp only [List.countP_append, Nat.cast_add]
    omega

/-- Nothing is called, and no counter changes. -/
theorem Booked.nil {t t' : Trainer} (items : t'.items = t.items) (badges : t'.badges = t.badges)
    (team : t'.team.length = t.team.length) (box : t'.box = t.box)
    (caught : t'.totalCaught = t.totalCaught) (battles : t'.totalBattles = t.totalBattles) :
    Booked [] t t' where
  balls := by simp [items]
  stock start := items.symm ▸ start
  badges := by simp [badges]
  totalCaught := by simp [caught]
  placed := rfl
  roster := by simp [team, box]
  totalBattles := by simp [battles]

theorem Booked.refl (t : Trainer) : Booked [] t t := .nil rfl rfl rfl rfl rfl rfl

/-- A call that succeeds is made. -/
theorem countP_success_le (calls : List Call) :
    calls.countP Call.success ≤ calls.countP Call.attempt :=
  List.countP_mono_left fun c _ h => by cases c <;> simp_all [Call.success, Call.attempt]

theorem countP_wonFight_le (calls : List Call) :
    calls.countP Call.wonFight ≤ calls.countP Call.fight :=
  List.countP_mono_left fun c _ h => by cases c <;> simp_all [Call.wonFight, Call.fight]

/-! ## One tick -/

/-! ### One call -/

section

variable {env} {t t' : Trainer}

/-- A won gym is a badge and three balls. -/
theorem Booked.gymWon {result : GymResult} (won : result.won = true) {team : List MonsterInstance}
    (length : team.length = t.team.length) (badge : String) :
    Booked [.simulateGym result] t { t with
      team
      badges := t.badges ++ [badge]
      items := { t.items with ball := t.items.ball + 3 } } := by
  constructor
  case stock => exact fun start => Int.add_nonneg start (by decide)
  all_goals simp [won, length]

theorem Booked.gymLost {result : GymResult} (lost : result.won = false)
    {team : List MonsterInstance} (length : team.length = t.team.length) :
    Booked [.simulateGym result] t { t with team } := by
  constructor
  case stock => exact id
  all_goals simp [lost, length]

theorem Booked.battled (result : AutoResult) {team : List MonsterInstance}
    (length : team.length = t.team.length) : Booked [.simulateAuto result] t (battled t team) := by
  unfold Engine.battled
  constructor
  case stock => exact id
  all_goals simp [List.countP_cons, length]

/-- A ball that misses is gone. -/
theorem Booked.missed {result : CatchResult} (miss : result.caught = false)
    (balls : 0 < t.items.ball) : Booked [.attemptCatch result] t (thrown t) := by
  unfold Engine.thrown
  constructor
  case stock => exact fun _ => Int.sub_nonneg_of_le balls
  all_goals simp [List.countP_cons, miss]

/-- A ball that hits is gone, too, and the newcomer has its place. -/
theorem Booked.caught {result : CatchResult} {wild : MonsterInstance} {res : PlacementResult}
    (hit : result.caught = true) (want : Wanted t wild) (h : Placed (thrown t) wild (res, t')) :
    Booked [.attemptCatch result, .placeNewMonster res] t
      { t' with totalCaught := t'.totalCaught + 1 } := by
  obtain ⟨found, roster⟩ := h.of_wanted want.worth
  have items : t'.items = (thrown t).items := h.same fun _ _ _ => rfl
  have badges : t'.badges = (thrown t).badges := h.same fun _ _ _ => rfl
  have caught : t'.totalCaught = (thrown t).totalCaught := h.same fun _ _ _ => rfl
  have battles : t'.totalBattles = (thrown t).totalBattles := h.same fun _ _ _ => rfl
  have ball : t'.items.ball = t.items.ball - 1 := congrArg (·.ball) items
  have balls := want.balls
  unfold Engine.thrown at badges caught battles roster
  constructor
  case stock =>
    intro _
    show 0 ≤ t'.items.ball
    omega
  case roster => by_cases freed : res.released.isSome <;> simpa [hit, freed] using roster
  all_goals simp [List.countP_cons, hit, found, ball, badges, caught, battles]

end

/-! ### Up the call graph -/

/-- A throw is booked. -/
theorem throwBall_booked (t : Trainer) (wild : MonsterInstance) (r : Rng) :
    Booked (throwCalls env t wild r) t (throwBall env t wild r).2.2.1 := by
  unfold throwCalls throwBall
  split
  · next wanted =>
    dsimp only
    split
    · next hit =>
      exact .caught hit (shouldCatch_wanted wanted) (placeNewMonster_placed _ wild)
    · next miss =>
      exact .missed (Bool.eq_false_of_not_eq_true miss) (shouldCatch_wanted wanted).balls
  · exact .refl t

/-- So is a fight in the wild. -/
theorem fightWild_booked (e : Engine) (lead wild : MonsterInstance) :
    Booked (fightCalls env e lead wild) e.trainer (fightWild env e lead wild).2.trainer := by
  unfold fightCalls fightWild
  dsimp only
  split
  · exact (Booked.battled _ (writeBack_length _ _)).trans (throwBall_booked env _ wild _)
  · exact .battled _ (writeBack_length _ _)

theorem meetWild_booked (e : Engine) (wild : MonsterInstance) :
    Booked (meetCalls env e wild) e.trainer (meetWild env e wild).2.trainer := by
  unfold meetCalls meetWild
  cases e.trainer.team.find? (·.alive) with
  | none => exact .nil rfl rfl (List.length_map _) rfl rfl rfl
  | some lead =>
    dsimp only
    split
    · exact .refl _
    · exact fightWild_booked env e lead wild

/-- So is a search. -/
theorem doWildEncounter_booked (e : Engine) (town : Town) (forced : Bool) :
    Booked (encounterCalls env e town forced) e.trainer
      (doWildEncounter env e town forced).2.trainer := by
  unfold encounterCalls doWildEncounter
  cases town.routes.head?.bind (routeById env) with
  | none => exact .refl _
  | some route =>
    dsimp only
    split
    · cases (generateWildMonster env.fl route env.getTemplate (rustle env e.rng route forced).2
        env.buffs).1 with
      | none => exact .refl _
      | some wild => exact meetWild_booked env { e with state := .hunting, rng := _ } wild
    · exact .refl _

theorem roam_booked (e : Engine) (town : Town) :
    Booked (roamCalls env e town) e.trainer (roam env e town).2.trainer := by
  unfold roamCalls roam
  cases moveTarget env e.trainer town with
  | some next => exact .nil rfl rfl (List.length_map _) rfl rfl rfl
  | none => exact doWildEncounter_booked env e town false

/-- So is a challenge. -/
theorem doGymChallenge_booked (e : Engine) (gym : Gym) :
    Booked (gymCalls env e gym) e.trainer (doGymChallenge env e gym).2.trainer := by
  unfold gymCalls doGymChallenge
  dsimp only
  split
  · next won => exact .gymWon won (writeBack_length _ _) gym.badge
  · next lost => exact .gymLost (Bool.eq_false_of_not_eq_true lost) (writeBack_length _ _)

theorem shouldChallengeGym_trainer (e : Engine) (town : Town) :
    (shouldChallengeGym env e town).2.trainer = e.trainer := by
  unfold shouldChallengeGym
  split
  · rfl
  · split_ifs <;> rfl

theorem gymOrRoam_booked (e : Engine) (town : Town) :
    Booked (gymOrRoamCalls env e town) e.trainer (gymOrRoam env e town).2.trainer := by
  have same := shouldChallengeGym_trainer env e town
  unfold gymOrRoamCalls gymOrRoam
  split
  · exact roam_booked env e town
  · dsimp only
    rw [← same]
    cases (shouldChallengeGym env e town).1 with
    | false => exact roam_booked env _ town
    | true =>
      cases town.gym with
      | none => exact roam_booked env _ town
      | some gym => exact doGymChallenge_booked env _ gym

/-- So is a tick. -/
theorem tick_booked (e : Engine) :
    Booked (tickCalls env e) e.trainer (tick env e).2.trainer := by
  unfold tickCalls tick
  cases currentTown env e.trainer with
  | none => exact .refl _
  | some town =>
    dsimp only
    split
    · exact .nil rfl rfl (List.length_map _) rfl rfl rfl
    · exact gymOrRoam_booked env e town

/-- So is a run. -/
theorem ticks_booked (n : ℕ) (e : Engine) :
    Booked (runCalls env n e) e.trainer (ticks env n e).trainer := by
  induction n generalizing e with
  | zero => exact .refl _
  | succ n ih => exact (tick_booked env e).trans (ih (tick env e).2)

/-! ## Every ball follows a won fight -/

/-- At most one ball is thrown. -/
theorem throwCalls_attempts (t : Trainer) (wild : MonsterInstance) (r : Rng) :
    (throwCalls env t wild r).countP Call.attempt ≤ 1 := by
  unfold throwCalls
  split
  · rw [List.countP_cons_of_pos rfl]
    split <;> simp
  · exact Nat.zero_le 1

/-- A ball is thrown only after a win. -/
theorem fightCalls_attempts (e : Engine) (lead wild : MonsterInstance) :
    (fightCalls env e lead wild).countP Call.attempt ≤
      (fightCalls env e lead wild).countP Call.wonFight := by
  unfold fightCalls
  dsimp only
  split
  · next won =>
    have counted : (Call.simulateAuto (simulateAuto env.fl lead wild e.rng).1).wonFight = true := won
    rw [List.countP_cons_of_neg Bool.false_ne_true, List.countP_cons_of_pos counted]
    exact (throwCalls_attempts env _ wild _).trans (Nat.le_add_left 1 _)
  · simp

/-- No tick throws a ball without having won a fight. -/
theorem tickCalls_attempts (e : Engine) :
    (tickCalls env e).countP Call.attempt ≤ (tickCalls env e).countP Call.wonFight := by
  have meet (e : Engine) (wild : MonsterInstance) : (meetCalls env e wild).countP Call.attempt ≤
      (meetCalls env e wild).countP Call.wonFight := by
    unfold meetCalls
    split
    · exact le_rfl
    · split
      · exact le_rfl
      · exact fightCalls_attempts env e _ wild
  have roams (e : Engine) (town : Town) : (roamCalls env e town).countP Call.attempt ≤
      (roamCalls env e town).countP Call.wonFight := by
    unfold roamCalls encounterCalls
    split
    · exact le_rfl
    · split
      · exact le_rfl
      · dsimp only
        split
        · split
          · exact le_rfl
          · exact meet _ _
        · exact le_rfl
  unfold tickCalls gymOrRoamCalls
  split
  · exact le_rfl
  · split
    · exact le_rfl
    · split
      · exact roams e _
      · dsimp only
        split
        · exact le_rfl
        · exact roams _ _

/-- So over a run. -/
theorem runCalls_attempts (n : ℕ) (e : Engine) :
    (runCalls env n e).countP Call.attempt ≤ (runCalls env n e).countP Call.wonFight := by
  induction n generalizing e with
  | zero => exact le_rfl
  | succ n ih =>
    unfold runCalls
    rw [List.countP_append, List.countP_append]
    exact Nat.add_le_add (tickCalls_attempts env e) (ih _)

/-! ## Runs -/

/-- **Item and catch accounting.** Balls, catches, roster and battles of a run follow from the calls it
has made. -/
theorem run_accounts (env : Env) (e : Engine) (stock : 0 ≤ e.trainer.items.ball) (n : ℕ) :
    let calls := runCalls env n e
    let now := (ticks env n e).trainer
    (0 ≤ now.items.ball ∧
      now.items.ball = e.trainer.items.ball + 3 * ((now.badges.length : ℤ) - e.trainer.badges.length) -
        (calls.countP Call.attempt : ℕ)) ∧
    now.badges.length = e.trainer.badges.length + calls.countP Call.wonGym ∧
    (now.totalCaught = e.trainer.totalCaught + calls.countP Call.success ∧
      calls.countP Call.success = calls.countP Call.placing) ∧
    ((now.team.length : ℤ) - e.trainer.team.length) + ((now.box.length : ℤ) - e.trainer.box.length) =
      (calls.countP Call.success : ℤ) - (calls.countP Call.release : ℤ) ∧
    calls.countP Call.success ≤ calls.countP Call.attempt ∧
    calls.countP Call.attempt ≤ calls.countP Call.wonFight ∧
    e.trainer.totalBattles + calls.countP Call.wonFight ≤ now.totalBattles := by
  intro calls now
  have booked : Booked calls e.trainer now := ticks_booked env n e
  have wins : calls.countP Call.wonFight ≤ calls.countP Call.fight := countP_wonFight_le calls
  obtain ⟨balls, stocked, badges, caught, placed, roster, battles⟩ := booked
  refine ⟨⟨stocked stock, ?_⟩, badges, ⟨caught, placed.symm⟩, ?_, countP_success_le calls,
    runCalls_attempts env n e, ?_⟩
  · omega
  · omega
  · omega

/-- The stock of the trainer of the tests. -/
theorem run_accounts_freshEngine :
    0 ≤ (ticks sampleEnv 400 (freshEngine 123)).trainer.items.ball :=
  (run_accounts sampleEnv (freshEngine 123) (by decide) 400).1.1

end Engine

end Pokeage.Game
