import Pokeage.Game.Offline
import Pokeage.Game.Properties.Experience
import Pokeage.Game.Properties.LevelCap
import Pokeage.Game.Properties.Tally

/-!
# What happened while the player was away

The summary takes the difference of two snapshots. Battles, catches and badges only ever count up, but
the levels of the team are also those of whoever has joined it. `tickContest` is what a tick fights for;
it tells which grants of experience the tick makes and who joins the party.
-/

namespace Pokeage.Game

/-! ## Levels of a team -/

/-- The levels of a team together. -/
def levelSum (team : List MonsterInstance) : ℤ := (team.map (·.level)).sum

@[simp] theorem levelSum_nil : levelSum [] = 0 := rfl

@[simp] theorem levelSum_cons (m : MonsterInstance) (team : List MonsterInstance) :
    levelSum (m :: team) = m.level + levelSum team := rfl

@[simp] theorem levelSum_append (team team' : List MonsterInstance) :
    levelSum (team ++ team') = levelSum team + levelSum team' := by
  simp [levelSum]

/-- What a snapshot adds up are the levels of the team. -/
theorem snapshot_teamLv (e : Engine) : (snapshot e).teamLv = levelSum e.trainer.team := by
  have fold (team : List MonsterInstance) (s : ℤ) :
      team.foldl (fun s m => s + orElse m.level 0) s = s + levelSum team := by
    induction team generalizing s with
    | nil => simp
    | cons m team ih =>
      rw [List.foldl_cons, ih, orElse_zero, levelSum_cons, add_assoc]
  exact (fold e.trainer.team 0).trans (zero_add _)

theorem levelSum_eraseIdx {team : List MonsterInstance} {i : ℕ} {old : MonsterInstance}
    (here : team[i]? = some old) : levelSum (team.eraseIdx i) = levelSum team - old.level := by
  induction team generalizing i with
  | nil => cases here
  | cons m team ih =>
    cases i with
    | zero =>
      obtain rfl : m = old := Option.some.inj here
      simp
    | succ i =>
      rw [List.eraseIdx_cons_succ, levelSum_cons, levelSum_cons, ih here]
      omega

/-- A party goes back for those standing that it was made of. -/
theorem levelSum_writeBack {team party : List MonsterInstance} {k : ℕ}
    (fits : party.length = ((team.filter (·.alive)).take k).length) :
    levelSum (writeBack team party) =
      levelSum team + (levelSum party - levelSum ((team.filter (·.alive)).take k)) := by
  induction team generalizing party k with
  | nil =>
    obtain rfl : party = [] := List.eq_nil_of_length_eq_zero (by simpa using fits)
    simp [writeBack]
  | cons m team ih =>
    cases party with
    | nil =>
      have none : (((m :: team).filter (·.alive)).take k) = [] :=
        List.eq_nil_of_length_eq_zero fits.symm
      rw [none]
      simp [writeBack]
    | cons p party =>
      unfold writeBack
      by_cases alive : m.alive
      · have standing : (m :: team).filter (·.alive) = m :: team.filter (·.alive) :=
          List.filter_cons_of_pos alive
        rw [standing] at fits ⊢
        cases k with
        | zero => cases fits
        | succ k =>
          rw [List.take_succ_cons] at fits ⊢
          rw [if_pos alive, levelSum_cons, ih (Nat.succ.inj fits)]
          simp only [levelSum_cons]
          omega
      · have down : (m :: team).filter (·.alive) = team.filter (·.alive) :=
          List.filter_cons_of_neg alive
        rw [down] at fits ⊢
        rw [if_neg alive, levelSum_cons, ih fits]
        simp only [levelSum_cons]
        omega

/-! ## Level-ups -/

/-- The event is a level gained. -/
def ProgressEvent.isLevelup : ProgressEvent → Bool
  | .levelup _ => true
  | .evolve _ => false

/-- A call of `grantXp`. -/
structure Grant where
  mon : MonsterInstance
  amount : ℤ
  template : MonsterTemplate

/-- The level-ups that `grantXp` reports. -/
def Grant.levelUps (fl : Floats) (g : Grant) : ℕ :=
  (grantXp fl g.mon g.amount g.template).2.countP ProgressEvent.isLevelup

/-- One round tells of one level. -/
theorem levelUp_levelups (fl : Floats) (mon : MonsterInstance) (template : MonsterTemplate) (cost : ℤ) :
    (levelUp fl mon template cost).2.countP ProgressEvent.isLevelup = 1 := by
  unfold levelUp
  dsimp only
  split_ifs <;> rfl

/-- Every level of the loop is reported. -/
theorem levelLoop_levelups (fl : Floats) (mon : MonsterInstance) (template : MonsterTemplate)
    (events : List ProgressEvent) :
    (levelLoop fl mon template events).1.level + events.countP ProgressEvent.isLevelup =
      mon.level + (levelLoop fl mon template events).2.countP ProgressEvent.isLevelup := by
  fun_induction levelLoop fl mon template events with
  | case1 mon events none => rfl
  | case2 mon events cost price pays up ih =>
    have one : up.2.countP ProgressEvent.isLevelup = 1 := levelUp_levelups fl mon template cost
    have level : up.1.level = mon.level + 1 := levelUp_level fl mon template cost
    rw [List.countP_append, one, level] at ih
    push_cast at ih
    omega
  | case3 mon events cost price stop => rfl

/-- A grant raises the level by the levels it tells of. -/
theorem Grant.level (fl : Floats) (g : Grant) :
    (grantXp fl g.mon g.amount g.template).1.level = g.mon.level + g.levelUps fl := by
  have loop := levelLoop_levelups fl { g.mon with xp := g.mon.xp + g.amount } g.template []
  simpa [Grant.levelUps, grantXp] using loop

namespace Engine

variable (env : Env)

/-- The call of `gainXp`. -/
def gainGrants (m : MonsterInstance) (amount : ℤ) : List Grant :=
  match env.getTemplate m.templateId with
  | some tpl => [⟨m, amount, tpl⟩]
  | none => []

/-- What a monster gains in levels is in its grants. -/
theorem gainXp_level (m : MonsterInstance) (amount : ℤ) :
    (gainXp env m amount).level =
      m.level + (((gainGrants env m amount).map (Grant.levelUps env.fl)).sum : ℕ) := by
  unfold gainXp gainGrants
  cases env.getTemplate m.templateId with
  | none => simp
  | some tpl => simpa using Grant.level env.fl ⟨m, amount, tpl⟩

/-! ## What a tick fights for -/

/-- A wild fight or a gym challenge, with the engine it starts from. -/
inductive Contest where
  | fight (e : Engine) (lead wild : MonsterInstance)
  | challenge (e : Engine) (gym : Gym)

/-- What meeting a wild monster fights for, if anything. -/
def meetContest (e : Engine) (wild : MonsterInstance) : Option Contest :=
  match e.trainer.team.find? (·.alive) with
  | none => none
  | some lead => if lead.level + fleeLevelGap < wild.level then none else some (.fight e lead wild)

/-- What a search fights for. -/
def encounterContest (e : Engine) (town : Town) (forced : Bool := false) : Option Contest :=
  match town.routes.head?.bind (routeById env) with
  | none => none
  | some route =>
    let found := rustle env e.rng route forced
    if found.1 then
      let wild := generateWildMonster env.fl route env.getTemplate found.2 env.buffs
      match wild.1 with
      | none => none
      | some mon => meetContest { e with state := .hunting, rng := wild.2 } mon
    else none

/-- What roaming fights for. -/
def roamContest (e : Engine) (town : Town) : Option Contest :=
  match moveTarget env e.trainer town with
  | some _ => none
  | none => encounterContest env e town

/-- What a tick that does not heal fights for. -/
def gymOrRoamContest (e : Engine) (town : Town) : Option Contest :=
  if e.trainer.strat.autoGym = some false then roamContest env e town
  else
    let should := shouldChallengeGym env e town
    match should.1, town.gym with
    | true, some gym => some (.challenge should.2 gym)
    | _, _ => roamContest env should.2 town

/-- What a tick fights for. -/
def tickContest (e : Engine) : Option Contest :=
  match currentTown env e.trainer with
  | none => none
  | some town => if needsHeal env e.trainer then none else gymOrRoamContest env e town

/-- The contests of `n` ticks, in order. -/
def runContests : ℕ → Engine → List Contest
  | 0, _ => []
  | n + 1, e => (tickContest env e).toList ++ runContests n (tick env e).2

/-- A contest decides what the tick makes of the trainer; without one no level changes. -/
inductive Decided (t : Trainer) : Option Contest → Trainer → Prop
  | peaceful {t' : Trainer} (levels : levelSum t'.team = levelSum t.team) : Decided t none t'
  | fight {e : Engine} {lead wild : MonsterInstance} (same : e.trainer = t)
      (first : t.team.find? (·.alive) = some lead) :
      Decided t (some (.fight e lead wild)) (fightWild env e lead wild).2.trainer
  | challenge {e : Engine} {gym : Gym} (same : e.trainer = t) :
      Decided t (some (.challenge e gym)) (doGymChallenge env e gym).2.trainer

/-- Healing changes no level. -/
theorem levelSum_heal (team : List MonsterInstance) : levelSum (team.map heal) = levelSum team := by
  unfold levelSum
  rw [List.map_map]
  rfl

theorem meetWild_decided (e : Engine) (wild : MonsterInstance) :
    Decided env e.trainer (meetContest e wild) (meetWild env e wild).2.trainer := by
  unfold meetContest meetWild
  cases first : e.trainer.team.find? (·.alive) with
  | none => exact .peaceful (levelSum_heal _)
  | some lead =>
    dsimp only
    split
    · exact .peaceful rfl
    · exact .fight rfl first

theorem doWildEncounter_decided (e : Engine) (town : Town) (forced : Bool) :
    Decided env e.trainer (encounterContest env e town forced)
      (doWildEncounter env e town forced).2.trainer := by
  unfold encounterContest doWildEncounter
  cases town.routes.head?.bind (routeById env) with
  | none => exact .peaceful rfl
  | some route =>
    dsimp only
    split
    · cases (generateWildMonster env.fl route env.getTemplate (rustle env e.rng route forced).2
        env.buffs).1 with
      | none => exact .peaceful rfl
      | some wild => exact meetWild_decided env { e with state := .hunting, rng := _ } wild
    · exact .peaceful rfl

theorem roam_decided (e : Engine) (town : Town) :
    Decided env e.trainer (roamContest env e town) (roam env e town).2.trainer := by
  unfold roamContest roam
  cases moveTarget env e.trainer town with
  | some next => exact .peaceful (levelSum_heal _)
  | none => exact doWildEncounter_decided env e town false

theorem gymOrRoam_decided (e : Engine) (town : Town) :
    Decided env e.trainer (gymOrRoamContest env e town) (gymOrRoam env e town).2.trainer := by
  have same := shouldChallengeGym_trainer env e town
  unfold gymOrRoamContest gymOrRoam
  split
  · exact roam_decided env e town
  · dsimp only
    rw [← same]
    cases (shouldChallengeGym env e town).1 with
    | false => exact roam_decided env _ town
    | true =>
      cases town.gym with
      | none => exact roam_decided env _ town
      | some gym => exact .challenge rfl

/-- A tick decides what it fights for, if it fights. -/
theorem tick_decided (e : Engine) :
    Decided env e.trainer (tickContest env e) (tick env e).2.trainer := by
  unfold tickContest tick
  cases currentTown env e.trainer with
  | none => exact .peaceful rfl
  | some town =>
    dsimp only
    split
    · exact .peaceful (levelSum_heal _)
    · exact gymOrRoam_decided env e town

/-! ## Who gains levels and who joins -/

/-- The grants of a contest that was won. -/
def Contest.grants : Contest → List Grant
  | .fight e lead wild =>
    let result := simulateAuto env.fl lead wild e.rng
    let lead := { lead with currentHP := result.1.hpRemaining }
    if result.1.won then
      let lead := (addAffection env.fl lead (affectionGainFor env.fl lead wild.level)).1
      gainGrants env lead (wildXpReward env.fl lead.level wild.level env.xpBuff)
    else []
  | .challenge e gym =>
    let party := (e.trainer.team.filter (·.alive)).take 4
    let result := simulateGym env.fl party gym.team env.getTemplate e.rng
    if result.1.won then
      result.2.1.flatMap fun m =>
        gainGrants env m (gymXpReward env.fl m.level gym.team.length env.xpBuff)
    else []

/-- A catch that went to the party, with the member it replaced. -/
structure Join where
  newcomer : MonsterInstance
  released : Option MonsterInstance

/-- The levels that the party has more by it. -/
def Join.levels (j : Join) : ℤ := j.newcomer.level - (j.released.map (·.level)).getD 0

/-- Who joins the party by a placement. -/
def partyJoins (result : PlacementResult) (newMon : MonsterInstance) : List Join :=
  if result.place = .party then [⟨newMon, result.released⟩] else []

/-- Who joins by `throwBall`. -/
def throwJoins (t : Trainer) (wild : MonsterInstance) (r : Rng) : List Join :=
  if shouldCatch t wild then
    let cr := attemptCatch env.fl wild 1 r
    let t := { t with items := { t.items with ball := t.items.ball - cr.1.ballsUsed } }
    if cr.1.caught then partyJoins (placeNewMonster t wild).1 wild else []
  else []

/-- Who joins the party by a contest. -/
def Contest.joins : Contest → List Join
  | .fight e lead wild =>
    let result := simulateAuto env.fl lead wild e.rng
    let lead := { lead with currentHP := result.1.hpRemaining }
    let t := { e.trainer with totalBattles := e.trainer.totalBattles + 1 }
    if result.1.won then
      throwJoins env { t with team := writeBack t.team [(spoils env lead wild).1] } wild result.2
    else []
  | .challenge _ _ => []

/-- All level-ups of these contests. -/
def levelUps (contests : List Contest) : ℕ :=
  ((contests.flatMap (Contest.grants env)).map (Grant.levelUps env.fl)).sum

/-- The levels of those who joined, less those of the members they replaced. -/
def joinedLevels (contests : List Contest) : ℤ :=
  ((contests.flatMap (Contest.joins env)).map Join.levels).sum

@[simp] theorem levelUps_nil : levelUps env [] = 0 := rfl

@[simp] theorem levelUps_append (contests contests' : List Contest) :
    levelUps env (contests ++ contests') = levelUps env contests + levelUps env contests' := by
  simp [levelUps]

@[simp] theorem joinedLevels_nil : joinedLevels env [] = 0 := rfl

@[simp] theorem joinedLevels_append (contests contests' : List Contest) :
    joinedLevels env (contests ++ contests') =
      joinedLevels env contests + joinedLevels env contests' := by
  simp [joinedLevels]

/-! ### One contest -/

/-- A placement changes the levels of the team by those who join and leave. -/
theorem placed_levels {t t' : Trainer} {newMon : MonsterInstance} {res : PlacementResult}
    (h : Placed t newMon (res, t')) :
    levelSum t'.team = levelSum t.team + ((partyJoins res newMon).map Join.levels).sum := by
  cases h with
  | party => simp [partyJoins, Join.levels]
  | box => simp [partyJoins]
  | declined => simp [partyJoins]
  | inParty _ here =>
    simp [partyJoins, Join.levels, levelSum_eraseIdx here]
    omega
  | inBox => simp [partyJoins]

theorem throwBall_levels (t : Trainer) (wild : MonsterInstance) (r : Rng) :
    levelSum (throwBall env t wild r).2.2.1.team =
      levelSum t.team + ((throwJoins env t wild r).map Join.levels).sum := by
  unfold throwBall throwJoins
  split
  · dsimp only
    split
    · have levels := placed_levels (placeNewMonster_placed (thrown t) wild)
      exact levels
    · simp
  · simp

/-- The first that stands comes back from a fight. -/
theorem levelSum_writeBack_lead {team : List MonsterInstance} {lead : MonsterInstance}
    (first : team.find? (·.alive) = some lead) (lead' : MonsterInstance) :
    levelSum (writeBack team [lead']) = levelSum team + (lead'.level - lead.level) := by
  have party : (team.filter (·.alive)).take 1 = [lead] := by
    rw [List.take_one, List.head?_filter, first]
    rfl
  have back : levelSum (writeBack team [lead']) = levelSum team +
      (levelSum [lead'] - levelSum ((team.filter (·.alive)).take 1)) :=
    levelSum_writeBack (by rw [party]; rfl)
  rw [back, party]
  simp

/-- So does a fight in the wild, with what the lead gains. -/
theorem fightWild_levels {e : Engine} {lead wild : MonsterInstance}
    (first : e.trainer.team.find? (·.alive) = some lead) :
    levelSum (fightWild env e lead wild).2.trainer.team =
      levelSum e.trainer.team + levelUps env [.fight e lead wild] +
        joinedLevels env [.fight e lead wild] := by
  unfold fightWild levelUps joinedLevels
  simp only [List.flatMap_singleton, Contest.grants, Contest.joins]
  split
  · rw [throwBall_levels, levelSum_writeBack_lead first]
    unfold spoils
    dsimp only
    rw [gainXp_level]
    show _ + (lead.level + _ - lead.level) + _ = _
    rw [add_sub_cancel_left]
  · rw [levelSum_writeBack_lead first]
    simp

theorem simulateGym_levels (party : List MonsterInstance) (gymTeam : List GymEntry) (r : Rng) :
    levelSum (simulateGym env.fl party gymTeam env.getTemplate r).2.1 = levelSum party := by
  have same := (simulateGym_party env.fl party gymTeam env.getTemplate r).imp
    fun m m' h => show m.level = m'.level by
      obtain ⟨hp, -, -, rfl⟩ := h
      rfl
  have levels := List.forall₂_map_left_iff.2 (List.forall₂_map_right_iff.2 same)
  rw [List.forall₂_eq_eq_eq] at levels
  unfold levelSum
  rw [levels]

theorem rewarded_levels (gym : Gym) (party : List MonsterInstance) :
    levelSum (party.map (gymReward env gym)) = levelSum party +
      (((party.flatMap fun m => gainGrants env m (gymXpReward env.fl m.level gym.team.length
        env.xpBuff)).map (Grant.levelUps env.fl)).sum : ℕ) := by
  induction party with
  | nil => rfl
  | cons m party ih =>
    rw [List.map_cons, levelSum_cons, levelSum_cons, ih, gymReward, gainXp_level]
    simp only [List.flatMap_cons, List.map_append, List.sum_append, Nat.cast_add]
    omega

/-- A gym adds what the party gains. -/
theorem doGymChallenge_levels (e : Engine) (gym : Gym) :
    levelSum (doGymChallenge env e gym).2.trainer.team =
      levelSum e.trainer.team + levelUps env [.challenge e gym] + joinedLevels env [.challenge e gym] := by
  have length := simulateGym_length env.fl ((e.trainer.team.filter (·.alive)).take 4) gym.team
    env.getTemplate e.rng
  have levels := simulateGym_levels env ((e.trainer.team.filter (·.alive)).take 4) gym.team e.rng
  unfold doGymChallenge levelUps joinedLevels
  simp only [List.flatMap_singleton, Contest.grants, Contest.joins]
  split
  · rw [levelSum_writeBack ((List.length_map _).trans length), rewarded_levels, levels]
    simp
  · rw [levelSum_writeBack length, levels]
    simp

/-- What any contest changes of the levels of the team. -/
theorem Decided.levels {t t' : Trainer} {contest : Option Contest} (h : Decided env t contest t') :
    levelSum t'.team =
      levelSum t.team + levelUps env contest.toList + joinedLevels env contest.toList := by
  cases h with
  | peaceful levels => simp [levels]
  | fight same first =>
    subst same
    exact fightWild_levels env first
  | challenge same =>
    subst same
    exact doGymChallenge_levels env _ _

/-- The levels of the team after a run are those it gained and those that joined. -/
theorem ticks_levels (n : ℕ) (e : Engine) :
    levelSum (ticks env n e).trainer.team =
      levelSum e.trainer.team + levelUps env (runContests env n e) +
        joinedLevels env (runContests env n e) := by
  induction n generalizing e with
  | zero => simp [ticks, runContests]
  | succ n ih =>
    have later : levelSum (ticks env (n + 1) e).trainer.team = _ := ih (tick env e).2
    rw [later, (tick_decided env e).levels, runContests, levelUps_append, joinedLevels_append]
    push_cast
    omega

end Engine

/-! ## The summary -/

/-- The ticks that an absence is worth: `floor(min(max(0, elapsedMs), 24h) / TICK_MS)`. -/
def dueTicks (env : Env) (elapsedMs : ℚ) : ℤ := ⌊env.fl (min (max 0 elapsedMs) maxMs / tickMs)⌋

/-- The summary says what happened while the due ticks were replayed. -/
structure CountsEvents (env : Env) (e : Engine) (elapsedMs : ℚ) (calls : List Engine.Call)
    (contests : List Engine.Contest) (out : OfflineSummary × Engine) : Prop where
  ticks : out.1.ticks = dueTicks env elapsedMs
  replayed : out.2 = Engine.ticks env (dueTicks env elapsedMs).toNat e
  battles : out.1.battles = calls.countP Engine.Call.fight
  caught : out.1.caught = calls.countP Engine.Call.success
  badges : out.1.badges = calls.countP Engine.Call.wonGym
  levels : out.1.levels = Engine.levelUps env contests

/-- `levels` counts those of the newcomers to the party, too. -/
theorem runOfflineCatchup_levels (env : Env) (e : Engine) (elapsedMs : ℚ) :
    (runOfflineCatchup env e elapsedMs).1.levels =
      Engine.levelUps env (Engine.runContests env (dueTicks env elapsedMs).toNat e) +
        Engine.joinedLevels env (Engine.runContests env (dueTicks env elapsedMs).toNat e) := by
  have run := Engine.ticks_levels env (dueTicks env elapsedMs).toNat e
  have diff : (runOfflineCatchup env e elapsedMs).1.levels =
      (snapshot (Engine.ticks env (dueTicks env elapsedMs).toNat e)).teamLv -
        (snapshot e).teamLv := rfl
  rw [diff, snapshot_teamLv, snapshot_teamLv]
  omega

/-- **Offline summary.** It counts what happened exactly when those who joined the party brought as many
levels as the members they replaced took away. -/
theorem runOfflineCatchup_counts (env : Env) (e : Engine) (elapsedMs : ℚ) :
    CountsEvents env e elapsedMs (Engine.runCalls env (dueTicks env elapsedMs).toNat e)
        (Engine.runContests env (dueTicks env elapsedMs).toNat e)
        (runOfflineCatchup env e elapsedMs) ↔
      Engine.joinedLevels env (Engine.runContests env (dueTicks env elapsedMs).toNat e) = 0 := by
  have levels := runOfflineCatchup_levels env e elapsedMs
  have booked := Engine.ticks_booked env (dueTicks env elapsedMs).toNat e
  constructor
  · intro counts
    have same := counts.levels
    omega
  · intro even
    rw [even, add_zero] at levels
    have counted {before after events : ℕ} (total : after = before + events) :
        (after : ℤ) - before = events := by omega
    exact ⟨rfl, rfl, counted booked.totalBattles, counted booked.totalCaught,
      counted booked.badges, levels⟩

/-- A newcomer of level fifty-seven is counted as so many levels, though nobody has risen. -/
theorem not_counts_veteran :
    ¬ ∀ (env : Env) (e : Engine) (elapsedMs : ℚ),
      CountsEvents env e elapsedMs (Engine.runCalls env (dueTicks env elapsedMs).toNat e)
        (Engine.runContests env (dueTicks env elapsedMs).toNat e)
        (runOfflineCatchup env e elapsedMs) := by
  intro all
  have levels := (all Engine.luckyEnv (Engine.new Engine.veteran (Rng.new 1140)) 15000).levels
  revert levels
  decide +kernel

end Pokeage.Game
