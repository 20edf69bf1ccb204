import Pokeage.Game.Properties.Levelling
import Pokeage.Game.Properties.Ticks
import Mathlib.Logic.Relation

/-!
# What one tick leaves of the trainer

`Outcome` lists what a tick can make of a trainer; `tick_outcome` says that there is nothing else. The
invariants of whole runs start from it and never unfold the engine.

On the way a monster of the team is healed, hit, befriended or given experience. `Alters` is one such
change and `Grown` any number of them; who comes in from outside is a wild monster that `Spawned`.
-/

namespace Pokeage.Game

/-- Putting back those that took part relates the whole team, if nobody else changes. -/
theorem forall₂_writeBack {R : MonsterInstance → MonsterInstance → Prop} (refl : ∀ m, R m m)
    {team party : List MonsterInstance} {k : ℕ}
    (h : List.Forall₂ R ((team.filter (·.alive)).take k) party) :
    List.Forall₂ R team (writeBack team party) := by
  induction team generalizing party k with
  | nil => exact .nil
  | cons m team ih =>
    cases party with
    | nil => exact List.forall₂_same.2 fun m _ => refl m
    | cons p party =>
      unfold writeBack
      by_cases alive : m.alive
      · rw [List.filter_cons_of_pos alive] at h
        cases k with
        | zero => cases h
        | succ k =>
          rw [List.take_succ_cons] at h
          obtain ⟨head, tail⟩ := List.forall₂_cons.1 h
          rw [if_pos alive]
          exact .cons head (ih tail)
      · rw [List.filter_cons_of_neg alive] at h
        rw [if_neg alive]
        exact .cons (refl m) (ih h)

namespace Engine

variable (env : Env)

/-! ## One monster -/

/-- A single change to a monster of the team. -/
inductive Alters (m : MonsterInstance) : MonsterInstance → Prop
  | healed : Alters m (heal m)
  | hit {hp : ℤ} (nonneg : 0 ≤ hp) (le : hp ≤ max 0 m.currentHP) : Alters m { m with currentHP := hp }
  | bonded {foeLevel : ℤ} :
      Alters m (addAffection env.fl m (affectionGainFor env.fl m foeLevel)).1
  | rewarded {gym : Gym} : Alters m (gymReward env gym m)
  | trained {foeLevel : ℤ} :
      Alters m (gainXp env m (wildXpReward env.fl m.level foeLevel env.xpBuff))

/-- Any number of changes. -/
def Grown : MonsterInstance → MonsterInstance → Prop := Relation.ReflTransGen (Alters env)

variable {env}

/-- What belongs to the species stays through every change. -/
theorem Alters.same {α : Type} {f : MonsterInstance → α}
    (species : ∀ (m : MonsterInstance) (xp level stage currentHP : ℤ) (stats : Stats)
      (affection : ℚ), f { m with xp, level, stage, stats, currentHP, affection } = f m)
    {m m' : MonsterInstance} (h : Alters env m m') : f m' = f m := by
  have gained (amount : ℤ) : f (gainXp env m amount) = f m := by
    unfold gainXp
    split
    · exact grantXp_same (fun m xp level stage currentHP stats =>
        species m xp level stage currentHP stats m.affection) m amount
    · rfl
  cases h with
  | healed => exact species m m.xp m.level m.stage m.stats.hp m.stats m.affection
  | hit => exact species m m.xp m.level m.stage _ m.stats m.affection
  | bonded => exact species m m.xp m.level m.stage m.currentHP m.stats _
  | rewarded => exact gained _
  | trained => exact gained _

theorem Grown.refl (m : MonsterInstance) : Grown env m m := Relation.ReflTransGen.refl

theorem Alters.grown {m m' : MonsterInstance} (h : Alters env m m') : Grown env m m' :=
  Relation.ReflTransGen.single h

theorem Grown.tail {m m₁ m₂ : MonsterInstance} (h : Grown env m m₁) (h' : Alters env m₁ m₂) :
    Grown env m m₂ := Relation.ReflTransGen.tail h h'

/-- What every change keeps is kept. -/
theorem Grown.keeps {P : MonsterInstance → Prop} (keep : ∀ m m', P m → Alters env m m' → P m')
    {m m' : MonsterInstance} (h : Grown env m m') (hm : P m) : P m' := by
  induction h with
  | refl => exact hm
  | tail _ last ih => exact keep _ _ ih last

/-- What no change touches is the same afterwards. -/
theorem Grown.same {α : Type} {f : MonsterInstance → α}
    (keep : ∀ m m', Alters env m m' → f m' = f m) {m m' : MonsterInstance} (h : Grown env m m') :
    f m' = f m :=
  h.keeps (P := fun m' => f m' = f m) (fun _ _ same last => (keep _ _ last).trans same) rfl

/-- A team of which every monster may have changed. -/
abbrev TeamGrown (env : Env) : List MonsterInstance → List MonsterInstance → Prop :=
  List.Forall₂ (Grown env)

theorem teamGrown_heal (team : List MonsterInstance) : TeamGrown env team (team.map heal) :=
  List.forall₂_map_right_iff.2 <| List.forall₂_same.2 fun _ _ => Alters.healed.grown

/-- A property that every change keeps holds of the whole team afterwards. -/
theorem TeamGrown.all {P : MonsterInstance → Prop} (keep : ∀ m m', P m → Alters env m m' → P m')
    {team team' : List MonsterInstance} (h : TeamGrown env team team') (all : ∀ m ∈ team, P m) :
    ∀ m ∈ team', P m := by
  induction h with
  | nil => exact all
  | cons head _ ih =>
    intro m hm
    rcases List.mem_cons.1 hm with rfl | hm
    · exact head.keeps keep (all _ List.mem_cons_self)
    · exact ih (fun m hm => all m (List.mem_cons_of_mem _ hm)) m hm

theorem TeamGrown.map_eq {α : Type} {f : MonsterInstance → α}
    (keep : ∀ m m', Alters env m m' → f m' = f m) {team team' : List MonsterInstance}
    (h : TeamGrown env team team') : team'.map f = team.map f := by
  induction h with
  | nil => rfl
  | cons head _ ih => rw [List.map_cons, List.map_cons, head.same keep, ih]

/-! ## The trainer -/

variable (env)

/-- The trainer may hunt on the route: it is fit and stays in the town whose first route this is. -/
structure HuntsOn (t : Trainer) (route : Route) : Prop where
  fit : needsHeal env t = false
  town : ∃ town, currentTown env t = some town ∧ moveTarget env t town = none ∧
    town.routes.head?.bind (routeById env) = some route

/-- The wild monster came up on the route hunted on, and is not too strong for the first of the team
that stands. -/
structure Spawned (t : Trainer) (wild : MonsterInstance) (lead : MonsterInstance) (route : Route) :
    Prop where
  hunts : HuntsOn env t route
  rolled : ∃ r, (generateWildMonster env.fl route env.getTemplate r env.buffs).1 = some wild
  first : t.team.find? (·.alive) = some lead
  level : wild.level ≤ lead.level + fleeLevelGap

/-- The trainer after a battle with the team it has then. -/
def battled (t : Trainer) (team : List MonsterInstance) : Trainer :=
  { t with totalBattles := t.totalBattles + 1, team }

/-- A ball is gone. -/
def thrown (t : Trainer) : Trainer := { t with items := { t.items with ball := t.items.ball - 1 } }

/-- What a tick can make of a trainer. -/
inductive Outcome (t : Trainer) : Trainer → Prop
  | kept : Outcome t t
  | healed : Outcome t { t with team := t.team.map heal }
  | moved {town next : Town} (at_ : currentTown env t = some town)
      (target : moveTarget env t town = some next) :
      Outcome t { t with location := next.id, team := t.team.map heal }
  | gymWon {town : Town} {gym : Gym} {team : List MonsterInstance}
      (asked : askedGym env t = some (town, gym)) (ready : readyFor env t town gym = true)
      (grown : TeamGrown env t.team team) :
      Outcome t { t with
        team
        badges := t.badges ++ [gym.badge]
        items := { t.items with ball := t.items.ball + 3 } }
  | gymLost {team : List MonsterInstance} (grown : TeamGrown env t.team team) :
      Outcome t { t with team }
  | fought {team : List MonsterInstance} (grown : TeamGrown env t.team team) :
      Outcome t (battled t team)
  | missed {team : List MonsterInstance} (grown : TeamGrown env t.team team) :
      Outcome t (thrown (battled t team))
  | caught {team : List MonsterInstance} {wild lead : MonsterInstance} {route : Route}
      (grown : TeamGrown env t.team team) (spawned : Spawned env t wild lead route)
      (wanted : shouldCatch (battled t team) wild = true) :
      Outcome t { (placeNewMonster (thrown (battled t team)) wild).2 with
        totalCaught := (placeNewMonster (thrown (battled t team)) wild).2.totalCaught + 1 }

variable {env} {e : Engine} {town : Town} {gym : Gym}

/-- The route hunted on is one of the world's. -/
theorem HuntsOn.mem {t : Trainer} {route : Route} (h : HuntsOn env t route) :
    route ∈ env.world.routes := by
  obtain ⟨town, -, -, onRoute⟩ := h.town
  obtain ⟨name, -, found⟩ := Option.bind_eq_some_iff.1 onRoute
  exact List.mem_of_find?_eq_some found

theorem doGymChallenge_outcome (asked : askedGym env e.trainer = some (town, gym))
    (ready : readyFor env e.trainer town gym = true) :
    Outcome env e.trainer (doGymChallenge env e gym).2.trainer := by
  have party := simulateGym_party env.fl ((e.trainer.team.filter (·.alive)).take 4) gym.team
    env.getTemplate e.rng
  have hits : List.Forall₂ (Grown env) ((e.trainer.team.filter (·.alive)).take 4)
      (simulateGym env.fl ((e.trainer.team.filter (·.alive)).take 4) gym.team env.getTemplate
        e.rng).2.1 := by
    refine party.imp fun m m' h => ?_
    obtain ⟨hp, nonneg, le, rfl⟩ := h
    exact (Alters.hit nonneg le).grown
  unfold doGymChallenge
  dsimp only
  split
  · have rewarded : List.Forall₂ (Grown env) _ (_ : List MonsterInstance) :=
      List.forall₂_map_right_iff.2 (hits.imp fun _ _ grown => grown.tail (@Alters.rewarded _ _ gym))
    exact .gymWon asked ready (forall₂_writeBack Grown.refl rewarded)
  · exact .gymLost (forall₂_writeBack Grown.refl hits)

/-- The first that stands is the whole party of a wild fight. -/
theorem teamGrown_lead {team : List MonsterInstance} {lead lead' : MonsterInstance}
    (first : team.find? (·.alive) = some lead) (grown : Grown env lead lead') :
    TeamGrown env team (writeBack team [lead']) := by
  refine forall₂_writeBack (k := 1) Grown.refl ?_
  rw [List.take_one, List.head?_filter, first]
  exact .cons grown .nil

theorem fightWild_outcome {lead wild : MonsterInstance} {route : Route} {t : Trainer}
    (same : e.trainer = t) (spawned : Spawned env t wild lead route) :
    Outcome env t (fightWild env e lead wild).2.trainer := by
  subst same
  obtain ⟨nonneg, le⟩ := simulateAuto_hpRemaining env.fl lead wild e.rng
  have hit : Grown env lead
      { lead with currentHP := (simulateAuto env.fl lead wild e.rng).1.hpRemaining } :=
    (Alters.hit nonneg le).grown
  unfold fightWild
  dsimp only
  split
  · have grown : TeamGrown env e.trainer.team (writeBack e.trainer.team [(spoils env
        { lead with currentHP := (simulateAuto env.fl lead wild e.rng).1.hpRemaining } wild).1]) :=
      teamGrown_lead spawned.first ((hit.tail .bonded).tail .trained)
    unfold throwBall
    dsimp only
    split
    · next wanted =>
      split
      · exact .caught grown spawned wanted
      · exact .missed grown
    · exact .fought grown
  · exact .fought (teamGrown_lead spawned.first hit)

theorem doWildEncounter_outcome {t : Trainer} (same : e.trainer = t) (fit : needsHeal env t = false)
    (at_ : currentTown env t = some town) (stays : moveTarget env t town = none) (forced : Bool) :
    Outcome env t (doWildEncounter env e town forced).2.trainer := by
  subst same
  unfold doWildEncounter meetWild
  split
  · exact .kept
  · next route onRoute =>
    dsimp only
    split
    · split
      · exact .kept
      · next wild rolled =>
        split
        · exact .healed
        · next lead first =>
          split
          · exact .kept
          · next level =>
            have hunts : HuntsOn env e.trainer route := ⟨fit, town, at_, stays, onRoute⟩
            exact fightWild_outcome rfl ⟨hunts, ⟨_, rolled⟩, first, not_lt.1 level⟩
    · exact .kept

theorem quiet_outcome : Outcome env e.trainer (quiet env e).trainer := by
  unfold quiet
  split
  · exact .kept
  · next town at_ =>
    split
    · exact .healed
    · next fit =>
      unfold roam
      split
      · next next target => exact .moved at_ target
      · next stays =>
        exact doWildEncounter_outcome rfl (Bool.eq_false_of_not_eq_true fit) at_ stays false

/-- **Inversion of a tick.** -/
theorem tick_outcome (env : Env) (e : Engine) : Outcome env e.trainer (tick env e).2.trainer := by
  cases asked : askedGym env e.trainer with
  | none =>
    rw [tick_of_not_asked env asked]
    exact quiet_outcome
  | some at_ =>
    obtain ⟨town, gym⟩ := at_
    rw [tick_of_asked env asked]
    split
    · next goes => exact doGymChallenge_outcome asked goes.2
    · obtain ⟨at_, hgym, fit, -, lacks⟩ := askedGym_eq_some env asked
      exact doWildEncounter_outcome (e := { e with gymCooldown := e.gymCooldown - 1 }) rfl fit at_
        (moveTarget_of_lacks env hgym lacks) false

/-! ## Runs -/

/-- **Induction along a run** whose ticks all start safe. -/
theorem ticks_induction_while {P S : Trainer → Prop}
    (keep : ∀ t t', P t → S t → Outcome env t t' → P t') (start : P e.trainer) {n : ℕ}
    (safe : ∀ k < n, S (ticks env k e).trainer) : P (ticks env n e).trainer := by
  induction n with
  | zero => exact start
  | succ n ih =>
    have so_far : P (ticks env n e).trainer := ih fun k hk => safe k (Nat.lt_succ_of_lt hk)
    have next : ticks env (n + 1) e = (tick env (ticks env n e)).2 :=
      Function.iterate_succ_apply' _ n e
    rw [next]
    exact keep _ _ so_far (safe n (Nat.lt_succ_self n)) (tick_outcome env _)

/-- What every outcome keeps of the trainer holds after any number of ticks. -/
theorem ticks_induction {P : Trainer → Prop} (keep : ∀ t t', P t → Outcome env t t' → P t')
    (start : P e.trainer) (n : ℕ) : P (ticks env n e).trainer :=
  ticks_induction_while (S := fun _ => True) (fun t t' h _ step => keep t t' h step) start
    fun _ _ => trivial

end Engine

end Pokeage.Game
