import Pokeage.Infra.Ranking
import Pokeage.Game.Properties.Cooldown
import Pokeage.Game.Properties.Tally

/-!
# What the switches of a strategy switch off

A trainer keeps its strategy, so a flag that is off at the start of a run is off in every tick of it.
`switches` says what then never happens, whatever the world and the draws. Moving to another town restores
the team, too, and no flag but `autoMove` keeps it from that.
-/

namespace Pokeage.Game

namespace Engine

variable {env : Env} {t t' : Trainer}

/-- With gyms off no badge is won. -/
theorem Outcome.badges_of_off (h : Outcome env t t') (off : t.strat.autoGym = some false) :
    t'.badges = t.badges := by
  cases h with
  | gymWon asked =>
    obtain ⟨-, -, -, wants, -⟩ := askedGym_eq_some env asked
    exact absurd off wants
  | @caught team wild =>
    have placed := placeNewMonster_placed (thrown (battled t team)) wild
    have same : (placeNewMonster (thrown (battled t team)) wild).2.badges =
        (thrown (battled t team)).badges := placed.same fun _ _ _ => rfl
    exact same
  | _ => rfl

/-- Moving on is asked for. -/
theorem moveTarget_wants {town next : Town} (target : moveTarget env t town = some next) :
    t.strat.autoMove ≠ some false := by
  unfold moveTarget at target
  split at target
  · split at target
    · next open_ => exact open_.1
    · cases target
  · cases target

/-- With moving off the trainer stays. -/
theorem Outcome.location_of_off (h : Outcome env t t') (off : t.strat.autoMove = some false) :
    t'.location = t.location := by
  cases h with
  | moved _ target => exact absurd off (moveTarget_wants target)
  | @caught team wild =>
    have placed := placeNewMonster_placed (thrown (battled t team)) wild
    have same : (placeNewMonster (thrown (battled t team)) wild).2.location =
        (thrown (battled t team)).location := placed.same fun _ _ _ => rfl
    exact same
  | _ => rfl

/-- What catching changes: the species in team and box and the count of catches. -/
def keepsake (t : Trainer) : List ℕ × List MonsterInstance × ℕ :=
  (t.team.map (·.templateId), t.box, t.totalCaught)

/-- With catching off nobody joins and nobody leaves. -/
theorem Outcome.keepsake_of_off (h : Outcome env t t') (off : t.strat.catchEnabled = some false) :
    keepsake t' = keepsake t := by
  have grown {team : List MonsterInstance} (h : TeamGrown env t.team team) :
      (team.map (·.templateId), t.box, t.totalCaught) = keepsake t := by
    rw [TeamGrown.species h]
    rfl
  cases h with
  | kept => rfl
  | healed => exact grown (teamGrown_heal t.team)
  | moved => exact grown (teamGrown_heal t.team)
  | gymWon _ _ team => exact grown team
  | gymLost team => exact grown team
  | fought team => exact grown team
  | missed team => exact grown team
  | caught _ _ wanted => exact absurd off (shouldCatch_wanted wanted).enabled

theorem roam_ne_heal {e : Engine} (town : Town) : (roam env e town).1.action ≠ .heal := by
  unfold roam
  split
  · nofun
  · dsimp only
    split <;> nofun

theorem gymOrRoam_ne_heal {e : Engine} (town : Town) : (gymOrRoam env e town).1.action ≠ .heal := by
  unfold gymOrRoam
  split
  · exact roam_ne_heal town
  · dsimp only
    split
    · nofun
    · exact roam_ne_heal town

/-- A tick that only heals has nobody standing, unless healing early is on. -/
theorem heals_of_off {e : Engine} (off : e.trainer.strat.autoHeal = some false)
    (heals : (tick env e).1.action = .heal) : allFainted e.trainer = true := by
  unfold tick at heals
  split at heals
  · cases heals
  · split at heals
    · next needs =>
      unfold needsHeal at needs
      rw [off] at needs
      simpa using needs
    · exact absurd heals (gymOrRoam_ne_heal _)

/-! ## Who gets hit points back -/

/-- How many hit points a monster is short of. -/
def missing (m : MonsterInstance) : ℤ := m.stats.hp - m.currentHP

/-- One of the same species, short of at least as many hit points. -/
def Worn (m m' : MonsterInstance) : Prop := m'.templateId = m.templateId ∧ missing m ≤ missing m'

/-- Nobody of the team has got hit points back, and who has joined it is of a new species. -/
def Unrested (t t' : Trainer) : Prop :=
  ∃ team, List.Forall₂ Worn t.team team ∧
    ∀ m ∈ t'.team, m ∈ team ∨ ∀ old ∈ t.roster, old.templateId ≠ m.templateId

theorem Worn.refl (m : MonsterInstance) : Worn m m := ⟨rfl, le_rfl⟩

theorem Worn.trans {m m₁ m₂ : MonsterInstance} (h : Worn m m₁) (h' : Worn m₁ m₂) : Worn m m₂ :=
  ⟨h'.1.trans h.1, h.2.trans h'.2⟩

/-- A hit wears one that stands. -/
theorem worn_hit {m : MonsterInstance} (alive : m.alive = true) {hp : ℤ} (le : hp ≤ max 0 m.currentHP) :
    Worn m { m with currentHP := hp } := by
  have standing : 0 < m.currentHP := of_decide_eq_true alive
  refine ⟨rfl, ?_⟩
  show m.stats.hp - m.currentHP ≤ m.stats.hp - hp
  omega

/-- A level brings what the maximum grows by, and no more. -/
theorem gainXp_worn (m : MonsterInstance) (amount : ℤ) : Worn m (gainXp env m amount) := by
  unfold gainXp
  split
  · next tpl _ =>
    refine ⟨grantXp_same (fun _ _ _ _ _ _ => rfl) m amount, ?_⟩
    unfold grantXp
    refine levelLoop_induction (P := fun m' => missing m ≤ missing m') ?_ le_rfl
    intro m' cost so_far _ _ _
    rw [levelUp_eq]
    unfold missing at so_far ⊢
    dsimp only
    omega
  · exact .refl m

/-- What a win brings gives no hit points back, either. -/
theorem spoils_worn (lead wild : MonsterInstance) : Worn lead (spoils env lead wild).1 := by
  have bonded : Worn lead (addAffection env.fl lead (affectionGainFor env.fl lead wild.level)).1 :=
    ⟨rfl, le_rfl⟩
  exact bonded.trans (gainXp_worn _ _)

theorem Unrested.refl (t : Trainer) : Unrested t t :=
  ⟨t.team, List.forall₂_same.2 fun m _ => .refl m, fun _ hm => .inl hm⟩

theorem unrested_of_worn {team : List MonsterInstance} (worn : List.Forall₂ Worn t.team team)
    (same : t'.team = team) : Unrested t t' :=
  ⟨team, worn, fun _ hm => .inl (same ▸ hm)⟩

/-- A challenge heals nobody: who takes part is hit first and rewarded then. -/
theorem doGymChallenge_worn (e : Engine) (gym : Gym) :
    List.Forall₂ Worn e.trainer.team (doGymChallenge env e gym).2.trainer.team := by
  have party := simulateGym_party env.fl ((e.trainer.team.filter (·.alive)).take 4) gym.team
    env.getTemplate e.rng
  have standing : ∀ m ∈ (e.trainer.team.filter (·.alive)).take 4, m.alive = true :=
    fun m hm => (List.mem_filter.1 (List.mem_of_mem_take hm)).2
  have hits : List.Forall₂ Worn ((e.trainer.team.filter (·.alive)).take 4)
      (simulateGym env.fl ((e.trainer.team.filter (·.alive)).take 4) gym.team env.getTemplate
        e.rng).2.1 := by
    refine ((List.forall₂_and_left _ _).2 ⟨standing, party⟩).imp fun m m' h => ?_
    obtain ⟨alive, hp, -, le, rfl⟩ := h
    exact worn_hit alive le
  unfold doGymChallenge
  dsimp only
  split
  · have rewarded : List.Forall₂ Worn _ (_ : List MonsterInstance) :=
      List.forall₂_map_right_iff.2
        (hits.imp fun _ m' worn => worn.trans (gainXp_worn m' _ : Worn m' (gymReward env gym m')))
    exact forall₂_writeBack Worn.refl rewarded
  · exact forall₂_writeBack Worn.refl hits

/-- What is caught is of a species that the roster lacks. -/
theorem unrested_of_caught {team : List MonsterInstance} {wild : MonsterInstance}
    (worn : List.Forall₂ Worn t.team team) (wanted : shouldCatch (battled t team) wild = true) :
    Unrested t (placeNewMonster (thrown (battled t team)) wild).2 := by
  refine ⟨team, worn, ?_⟩
  intro m hm
  have placed := placeNewMonster_placed (thrown (battled t team)) wild
  rcases placed.mem_team hm with rfl | hm
  · refine .inr fun old known => ?_
    have fresh := (shouldCatch_wanted wanted).fresh
    rcases List.mem_append.1 known with known | known
    · obtain ⟨old', mem, same, -⟩ := Infra.Ranking.exists_of_mem worn.flip known
      rw [← same]
      exact fresh old' (List.mem_append_left _ mem)
    · exact fresh old (List.mem_append_right _ known)
  · exact .inl hm

/-- Nor does a fight in the wild: the lead is hit, and what is caught is new to the roster. -/
theorem fightWild_unrested {e : Engine} {lead wild : MonsterInstance}
    (first : e.trainer.team.find? (·.alive) = some lead) :
    Unrested e.trainer (fightWild env e lead wild).2.trainer := by
  have alive : lead.alive = true := List.find?_some first
  have hit := worn_hit alive (simulateAuto_hpRemaining env.fl lead wild e.rng).2
  have alone {lead' : MonsterInstance} (worn : Worn lead lead') :
      List.Forall₂ Worn e.trainer.team (writeBack e.trainer.team [lead']) := by
    refine forall₂_writeBack (k := 1) Worn.refl ?_
    rw [List.take_one, List.head?_filter, first]
    exact .cons worn .nil
  unfold fightWild
  dsimp only
  split
  · have spoiled := @spoils_worn env { lead with
      currentHP := (simulateAuto env.fl lead wild e.rng).1.hpRemaining } wild
    have grown := alone (hit.trans spoiled)
    unfold throwBall
    dsimp only
    split
    · next wanted =>
      split
      · exact unrested_of_caught grown wanted
      · exact unrested_of_worn grown rfl
    · exact unrested_of_worn grown rfl
  · exact unrested_of_worn (alone hit) rfl

/-- Nor does a search, with somebody standing. -/
theorem doWildEncounter_unrested {e : Engine} (someone : allFainted e.trainer = false) (town : Town)
    (forced : Bool) : Unrested e.trainer (doWildEncounter env e town forced).2.trainer := by
  unfold doWildEncounter meetWild
  split
  · exact .refl _
  · dsimp only
    split
    · split
      · exact .refl _
      · split
        · next none =>
          obtain ⟨m, hm, alive⟩ : ∃ m ∈ e.trainer.team, m.alive = true := by
            unfold allFainted at someone
            obtain ⟨m, hm, standing⟩ := List.all_eq_false.1 someone
            exact ⟨m, hm, decide_eq_true (not_le.1 (by simpa using standing))⟩
          exact absurd alive (List.find?_eq_none.1 none m hm)
        · next lead first =>
          split
          · exact .refl _
          · exact fightWild_unrested (e := { e with state := .hunting, rng := _ }) first
    · exact .refl _

/-- Nor does roaming, unless it moves on. -/
theorem roam_unrested {e : Engine} {town : Town} (someone : allFainted e.trainer = false) :
    (roam env e town).1.action ≠ .move → Unrested e.trainer (roam env e town).2.trainer := by
  unfold roam
  split
  · exact fun stays => absurd rfl stays
  · exact fun _ => doWildEncounter_unrested someone town false

/-- Nor does a tick that does not heal. -/
theorem gymOrRoam_unrested {e : Engine} {town : Town} (someone : allFainted e.trainer = false) :
    (gymOrRoam env e town).1.action ≠ .move → Unrested e.trainer (gymOrRoam env e town).2.trainer := by
  have same := shouldChallengeGym_trainer env e town
  unfold gymOrRoam
  split
  · exact roam_unrested someone
  · dsimp only
    split
    · next gym _ _ =>
      intro _
      rw [← same]
      exact unrested_of_worn (doGymChallenge_worn _ gym) rfl
    · rw [← same] at someone ⊢
      exact roam_unrested someone

/-- **With healing early off**, a tick that finds somebody standing and does not move on gives nobody hit
points back. -/
theorem tick_unrested {e : Engine} (off : e.trainer.strat.autoHeal = some false)
    (someone : allFainted e.trainer = false) :
    (tick env e).1.action ≠ .move → Unrested e.trainer (tick env e).2.trainer := by
  unfold tick
  split
  · exact fun _ => .refl _
  · have fit : needsHeal env e.trainer = false := by
      unfold needsHeal
      rw [off, someone]
      simp
    rw [fit, if_neg Bool.false_ne_true]
    exact gymOrRoam_unrested someone

/-! ## Runs -/

/-- **A flag that is off stays off.** Along every run: with `autoGym` off no gym is challenged and no
badge won; with `autoMove` off the trainer stays where it is; with `catchEnabled` off team and box keep
their species and nothing is caught; with `autoHeal` off the team gets hit points back only when everybody
is down or on moving to another town. -/
theorem switches (env : Env) (e : Engine) (n : ℕ) :
    (e.trainer.strat.autoGym = some false →
      (ticks env n e).trainer.badges = e.trainer.badges ∧ ¬ Challenges env (ticks env n e)) ∧
    (e.trainer.strat.autoMove = some false → (ticks env n e).trainer.location = e.trainer.location) ∧
    (e.trainer.strat.catchEnabled = some false →
      keepsake (ticks env n e).trainer = keepsake e.trainer) ∧
    (e.trainer.strat.autoHeal = some false →
      ((tick env (ticks env n e)).1.action = .heal → allFainted (ticks env n e).trainer = true) ∧
      (allFainted (ticks env n e).trainer = false → (tick env (ticks env n e)).1.action ≠ .move →
        Unrested (ticks env n e).trainer (ticks env (n + 1) e).trainer)) := by
  have strat : (ticks env n e).trainer.strat = e.trainer.strat :=
    ticks_induction (P := fun t => t.strat = e.trainer.strat)
      (fun _ _ same step => step.strat.trans same) rfl n
  refine ⟨fun off => ⟨?_, ?_⟩, fun off => ?_, fun off => ?_, fun off => ⟨?_, ?_⟩⟩
  · refine (ticks_induction (P := fun t => t.strat = e.trainer.strat ∧ t.badges = e.trainer.badges)
      (fun t t' same step => ⟨step.strat.trans same.1, ?_⟩) ⟨rfl, rfl⟩ n).2
    exact (step.badges_of_off (same.1 ▸ off)).trans same.2
  · rw [challenges_iff]
    rintro ⟨-, would⟩
    unfold wouldChallenge at would
    split at would
    · next asked =>
      obtain ⟨-, -, -, wants, -⟩ := askedGym_eq_some env asked
      exact wants (strat ▸ off)
    · cases would
  · refine (ticks_induction (P := fun t => t.strat = e.trainer.strat ∧ t.location = e.trainer.location)
      (fun t t' same step => ⟨step.strat.trans same.1, ?_⟩) ⟨rfl, rfl⟩ n).2
    exact (step.location_of_off (same.1 ▸ off)).trans same.2
  · refine (ticks_induction (P := fun t => t.strat = e.trainer.strat ∧ keepsake t = keepsake e.trainer)
      (fun t t' same step => ⟨step.strat.trans same.1, ?_⟩) ⟨rfl, rfl⟩ n).2
    exact (step.keepsake_of_off (same.1 ▸ off)).trans same.2
  · exact heals_of_off (strat ▸ off)
  · intro someone stays
    have next : ticks env (n + 1) e = (tick env (ticks env n e)).2 :=
      Function.iterate_succ_apply' _ n e
    rw [next]
    exact tick_unrested (strat ▸ off) someone stays

/-- The trainer of the tests, told to leave gyms alone. -/
def shyTrainer : Trainer := { freshTrainer with strategy := some { Strategy.empty with autoGym := some false } }

theorem switches_shyTrainer :
    (ticks sampleEnv 500 (Engine.new shyTrainer (Rng.new 123))).trainer.badges = [] :=
  ((switches sampleEnv (Engine.new shyTrainer (Rng.new 123)) 500).1 rfl).1

end Engine

end Pokeage.Game
