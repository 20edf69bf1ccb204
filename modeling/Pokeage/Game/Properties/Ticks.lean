import Pokeage.Game.Engine

/-!
# What a tick does

The cooldown enters a tick in one place, the gym check. `tick_eq` says so once: a tick asks some gym
or none; if it may, it challenges, and otherwise it does what an engine without gyms would do
(`quiet`), with the cooldown one lower if a gym was asked.
-/

namespace Pokeage.Game.Engine

variable (env : Env)

/-- The town and gym that the tick of this trainer asks: the trainer is fit, wants gyms and lacks
the badge of the town. -/
def askedGym (t : Trainer) : Option (Town × Gym) :=
  match currentTown env t with
  | none => none
  | some town =>
    match town.gym with
    | none => none
    | some gym =>
      if needsHeal env t ∨ t.strat.autoGym = some false ∨ gym.badge ∈ t.badges then none
      else some (town, gym)

/-- Whether the tick of this trainer goes to a gym when no cooldown keeps it. -/
def wouldChallenge (t : Trainer) : Bool :=
  match askedGym env t with
  | some (town, gym) => readyFor env t town gym
  | none => false

/-- A tick with all gyms shut. -/
def quiet (e : Engine) : Engine :=
  match currentTown env e.trainer with
  | none => e
  | some town => if needsHeal env e.trainer then healTeam e else (roam env e town).2

/-- When a tick asks for a gym. -/
theorem askedGym_eq_some {t : Trainer} {town : Town} {gym : Gym}
    (h : askedGym env t = some (town, gym)) :
    currentTown env t = some town ∧ town.gym = some gym ∧ needsHeal env t = false ∧
      t.strat.autoGym ≠ some false ∧ gym.badge ∉ t.badges := by
  unfold askedGym at h
  cases htown : currentTown env t with
  | none =>
    rw [htown] at h
    cases h
  | some town' =>
    rw [htown] at h
    dsimp only at h
    cases hgym : town'.gym with
    | none =>
      rw [hgym] at h
      cases h
    | some gym' =>
      rw [hgym] at h
      dsimp only at h
      split at h
      · cases h
      · next hfit =>
        obtain ⟨rfl, rfl⟩ := Prod.mk.inj (Option.some.inj h)
        rw [not_or, not_or] at hfit
        exact ⟨rfl, hgym, Bool.eq_false_of_not_eq_true hfit.1, hfit.2.1, hfit.2.2⟩

/-- Nobody moves on without the badge of the town. -/
theorem moveTarget_of_lacks {t : Trainer} {town : Town} {gym : Gym} (hgym : town.gym = some gym)
    (lacks : gym.badge ∉ t.badges) : moveTarget env t town = none := by
  unfold moveTarget
  rw [hgym]
  cases truthy town.nextTown with
  | none => rfl
  | some next => exact if_neg fun h => lacks h.2

theorem roam_of_stay {e : Engine} {town : Town} (h : moveTarget env e.trainer town = none) :
    (roam env e town).2 = (doWildEncounter env e town).2 := by
  unfold roam
  rw [h]

theorem shouldChallengeGym_of_lacks {e : Engine} {town : Town} {gym : Gym}
    (hgym : town.gym = some gym) (lacks : gym.badge ∉ e.trainer.badges) :
    shouldChallengeGym env e town =
      if 0 < e.gymCooldown then (false, { e with gymCooldown := e.gymCooldown - 1 })
      else (readyFor env e.trainer town gym, e) := by
  unfold shouldChallengeGym
  rw [hgym]
  exact if_neg lacks

/-- A tick that asks a gym challenges it or hunts: without the badge the way on is closed. -/
theorem tick_of_asked {e : Engine} {town : Town} {gym : Gym}
    (h : askedGym env e.trainer = some (town, gym)) :
    (tick env e).2 =
      if e.gymCooldown = 0 ∧ readyFor env e.trainer town gym then (doGymChallenge env e gym).2
      else (doWildEncounter env { e with gymCooldown := e.gymCooldown - 1 } town).2 := by
  obtain ⟨htown, hgym, fit, wants, lacks⟩ := askedGym_eq_some env h
  have stay := moveTarget_of_lacks env hgym lacks
  unfold tick gymOrRoam
  rw [htown]
  dsimp only
  rw [fit, if_neg Bool.false_ne_true, if_neg wants, shouldChallengeGym_of_lacks env hgym lacks]
  by_cases waits : 0 < e.gymCooldown
  · rw [if_pos waits, if_neg fun h => absurd h.1 waits.ne']
    exact roam_of_stay env stay
  · have idle : e.gymCooldown = 0 := Nat.eq_zero_of_not_pos waits
    have same : ({ e with gymCooldown := e.gymCooldown - 1 } : Engine) = e := by
      rw [idle]
      exact congrArg (Engine.mk e.trainer · e.rng e.state) idle.symm
    rw [if_neg waits, same]
    cases readyFor env e.trainer town gym with
    | true =>
      rw [if_pos ⟨idle, rfl⟩, hgym]
    | false =>
      rw [if_neg fun h => absurd h.2 Bool.false_ne_true]
      exact roam_of_stay env stay

/-- A tick that asks no gym does not touch the cooldown. -/
theorem tick_of_not_asked {e : Engine} (h : askedGym env e.trainer = none) :
    (tick env e).2 = quiet env e := by
  unfold tick quiet
  unfold askedGym at h
  cases htown : currentTown env e.trainer with
  | none => rfl
  | some town =>
    rw [htown] at h
    dsimp only at h ⊢
    split
    · rfl
    · next fit =>
      unfold gymOrRoam
      split
      · rfl
      · next wants =>
        unfold shouldChallengeGym
        cases hgym : town.gym with
        | none => rfl
        | some gym =>
          rw [hgym] at h
          dsimp only at h ⊢
          split at h
          · next some_of =>
            have owns : gym.badge ∈ e.trainer.badges := by
              rcases some_of with heals | unwilling | owns
              · exact absurd heals fit
              · exact absurd unwilling wants
              · exact owns
            rw [if_pos owns]
          · cases h

/-! ## What the trainer's tick does not look at -/

/-- Two engines with one trainer and one generator. Cooldown and state may differ. -/
structure Same (s r : Engine) : Prop where
  trainer : r.trainer = s.trainer
  rng : r.rng = s.rng

variable {env} {s r : Engine}

theorem healTeam_same (h : Same s r) : Same (healTeam s) (healTeam r) where
  trainer := by
    unfold healTeam
    rw [h.trainer]
  rng := h.rng

theorem moveToTown_same (h : Same s r) (town : Town) :
    Same (moveToTown s town) (moveToTown r town) := by
  unfold moveToTown
  refine healTeam_same ⟨?_, h.rng⟩
  dsimp only
  rw [h.trainer]

theorem fightWild_same (h : Same s r) (lead wild : MonsterInstance) :
    Same (fightWild env s lead wild).2 (fightWild env r lead wild).2 := by
  unfold fightWild
  rw [h.trainer, h.rng]
  dsimp only
  split <;> exact ⟨rfl, rfl⟩

/-- A meeting goes alike on engines that are alike. -/
theorem meetWild_same (h : Same s r) (wild : MonsterInstance) :
    Same (meetWild env s wild).2 (meetWild env r wild).2 := by
  unfold meetWild
  rw [h.trainer]
  split
  · exact healTeam_same h
  · split
    · exact ⟨rfl, h.rng⟩
    · exact fightWild_same h _ wild

/-- So does a search. -/
theorem doWildEncounter_same (h : Same s r) (town : Town) (forced : Bool) :
    Same (doWildEncounter env s town forced).2 (doWildEncounter env r town forced).2 := by
  unfold doWildEncounter
  split
  · exact h
  · dsimp only
    rw [h.rng]
    split
    · split
      · exact ⟨h.trainer, rfl⟩
      · refine meetWild_same ?_ _
        exact ⟨h.trainer, rfl⟩
    · exact ⟨h.trainer, rfl⟩

/-- So does roaming. -/
theorem roam_same (h : Same s r) (town : Town) :
    Same (roam env s town).2 (roam env r town).2 := by
  unfold roam
  rw [h.trainer]
  split
  · exact moveToTown_same h _
  · exact doWildEncounter_same h town false

theorem quiet_same (h : Same s r) : Same (quiet env s) (quiet env r) := by
  unfold quiet
  rw [h.trainer]
  split
  · exact h
  · split
    · exact healTeam_same h
    · exact roam_same h _

/-- So does a challenge. -/
theorem doGymChallenge_same (h : Same s r) (gym : Gym) :
    Same (doGymChallenge env s gym).2 (doGymChallenge env r gym).2 := by
  unfold doGymChallenge
  rw [h.trainer, h.rng]
  dsimp only
  split <;> exact ⟨rfl, rfl⟩

/-! ## The cooldown -/

theorem fightWild_gymCooldown (e : Engine) (lead wild : MonsterInstance) :
    (fightWild env e lead wild).2.gymCooldown = e.gymCooldown := by
  unfold fightWild
  dsimp only
  split <;> rfl

/-- A search leaves the cooldown. -/
theorem doWildEncounter_gymCooldown (e : Engine) (town : Town) (forced : Bool) :
    (doWildEncounter env e town forced).2.gymCooldown = e.gymCooldown := by
  unfold doWildEncounter meetWild
  split
  · rfl
  · dsimp only
    split
    · split
      · rfl
      · split
        · rfl
        · split
          · rfl
          · exact fightWild_gymCooldown _ _ _
    · rfl

theorem quiet_gymCooldown (e : Engine) : (quiet env e).gymCooldown = e.gymCooldown := by
  unfold quiet roam
  split
  · rfl
  · split
    · rfl
    · split
      · rfl
      · exact doWildEncounter_gymCooldown e _ false

theorem doGymChallenge_gymCooldown (h : Same s r) (hc : r.gymCooldown = s.gymCooldown)
    (gym : Gym) :
    (doGymChallenge env r gym).2.gymCooldown = (doGymChallenge env s gym).2.gymCooldown := by
  unfold doGymChallenge
  rw [h.trainer, h.rng, hc]

/-! ## Two ticks side by side -/

/-- With one cooldown too, the ticks do the same. -/
theorem tick_same (h : Same s r) (hc : r.gymCooldown = s.gymCooldown) :
    Same (tick env s).2 (tick env r).2 ∧
      (tick env r).2.gymCooldown = (tick env s).2.gymCooldown := by
  cases asked : askedGym env s.trainer with
  | none =>
    rw [tick_of_not_asked env asked, tick_of_not_asked env (h.trainer ▸ asked)]
    exact ⟨quiet_same h, by rw [quiet_gymCooldown, quiet_gymCooldown, hc]⟩
  | some at_ =>
    obtain ⟨town, gym⟩ := at_
    rw [tick_of_asked env asked, tick_of_asked env (h.trainer ▸ asked), h.trainer, hc]
    split
    · exact ⟨doGymChallenge_same h gym, doGymChallenge_gymCooldown h hc gym⟩
    · refine ⟨doWildEncounter_same ?_ town false, ?_⟩
      · exact ⟨rfl, h.rng⟩
      · rw [doWildEncounter_gymCooldown, doWildEncounter_gymCooldown]

/-- A tick with a cooldown and one without do the same if neither would go to a gym. -/
theorem tick_same_of_quiet (h : Same s r) (hr : r.gymCooldown = 0)
    (hq : wouldChallenge env s.trainer = false) :
    Same (tick env s).2 (tick env r).2 ∧ (tick env r).2.gymCooldown = 0 := by
  unfold wouldChallenge at hq
  cases asked : askedGym env s.trainer with
  | none =>
    rw [tick_of_not_asked env asked, tick_of_not_asked env (h.trainer ▸ asked)]
    exact ⟨quiet_same h, (quiet_gymCooldown r).trans hr⟩
  | some at_ =>
    obtain ⟨town, gym⟩ := at_
    rw [asked] at hq
    dsimp only at hq
    rw [tick_of_asked env asked, tick_of_asked env (h.trainer ▸ asked), h.trainer, hq]
    rw [if_neg fun h => absurd h.2 Bool.false_ne_true, if_neg fun h => absurd h.2 Bool.false_ne_true]
    refine ⟨doWildEncounter_same ?_ town false, ?_⟩
    · exact ⟨rfl, h.rng⟩
    · rw [doWildEncounter_gymCooldown, hr]

/-! ## A challenge shows -/

theorem placeNewMonster_fields (t : Trainer) (newMon : MonsterInstance) :
    (placeNewMonster t newMon).2.badges = t.badges ∧
      (placeNewMonster t newMon).2.totalBattles = t.totalBattles := by
  unfold placeNewMonster
  dsimp only
  split
  · exact ⟨rfl, rfl⟩
  · split
    · exact ⟨rfl, rfl⟩
    · split
      · exact ⟨rfl, rfl⟩
      · split <;> exact ⟨rfl, rfl⟩

theorem throwBall_fields (t : Trainer) (wild : MonsterInstance) (g : Rng) :
    (throwBall env t wild g).2.2.1.badges = t.badges ∧
      (throwBall env t wild g).2.2.1.totalBattles = t.totalBattles := by
  unfold throwBall
  dsimp only
  split
  · split
    · exact placeNewMonster_fields _ wild
    · exact ⟨rfl, rfl⟩
  · exact ⟨rfl, rfl⟩

theorem fightWild_fields (e : Engine) (lead wild : MonsterInstance) :
    (fightWild env e lead wild).2.trainer.badges = e.trainer.badges ∧
      (fightWild env e lead wild).2.trainer.totalBattles = e.trainer.totalBattles + 1 := by
  unfold fightWild
  dsimp only
  split
  · exact throwBall_fields _ _ _
  · exact ⟨rfl, rfl⟩

variable (env) in
/-- With somebody standing, a hunt leaves the trainer alone or counts a battle. It wins no badge. -/
theorem doWildEncounter_trainer (e : Engine) (town : Town) (forced : Bool)
    (standing : e.trainer.team.any (·.alive)) :
    (doWildEncounter env e town forced).2.trainer = e.trainer ∨
      (doWildEncounter env e town forced).2.trainer.badges = e.trainer.badges ∧
        (doWildEncounter env e town forced).2.trainer.totalBattles = e.trainer.totalBattles + 1 := by
  unfold doWildEncounter meetWild
  split
  · exact .inl rfl
  · dsimp only
    split
    · split
      · exact .inl rfl
      · split
        · next hnone =>
          obtain ⟨m, hm, alive⟩ := List.any_eq_true.1 standing
          exact absurd alive (List.find?_eq_none.1 hnone m hm)
        · split
          · exact .inl rfl
          · exact .inr (fightWild_fields _ _ _)
    · exact .inl rfl

/-- Putting back a fallen party changes a team in which somebody stood. -/
theorem writeBack_ne {team party : List MonsterInstance} (standing : team.any (·.alive))
    (nonempty : party ≠ []) (fallen : ∀ m ∈ party, m.currentHP = 0) : writeBack team party ≠ team := by
  induction team with
  | nil => cases standing
  | cons m team ih =>
    cases party with
    | nil => exact absurd rfl nonempty
    | cons p party =>
      intro same
      unfold writeBack at same
      split at same
      · next alive =>
        -- the first of those standing is the first to come back
        obtain rfl := (List.cons.inj same).1
        have zero := fallen p List.mem_cons_self
        unfold MonsterInstance.alive at alive
        rw [zero] at alive
        cases alive
      · next fainted =>
        rw [List.any_cons, Bool.or_eq_true] at standing
        rcases standing with alive | standing
        · exact fainted alive
        · exact ih standing (List.cons.inj same).2

variable (env) in
/-- A challenge wins a badge, or costs the party its hit points and counts no battle. -/
theorem doGymChallenge_trainer (e : Engine) (gym : Gym) (standing : e.trainer.team.any (·.alive)) :
    (doGymChallenge env e gym).2.trainer.badges = e.trainer.badges ++ [gym.badge] ∨
      (doGymChallenge env e gym).2.trainer ≠ e.trainer ∧
        (doGymChallenge env e gym).2.trainer.totalBattles = e.trainer.totalBattles := by
  unfold doGymChallenge
  dsimp only
  split
  · exact .inl rfl
  · next lost =>
    refine .inr ⟨fun same => ?_, rfl⟩
    have fallen := simulateGym_lost env.fl _ gym.team env.getTemplate e.rng
      (Bool.eq_false_of_not_eq_true lost)
    refine writeBack_ne standing ?_ fallen (congrArg Trainer.team same)
    obtain ⟨m, hm, alive⟩ := List.any_eq_true.1 standing
    have first : 0 < (e.trainer.team.filter (·.alive)).length :=
      List.length_pos_of_mem (List.mem_filter.2 ⟨hm, alive⟩)
    have party := simulateGym_length env.fl ((e.trainer.team.filter (·.alive)).take 4) gym.team
      env.getTemplate e.rng
    intro empty
    rw [empty, List.length_nil, List.length_take] at party
    omega

/-- **A tick that a cooldown keeps from a gym differs from one that goes there.** -/
theorem tick_ne_of_challenge (h : Same s r) (hs : 0 < s.gymCooldown) (hr : r.gymCooldown = 0)
    (hw : wouldChallenge env s.trainer = true) : (tick env r).2.trainer ≠ (tick env s).2.trainer := by
  unfold wouldChallenge at hw
  cases asked : askedGym env s.trainer with
  | none =>
    rw [asked] at hw
    cases hw
  | some at_ =>
    obtain ⟨town, gym⟩ := at_
    rw [asked] at hw
    dsimp only at hw
    have standing : s.trainer.team.any (·.alive) := by
      unfold readyFor at hw
      rw [Bool.and_eq_true, Bool.and_eq_true] at hw
      exact hw.1.2
    rw [tick_of_asked env asked, tick_of_asked env (h.trainer ▸ asked), h.trainer,
      if_pos ⟨hr, hw⟩, if_neg fun h => absurd h.1 hs.ne']
    have goes := doGymChallenge_trainer env r gym (h.trainer ▸ standing)
    have hunts := doWildEncounter_trainer env { s with gymCooldown := s.gymCooldown - 1 } town
      false standing
    rw [h.trainer] at goes
    intro same
    rw [same] at goes
    rcases goes with won | ⟨lost, battles⟩
    · -- a badge more against the same badges
      have badges : s.trainer.badges = s.trainer.badges ++ [gym.badge] := by
        rcases hunts with kept | ⟨badges, -⟩
        · rwa [kept] at won
        · exact badges.symm.trans won
      exact absurd (congrArg List.length badges) (by simp)
    · rcases hunts with kept | ⟨-, counted⟩
      · exact lost kept
      · exact absurd (counted.symm.trans battles) (Nat.succ_ne_self _)

end Pokeage.Game.Engine
