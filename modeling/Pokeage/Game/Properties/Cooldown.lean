import Pokeage.Game.Properties.Resume

/-!
# When the next challenge comes

A lost challenge sets a cooldown of five, and only a tick that asks a gym counts it down. `next_challenge`
says at which tick the engine goes to a gym again: the first at which it would, once the cooldown has been
asked away.
-/

namespace Pokeage.Game.Engine

variable (env : Env)

/-- The tick of this engine goes to a gym. -/
def Challenges (e : Engine) : Prop := (tick env e).1.action = .gym

/-- And comes back beaten. -/
def Loses (e : Engine) : Prop := Challenges env e ∧ (tick env e).1.detail = some "lost"

instance (e : Engine) : Decidable (Challenges env e) := inferInstanceAs (Decidable (_ = _))

instance (e : Engine) : Decidable (Loses env e) := inferInstanceAs (Decidable (_ ∧ _))

/-- How many of the next `n` ticks ask a gym. -/
def asks (e : Engine) (n : ℕ) : ℕ :=
  (List.range n).countP fun k => (askedGym env (ticks env k e).trainer).isSome

theorem asks_succ (e : Engine) (n : ℕ) :
    asks env e (n + 1) =
      asks env e n + if (askedGym env (ticks env n e).trainer).isSome then 1 else 0 := by
  unfold asks
  rw [List.range_succ, List.countP_append, List.countP_singleton]

variable {env} {e : Engine}

/-! ## One tick -/

theorem roam_action (town : Town) : (roam env e town).1.action ≠ .gym := by
  unfold roam
  split
  · nofun
  · dsimp only
    split <;> nofun

/-- What a tick that goes to a gym reports, with the engine after it. -/
theorem tick_of_challenge {town : Town} {gym : Gym} (asked : askedGym env e.trainer = some (town, gym))
    (idle : e.gymCooldown = 0) (ready : readyFor env e.trainer town gym = true) :
    tick env e = (⟨(doGymChallenge env e gym).2.state, .gym,
      some (if (doGymChallenge env e gym).1 then "won" else "lost"), none⟩,
      (doGymChallenge env e gym).2) := by
  obtain ⟨htown, hgym, fit, wants, lacks⟩ := askedGym_eq_some env asked
  unfold tick gymOrRoam
  rw [htown]
  dsimp only
  rw [fit, if_neg Bool.false_ne_true, if_neg wants, shouldChallengeGym_of_lacks env hgym lacks,
    if_neg (by omega), hgym, ready]

/-- A positive answer of `shouldChallengeGym`, taken apart. -/
theorem shouldChallengeGym_eq_true {town : Town} (h : (shouldChallengeGym env e town).1 = true) :
    ∃ gym, town.gym = some gym ∧ gym.badge ∉ e.trainer.badges ∧ e.gymCooldown = 0 ∧
      readyFor env e.trainer town gym = true := by
  unfold shouldChallengeGym at h
  cases hgym : town.gym with
  | none =>
    rw [hgym] at h
    cases h
  | some gym =>
    rw [hgym] at h
    dsimp only at h
    split_ifs at h with owns waits
    exact ⟨gym, rfl, owns, by omega, h⟩

/-- A tick goes to a gym exactly if it would and no cooldown keeps it. -/
theorem challenges_iff : Challenges env e ↔ e.gymCooldown = 0 ∧ wouldChallenge env e.trainer = true := by
  unfold Challenges
  constructor
  · intro h
    unfold tick gymOrRoam at h
    cases htown : currentTown env e.trainer with
    | none =>
      rw [htown] at h
      cases h
    | some town =>
      rw [htown] at h
      dsimp only at h
      split at h
      · cases h
      next fit =>
      split at h
      · exact absurd h (roam_action town)
      next wants =>
      · split at h
        · next goes hgym =>
          obtain ⟨gym, gym_eq, lacks, idle, ready⟩ := shouldChallengeGym_eq_true goes
          refine ⟨idle, ?_⟩
          unfold wouldChallenge askedGym
          rw [htown]
          dsimp only
          rw [gym_eq]
          dsimp only
          rw [if_neg (by tauto)]
          exact ready
        · exact absurd h (roam_action town)
  · rintro ⟨idle, would⟩
    unfold wouldChallenge at would
    split at would
    · next town gym asked => rw [tick_of_challenge asked idle would]
    · cases would

/-- A tick that does not go to a gym counts the cooldown down if it asks one. -/
theorem tick_cooldown (calm : ¬ Challenges env e) :
    (tick env e).2.gymCooldown =
      e.gymCooldown - if (askedGym env e.trainer).isSome then 1 else 0 := by
  rw [challenges_iff] at calm
  unfold wouldChallenge at calm
  cases asked : askedGym env e.trainer with
  | none =>
    rw [tick_of_not_asked env asked, quiet_gymCooldown]
    rfl
  | some at_ =>
    obtain ⟨town, gym⟩ := at_
    rw [asked] at calm
    rw [tick_of_asked env asked, if_neg calm, doWildEncounter_gymCooldown]
    rfl

/-- After a lost challenge the cooldown is five. -/
theorem Loses.cooldown (h : Loses env e) : (tick env e).2.gymCooldown = 5 := by
  obtain ⟨goes, lost⟩ := h
  obtain ⟨idle, would⟩ := challenges_iff.1 goes
  unfold wouldChallenge at would
  split at would
  · next town gym asked =>
    rw [tick_of_challenge asked idle would] at lost ⊢
    by_cases won : (doGymChallenge env e gym).1 = true
    · rw [won] at lost
      have told : (if true = true then "won" else "lost") = "lost" := Option.some.inj lost
      rw [if_pos rfl] at told
      exact absurd told (by decide)
    · unfold doGymChallenge at won ⊢
      dsimp only at won ⊢
      split
      · next beats =>
        rw [if_pos beats] at won
        exact absurd rfl won
      · rfl
  · cases would

/-! ## Runs -/

/-- As long as no tick goes to a gym, the cooldown is what has not been asked away. -/
theorem cooldown_of_calm {n : ℕ} (calm : ∀ k < n, ¬ Challenges env (ticks env k e)) :
    (ticks env n e).gymCooldown = e.gymCooldown - asks env e n := by
  induction n with
  | zero => exact (Nat.sub_zero _).symm
  | succ n ih =>
    have next : ticks env (n + 1) e = (tick env (ticks env n e)).2 :=
      Function.iterate_succ_apply' _ n e
    rw [next, tick_cooldown (calm n (Nat.lt_succ_self n)), ih fun k hk => calm k (Nat.lt_succ_of_lt hk),
      asks_succ, Nat.sub_sub]

/-- **When the next challenge comes.** Up to the first challenge of a run from any state, a tick goes to a
gym exactly if it would and the cooldown has been asked away; after a lost one that takes five ticks that
ask. -/
theorem next_challenge (env : Env) (e : Engine) {n : ℕ}
    (calm : ∀ k < n, ¬ Challenges env (ticks env k e)) :
    (Challenges env (ticks env n e) ↔
      e.gymCooldown ≤ asks env e n ∧ wouldChallenge env (ticks env n e).trainer = true) ∧
    (Loses env (ticks env n e) → ∀ m,
      (∀ k < m, ¬ Challenges env (ticks env (n + 1 + k) e)) →
      (Challenges env (ticks env (n + 1 + m) e) ↔
        5 ≤ asks env (ticks env (n + 1) e) m ∧
          wouldChallenge env (ticks env (n + 1 + m) e).trainer = true)) := by
  constructor
  · rw [challenges_iff, cooldown_of_calm calm, Nat.sub_eq_zero_iff_le]
  · intro lost m quiet
    have split (k : ℕ) : ticks env (n + 1 + k) e = ticks env k (ticks env (n + 1) e) := by
      rw [Nat.add_comm]
      exact Function.iterate_add_apply _ k (n + 1) e
    have five : (ticks env (n + 1) e).gymCooldown = 5 := by
      have next : ticks env (n + 1) e = (tick env (ticks env n e)).2 :=
        Function.iterate_succ_apply' _ n e
      rw [next]
      exact lost.cooldown
    have later : ∀ k < m, ¬ Challenges env (ticks env k (ticks env (n + 1) e)) := by
      intro k hk
      rw [← split]
      exact quiet k hk
    rw [split, challenges_iff, cooldown_of_calm later, five, Nat.sub_eq_zero_iff_le]

/-- The frail trainer loses at once, heals at the next tick, is kept away for five and goes again. -/
theorem next_challenge_frailTrainer :
    Challenges seedlingEnv (ticks seedlingEnv 7 (Engine.new frailTrainer (Rng.new 1))) := by
  have lost : Loses seedlingEnv (ticks seedlingEnv 0 (Engine.new frailTrainer (Rng.new 1))) := by
    decide +kernel
  have quiet : ∀ k < 6, ¬ Challenges seedlingEnv
      (ticks seedlingEnv (0 + 1 + k) (Engine.new frailTrainer (Rng.new 1))) := by
    decide +kernel
  have first := next_challenge seedlingEnv (Engine.new frailTrainer (Rng.new 1)) (n := 0)
    fun k hk => absurd hk (Nat.not_lt_zero k)
  refine (first.2 lost 6 quiet).2 ⟨?_, ?_⟩
  · decide +kernel
  · decide +kernel

end Pokeage.Game.Engine
