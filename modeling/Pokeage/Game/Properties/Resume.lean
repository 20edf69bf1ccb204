import Pokeage.Infra.Lockstep
import Pokeage.Game.Exact
import Pokeage.Game.Data.Monsters
import Pokeage.Game.Properties.Moves
import Pokeage.Game.Properties.Ticks

/-!
# Resuming a saved run

A save leaves out one variable that a later tick reads: the gym cooldown. The resumed engine starts
without one, so it goes back to a gym that the uninterrupted run still keeps away from. Loading also
replaces an empty location and a missing strategy.

`resumes_iff` says that nothing else gets lost: the two runs show the same trainer and the same
generator exactly as long as no such challenge comes up.
-/

namespace Pokeage.Game.Engine

variable (env : Env)

/-- What two runs are compared by: the trainer up to cached moves, and the generator. -/
def view (e : Engine) : Trainer × Rng := (e.trainer.stripped, e.rng)

/-- `n` ticks, a save, and `m` ticks on the resumed engine show what `n + m` ticks show. -/
def ResumesAfter (trainer : Trainer) (rng : Rng) (n m : ℕ) : Prop :=
  ((resume (ticks env n (Engine.new trainer rng)).save).map fun e => (ticks env m e).view) =
    .ok (ticks env (n + m) (Engine.new trainer rng)).view

/-- When a run saved at `e` can be resumed for `m` ticks. -/
structure Resumable (e : Engine) (m : ℕ) : Prop where
  location : e.trainer.location ≠ ""
  strategy : e.trainer.strategy.isSome
  waiting : ∀ k < m, (∀ j ≤ k, 0 < (ticks env j e).gymCooldown) →
    wouldChallenge env (ticks env k e).trainer = false

/-! ## Saving changes nothing else -/

theorem askedGym_stripped (t : Trainer) : askedGym env t.stripped = askedGym env t := by
  unfold askedGym
  rw [needsHeal_stripped]
  rfl

/-- Whether the engine would challenge depends on no cache. -/
theorem wouldChallenge_stripped (t : Trainer) :
    wouldChallenge env t.stripped = wouldChallenge env t := by
  unfold wouldChallenge
  rw [askedGym_stripped]
  split
  · exact readyFor_stripped env t _ _
  · rfl

/-- The loaded trainer is the saved one when the save has a location and a strategy. -/
theorem resume_save_of_complete {e : Engine} (hl : e.trainer.location ≠ "")
    (hs : e.trainer.strategy.isSome) :
    resume e.save = .ok (Engine.new e.trainer.stripped e.rng) := by
  obtain ⟨strategy, some_strategy⟩ := Option.isSome_iff_exists.1 hs
  have location : loadLocation e.trainer.location = e.trainer.location := if_neg hl
  have strat : some e.trainer.strat = e.trainer.strategy := by
    unfold Trainer.strat
    rw [some_strategy, Option.getD_some]
  rw [resume_save, location, strat]
  rfl

/-- And otherwise it shows at once. -/
theorem complete_of_resumes {trainer : Trainer} {rng : Rng} {n : ℕ}
    (h : ResumesAfter env trainer rng n 0) :
    (ticks env n (Engine.new trainer rng)).trainer.location ≠ "" ∧
      (ticks env n (Engine.new trainer rng)).trainer.strategy.isSome := by
  unfold ResumesAfter at h
  rw [resume_save, Nat.add_zero] at h
  generalize ticks env n (Engine.new trainer rng) = e at h
  have trainers := congrArg Prod.fst (Except.ok.inj h)
  have location : loadLocation e.trainer.location = e.trainer.location :=
    congrArg Trainer.location trainers
  have strategy : some e.trainer.strat = e.trainer.strategy := congrArg Trainer.strategy trainers
  refine ⟨?_, ?_⟩
  · intro empty
    rw [empty] at location
    exact absurd location (by decide)
  · rw [← strategy]
    rfl

/-! ## The two runs side by side -/

/-- The uninterrupted run has had a cooldown since tick zero. -/
def Waits (e : Engine) (k : ℕ) : Prop := ∀ j ≤ k, 0 < (ticks env j e).gymCooldown

/-- What holds of the run from `e` and the resumed run after `k` ticks that nothing told apart. -/
structure Abreast (e : Engine) (k : ℕ) (s r : Engine) : Prop where
  reached : s = ticks env k e
  same : Same s r
  waiting : Waits env e k → r.gymCooldown = 0
  caughtUp : ¬ Waits env e k → r.gymCooldown = s.gymCooldown

theorem abreast_start (e : Engine) : Abreast env e 0 e (Engine.new e.trainer e.rng) where
  reached := rfl
  same := ⟨rfl, rfl⟩
  waiting := fun _ => rfl
  caughtUp := fun h => by
    by_contra nonzero
    refine h fun j hj => ?_
    obtain rfl := Nat.le_zero.1 hj
    exact Nat.pos_of_ne_zero (Ne.symm nonzero)

/-- Both runs stay abreast as long as the cooldown holds back no challenge. -/
theorem Abreast.step {e s r : Engine} {k : ℕ} (h : Abreast env e k s r)
    (safe : Waits env e k → wouldChallenge env (ticks env k e).trainer = false) :
    Abreast env e (k + 1) (tick env s).2 (tick env r).2 := by
  have reached : (tick env s).2 = ticks env (k + 1) e := by
    unfold ticks
    rw [Function.iterate_succ_apply', h.reached]
    rfl
  have shorter (waits : Waits env e (k + 1)) : Waits env e k := fun j hj =>
    waits j (Nat.le_succ_of_le hj)
  by_cases waits : Waits env e k
  · have next := tick_same_of_quiet h.same (h.waiting waits) (h.reached ▸ safe waits)
    refine ⟨reached, next.1, fun _ => next.2, fun ended => ?_⟩
    -- the cooldown has just run out, so that the two are equal from here on
    have zero : (ticks env (k + 1) e).gymCooldown = 0 := by
      by_contra nonzero
      refine ended fun j hj => ?_
      rcases Nat.lt_or_eq_of_le hj with before | rfl
      · exact waits j (Nat.le_of_lt_succ before)
      · exact Nat.pos_of_ne_zero nonzero
    rw [next.2, reached, zero]
  · have next : Same (tick env s).2 (tick env r).2 ∧ _ := tick_same h.same (h.caughtUp waits)
    exact ⟨reached, next.1, fun longer => absurd (shorter longer) waits, fun _ => next.2⟩

/-- Where it does, they part. -/
theorem Abreast.part {e s r : Engine} {k : ℕ} (h : Abreast env e k s r)
    (challenge : ¬ (Waits env e k → wouldChallenge env (ticks env k e).trainer = false)) :
    ¬ Same (tick env s).2 (tick env r).2 := by
  rw [Classical.not_imp, Bool.not_eq_false, ← h.reached] at challenge
  obtain ⟨waits, would⟩ := challenge
  have cooling : 0 < s.gymCooldown := h.reached ▸ waits k (Nat.le_refl k)
  intro same
  exact tick_ne_of_challenge h.same cooling (h.waiting waits) would same.trainer

/-- An engine and one that starts afresh from its trainer and generator show the same as long as the
cooldown of the first holds back no challenge. -/
theorem same_upto_iff (e : Engine) (m : ℕ) :
    (∀ k ≤ m, Same (ticks env k e) (ticks env k (Engine.new e.trainer e.rng))) ↔
      ∀ k < m, Waits env e k → wouldChallenge env (ticks env k e).trainer = false :=
  Infra.Lockstep.agree_iff_safe (abreast_start env e) (fun _ _ _ h => h.same)
    (fun _ _ _ h safe => h.step env safe) (fun _ _ _ h challenge => h.part env challenge) m

/-! ## The saved run -/

/-- Resuming is running the same engine without its cooldown. -/
theorem resumesAfter_iff_same {trainer : Trainer} {rng : Rng} {n : ℕ} {e : Engine}
    (saved : ticks env n (Engine.new trainer rng) = e) (hl : e.trainer.location ≠ "")
    (hs : e.trainer.strategy.isSome) (k : ℕ) :
    ResumesAfter env trainer rng n k ↔
      Same (ticks env k e.stripped) (ticks env k (Engine.new e.stripped.trainer e.stripped.rng)) := by
  have straight : ticks env (n + k) (Engine.new trainer rng) = ticks env k e := by
    rw [← saved, Nat.add_comm]
    exact Function.iterate_add_apply _ k n _
  -- the resumed run starts with no moves cached and caches none
  have clean : (ticks env k (Engine.new e.trainer.stripped e.rng)).trainer.stripped =
      (ticks env k (Engine.new e.trainer.stripped e.rng)).trainer := by
    rw [← stripped_trainer, ← ticks_stripped]
    unfold stripped Engine.new
    rw [Trainer.stripped_stripped]
  unfold ResumesAfter
  rw [saved, straight, resume_save_of_complete hl hs, ticks_stripped]
  constructor
  · intro h
    have views := Except.ok.inj h
    exact ⟨clean.symm.trans (congrArg Prod.fst views), congrArg Prod.snd views⟩
  · intro same
    exact congrArg Except.ok (Prod.ext (clean.trans same.trainer) same.rng)

theorem waits_stripped (e : Engine) (k : ℕ) : Waits env e.stripped k ↔ Waits env e k := by
  unfold Waits
  simp only [ticks_stripped]
  rfl

/-- **When a saved run resumes bit for bit.** Exactly if it was saved with a location and a strategy
and the cooldown pending there holds back no challenge. -/
theorem resumes_iff (trainer : Trainer) (rng : Rng) (n m : ℕ) :
    (∀ k ≤ m, ResumesAfter env trainer rng n k) ↔
      Resumable env (ticks env n (Engine.new trainer rng)) m := by
  generalize saved : ticks env n (Engine.new trainer rng) = e
  have safe_iff (k : ℕ) :
      (Waits env e.stripped k → wouldChallenge env (ticks env k e.stripped).trainer = false) ↔
        (Waits env e k → wouldChallenge env (ticks env k e).trainer = false) := by
    rw [waits_stripped, ticks_stripped, Engine.stripped_trainer, wouldChallenge_stripped]
  constructor
  · intro resumes
    obtain ⟨hl, hs⟩ := complete_of_resumes env (resumes 0 (Nat.zero_le m))
    rw [saved] at hl hs
    have safe := (same_upto_iff env e.stripped m).1 fun k hk =>
      (resumesAfter_iff_same env saved hl hs k).1 (resumes k hk)
    exact ⟨hl, hs, fun k hk => (safe_iff k).1 (safe k hk)⟩
  · rintro ⟨hl, hs, waiting⟩ k hk
    have same := (same_upto_iff env e.stripped m).2 fun j hj => (safe_iff j).2 (waiting j hj)
    exact (resumesAfter_iff_same env saved hl hs k).2 (same k hk)

/-! ### A gym that is fought again -/

/-- The bird of the sample roster. -/
def hatchick : MonsterTemplate := sampleMonsters.get ⟨21, by decide⟩

/-- A starting town whose gym holds one bird, and no route to hunt on. -/
def seedling : Town where
  id := "seedling"
  name := "SEEDLING TOWN"
  gym := some ⟨"MOLLY", .normal, "NORMAL", [⟨22, 6⟩], 0⟩
  routes := []
  nextTown := none
  requiredBadge := none

/-- That town and that bird, in exact arithmetic. -/
def seedlingEnv : Env where
  fl := exactFloats
  world := ⟨[seedling], []⟩
  getTemplate := fun n => if n = 22 then some hatchick else none
  opts := ⟨none, none⟩

/-- A trainer with one monster of level six that any hit fells. -/
def frailTrainer : Trainer where
  id := "p1"
  name := "TESTER"
  team := [{ instanceWith hatchick 6 ⟨1, 1, 1, 0⟩ with targetStats := ⟨1, 1, 1, 0⟩ }]
  box := []
  badges := []
  location := "seedling"
  items := ⟨10, []⟩
  totalBattles := 0
  totalCaught := 0
  strategy := some .empty

/-- The gym is lost at tick one, the team heals at tick two. Saved there and resumed, tick three
loses the gym again, where the uninterrupted run waits out its cooldown. -/
theorem not_resumesAfter_lostGym : ¬ ResumesAfter seedlingEnv frailTrainer (Rng.new 1) 2 1 := by
  unfold ResumesAfter
  decide +kernel

end Pokeage.Game.Engine
