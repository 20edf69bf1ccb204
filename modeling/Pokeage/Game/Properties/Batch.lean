import Pokeage.Game.Batch
import Pokeage.Game.Doubles
import Pokeage.Game.Factory
import Pokeage.Game.Properties.Placement

/-!
# Reports of batches

The order of the seeds does not matter, longer runs never have a lower report, and the rate of full clears is a
rate (`runBatch_reports`).
-/

namespace Pokeage.Game

namespace Engine

variable {env : Env} {t t' : Trainer}

/-- What a run counts. -/
structure NoLess (t t' : Trainer) : Prop where
  badges : t.badges.length ≤ t'.badges.length
  caught : t.totalCaught ≤ t'.totalCaught
  battles : t.totalBattles ≤ t'.totalBattles

theorem NoLess.refl (t : Trainer) : NoLess t t := ⟨le_rfl, le_rfl, le_rfl⟩

theorem NoLess.trans {t'' : Trainer} (h : NoLess t t') (h' : NoLess t' t'') : NoLess t t'' :=
  ⟨h.badges.trans h'.badges, h.caught.trans h'.caught, h.battles.trans h'.battles⟩

/-- No tick takes a badge, a catch or a battle away. -/
theorem Outcome.noLess (h : Outcome env t t') : NoLess t t' := by
  cases h with
  | kept => exact .refl t
  | healed => exact ⟨le_rfl, le_rfl, le_rfl⟩
  | moved => exact ⟨le_rfl, le_rfl, le_rfl⟩
  | gymWon => exact ⟨by simp, le_rfl, le_rfl⟩
  | gymLost => exact ⟨le_rfl, le_rfl, le_rfl⟩
  | fought => exact ⟨le_rfl, le_rfl, Nat.le_succ _⟩
  | missed => exact ⟨le_rfl, le_rfl, Nat.le_succ _⟩
  | @caught team wild =>
    have placed := placeNewMonster_placed (thrown (battled t team)) wild
    have badges := placed.same (f := fun t => t.badges) fun _ _ _ => rfl
    have caught := placed.same (f := fun t => t.totalCaught) fun _ _ _ => rfl
    have battles := placed.same (f := fun t => t.totalBattles) fun _ _ _ => rfl
    exact ⟨(congrArg List.length badges).ge, (caught.ge).trans (Nat.le_succ _), (Nat.le_succ _).trans battles.ge⟩

/-- What is counted never falls. -/
theorem ticks_noLess (env : Env) (e : Engine) {n k : ℕ} (later : n ≤ k) :
    NoLess (ticks env n e).trainer (ticks env k e).trainer := by
  obtain ⟨d, rfl⟩ := Nat.exists_eq_add_of_le' later
  have split : ticks env (d + n) e = ticks env d (ticks env n e) := Function.iterate_add_apply _ d n e
  rw [split]
  exact ticks_induction (P := NoLess (ticks env n e).trainer)
    (fun _ _ so_far step => so_far.trans step.noLess) (.refl _) d

end Engine

/-! ## Totals -/

/-- One run after another, in either order. -/
theorem Totals.add_comm (totals : Totals) (t t' : Trainer) :
    (totals.add t).add t' = (totals.add t').add t := by
  unfold Totals.add
  congr 1
  · exact Nat.add_right_comm ..
  · exact Nat.add_right_comm ..
  · exact Nat.add_right_comm ..
  · exact Int.add_right_comm ..
  · by_cases full : 12 ≤ t.badges.length <;> by_cases full' : 12 ≤ t'.badges.length <;> simp [full, full']

/-- No total is lower. -/
structure Totals.Le (totals totals' : Totals) : Prop where
  badges : totals.badges ≤ totals'.badges
  caught : totals.caught ≤ totals'.caught
  battles : totals.battles ≤ totals'.battles
  fullClears : totals.fullClears ≤ totals'.fullClears

/-- One more run, no shorter, keeps the order. -/
theorem Totals.Le.add {totals totals' : Totals} (le : totals.Le totals') {t t' : Trainer}
    (noLess : Engine.NoLess t t') : (totals.add t).Le (totals'.add t') where
  badges := Nat.add_le_add le.badges noLess.badges
  caught := Nat.add_le_add le.caught noLess.caught
  battles := Nat.add_le_add le.battles noLess.battles
  fullClears := by
    have badges := noLess.badges
    have clears := le.fullClears
    unfold Totals.add
    dsimp only
    split_ifs <;> omega

section

variable {σ : Type} (makeEngine : σ → Env × Engine) (seeds : List σ)

/-- Longer runs have no lower totals. -/
theorem batchTotals_le {n k : ℕ} (later : n ≤ k) :
    (batchTotals makeEngine seeds n).Le (batchTotals makeEngine seeds k) := by
  have fold : ∀ (totals totals' : Totals), totals.Le totals' →
      (seeds.foldl (fun totals seed => totals.add (playthrough makeEngine n seed)) totals).Le
        (seeds.foldl (fun totals seed => totals.add (playthrough makeEngine k seed)) totals') := by
    induction seeds with
    | nil => exact fun _ _ le => le
    | cons seed seeds ih => exact fun _ _ le => ih _ _ (le.add (Engine.ticks_noLess _ _ later))
  exact fold .zero .zero ⟨le_rfl, le_rfl, le_rfl, le_rfl⟩

/-- There are no more full clears than runs. -/
theorem fullClears_le (n : ℕ) : (batchTotals makeEngine seeds n).fullClears ≤ seeds.length := by
  have fold : ∀ totals : Totals,
      (seeds.foldl (fun totals seed => totals.add (playthrough makeEngine n seed)) totals).fullClears ≤
        totals.fullClears + seeds.length := by
    induction seeds with
    | nil => exact fun _ => le_rfl
    | cons seed seeds ih =>
      intro totals
      have rest := ih (totals.add (playthrough makeEngine n seed))
      have one : (totals.add (playthrough makeEngine n seed)).fullClears ≤ totals.fullClears + 1 := by
        unfold Totals.add
        dsimp only
        split_ifs <;> omega
      rw [List.foldl_cons, List.length_cons]
      omega
  exact (fold .zero).trans (Nat.zero_add _).le

end

/-! ## Means -/

section

variable {fl : Floats}

/-- An average does not fall as its total grows. -/
theorem average_mono (ordered : fl.Ordered) {total total' n : ℚ} (pos : 0 < n) (le : total ≤ total') :
    average fl total n ≤ average fl total' n := by
  unfold average round2
  refine ordered.mono (div_le_div_of_nonneg_right (Int.cast_le.2 (Int.floor_le_floor ?_)) (by norm_num))
  have mean := ordered.mono (div_le_div_of_nonneg_right le pos.le)
  have scaled := ordered.mono (mul_le_mul_of_nonneg_right mean (by norm_num : (0 : ℚ) ≤ 100))
  exact add_le_add_left scaled _

theorem average_zero (ordered : fl.Ordered) (n : ℚ) : average fl 0 n = 0 := by
  unfold average round2
  norm_num [ordered.zero]

/-- Where one and a hundred are stored as they are, the mean of nothing but ones is one. -/
theorem average_self (one : fl 1 = 1) (hundred : fl 100 = 100) {n : ℚ} (pos : 0 < n) :
    average fl n n = 1 := by
  unfold average round2
  rw [div_self pos.ne', one]
  norm_num [one, hundred]

end

/-! ## Reports -/

variable {σ : Type}

/-- **Reports of batches.** In doubles, whatever engines the factory builds: a batch has the same report in
any order of its seeds, no count of it falls when the runs go on for longer, and its rate of full clears is
from zero to one. -/
theorem runBatch_reports (pow : ℚ → ℚ → ℚ) (makeEngine : σ → Env × Engine) {seeds seeds' : List σ}
    (same : seeds.Perm seeds') {n k : ℕ} (later : n ≤ k) :
    runBatch (doubleFloats pow) makeEngine seeds' n = runBatch (doubleFloats pow) makeEngine seeds n ∧
    ((runBatch (doubleFloats pow) makeEngine seeds n).avgBadges ≤
        (runBatch (doubleFloats pow) makeEngine seeds k).avgBadges ∧
      (runBatch (doubleFloats pow) makeEngine seeds n).avgCaught ≤
        (runBatch (doubleFloats pow) makeEngine seeds k).avgCaught ∧
      (runBatch (doubleFloats pow) makeEngine seeds n).avgBattles ≤
        (runBatch (doubleFloats pow) makeEngine seeds k).avgBattles ∧
      (runBatch (doubleFloats pow) makeEngine seeds n).fullClearRate ≤
        (runBatch (doubleFloats pow) makeEngine seeds k).fullClearRate) ∧
    0 ≤ (runBatch (doubleFloats pow) makeEngine seeds n).fullClearRate ∧
      (runBatch (doubleFloats pow) makeEngine seeds n).fullClearRate ≤ 1 := by
  have ordered := doubleFloats_ordered pow
  have totals : batchTotals makeEngine seeds' n = batchTotals makeEngine seeds n := by
    refine same.symm.foldl_eq' ?_ Totals.zero
    intro seed _ seed' _ totals
    exact totals.add_comm _ _
  have length := same.length_eq
  have pos : (0 : ℚ) < (max 1 seeds.length : ℕ) := Nat.cast_pos.2 (by omega)
  have le := batchTotals_le makeEngine seeds later
  have one : doubleFloats pow 1 = 1 := by
    show Infra.Rounding.roundTo 53 1 = 1
    simpa using Infra.Rounding.roundTo_natCast (p := 53) 1 (by decide)
  have hundred : doubleFloats pow 100 = 100 := by
    show Infra.Rounding.roundTo 53 100 = 100
    simpa using Infra.Rounding.roundTo_natCast (p := 53) 100 (by decide)
  refine ⟨?_, ⟨?_, ?_, ?_, ?_⟩, ?_, ?_⟩
  · unfold runBatch
    rw [totals, length]
  · exact average_mono ordered pos (Nat.cast_le.2 le.badges)
  · exact average_mono ordered pos (Nat.cast_le.2 le.caught)
  · exact average_mono ordered pos (Nat.cast_le.2 le.battles)
  · exact average_mono ordered pos (Nat.cast_le.2 le.fullClears)
  · rw [← average_zero ordered (max 1 seeds.length : ℕ)]
    exact average_mono ordered pos (Nat.cast_nonneg _)
  · rw [← average_self one hundred pos]
    refine average_mono ordered pos (Nat.cast_le.2 ?_)
    exact (fullClears_le makeEngine seeds n).trans (le_max_right _ _)

/-- A batch of the tests. -/
def sampleBatch (seeds : List UInt32) (ticks : ℕ) : BatchReport :=
  runBatch (doubleFloats exactFloats.pow) (fun seed => (sampleEnv, freshEngine seed)) seeds ticks

theorem runBatch_reports_sample :
    sampleBatch [30, 10, 20] 800 = sampleBatch [10, 20, 30] 800 ∧
    ((sampleBatch [10, 20, 30] 800).avgBadges ≤ (sampleBatch [10, 20, 30] 1500).avgBadges ∧
      (sampleBatch [10, 20, 30] 800).avgCaught ≤ (sampleBatch [10, 20, 30] 1500).avgCaught ∧
      (sampleBatch [10, 20, 30] 800).avgBattles ≤ (sampleBatch [10, 20, 30] 1500).avgBattles ∧
      (sampleBatch [10, 20, 30] 800).fullClearRate ≤ (sampleBatch [10, 20, 30] 1500).fullClearRate) ∧
    0 ≤ (sampleBatch [10, 20, 30] 800).fullClearRate ∧ (sampleBatch [10, 20, 30] 800).fullClearRate ≤ 1 :=
  runBatch_reports exactFloats.pow _ (by decide) (by decide)

end Pokeage.Game
