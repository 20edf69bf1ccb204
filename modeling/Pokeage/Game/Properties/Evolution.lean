import Pokeage.Game.Data.Monsters
import Pokeage.Game.Exact
import Pokeage.Game.Properties.Levelling

/-!
# Levelling and creation

A monster that levels up has the stats and hit points of one created at its level. Its stage can lag:
the second evolution only follows the first, in a later round, where creation looks at the level alone.
`levelledStage` is the stage that levelling ends with, and `agrees_iff` says when it is the right one.
-/

namespace Pokeage.Game

variable (fl : Floats)

/-- A level that is reached stays reached. -/
theorem evolvesAt_mono {ev : Option ℤ} {l l' : ℤ} (le : l ≤ l') (h : evolvesAt ev l = true) :
    evolvesAt ev l' = true := by
  cases ev with
  | none => cases h
  | some e =>
    simp only [evolvesAt, Bool.and_eq_true, decide_eq_true_eq] at h ⊢
    exact ⟨h.1, h.2.trans le⟩

/-- Grants to a new monster, one after the other. -/
def levelled (template : MonsterTemplate) (level : ℤ) (amounts : List ℤ) : MonsterInstance :=
  amounts.foldl (fun mon amount => (grantXp fl mon amount template).1)
    (createMonsterInstance fl template level)

/-- Two monsters of the same stage, stats and hit points. -/
structure Agree (m m' : MonsterInstance) : Prop where
  stage : m.stage = m'.stage
  stats : m.stats = m'.stats
  currentHP : m.currentHP = m'.currentHP

/-! ## The stage -/

/-- The stage at a level reached from `level₀`: two if it was created so, or if the first evolution
came at least a level before and the second is due. -/
def levelledStage (template : MonsterTemplate) (level₀ level : ℤ) : ℤ :=
  if evolvesAt template.ev2 level₀ ∨
      evolvesAt template.ev2 level ∧ evolvesAt template.ev1 (level - 1) then 2
  else if evolvesAt template.ev1 level then 1
  else 0

theorem levelledStage_self (template : MonsterTemplate) (level : ℤ) :
    levelledStage template level level = stageForLevel template level := by
  unfold levelledStage stageForLevel
  by_cases second : evolvesAt template.ev2 level
  · rw [if_pos (.inl second), if_pos second]
  · rw [if_neg (by simp [second]), if_neg second]

/-- One more level takes the stage one step on. -/
theorem nextStage_levelled {template : MonsterTemplate} {level₀ : ℤ} {mon : MonsterInstance}
    (ev1 : mon.ev1 = template.ev1) (ev2 : mon.ev2 = template.ev2)
    (stage : mon.stage = levelledStage template level₀ mon.level) :
    nextStage mon (mon.level + 1) = levelledStage template level₀ (mon.level + 1) := by
  unfold nextStage
  rw [stage, ev1, ev2]
  unfold levelledStage
  rw [Int.add_sub_cancel]
  by_cases born : evolvesAt template.ev2 level₀
  · simp [born]
  by_cases first : evolvesAt template.ev1 mon.level
  · have first' : evolvesAt template.ev1 (mon.level + 1) := evolvesAt_mono (by omega) first
    by_cases due : evolvesAt template.ev2 mon.level ∧ evolvesAt template.ev1 (mon.level - 1)
    · have due' : evolvesAt template.ev2 (mon.level + 1) := evolvesAt_mono (by omega) due.1
      simp [born, first, due, due']
    · by_cases due' : evolvesAt template.ev2 (mon.level + 1) <;>
        simp [born, first, first', due, due']
  · have early : ¬ evolvesAt template.ev1 (mon.level - 1) :=
      fun h => first (evolvesAt_mono (by omega) h)
    by_cases first' : evolvesAt template.ev1 (mon.level + 1) <;> simp [born, first, first', early]

/-- Levelling comes to the stage of creation, or lags. -/
theorem levelledStage_eq_iff {template : MonsterTemplate} {level₀ level : ℤ} (le : level₀ ≤ level) :
    levelledStage template level₀ level = stageForLevel template level ↔
      (evolvesAt template.ev2 level → evolvesAt template.ev2 level₀ ∨
        evolvesAt template.ev1 (level - 1)) := by
  unfold levelledStage stageForLevel
  by_cases due : evolvesAt template.ev2 level
  · by_cases follows : evolvesAt template.ev2 level₀ ∨ evolvesAt template.ev1 (level - 1)
    · have second : evolvesAt template.ev2 level₀ ∨
          evolvesAt template.ev2 level ∧ evolvesAt template.ev1 (level - 1) :=
        follows.imp_right fun h => ⟨due, h⟩
      simp only [if_pos second, if_pos due, follows, implies_true]
    · have lags : ¬ (evolvesAt template.ev2 level₀ ∨
          evolvesAt template.ev2 level ∧ evolvesAt template.ev1 (level - 1)) :=
        fun h => follows (h.imp_right And.right)
      rw [if_neg lags, if_pos due]
      constructor
      · intro same
        split_ifs at same <;> omega
      · intro h
        exact absurd (h due) follows
  · have early : ¬ evolvesAt template.ev2 level₀ := fun h => due (evolvesAt_mono le h)
    simp [due, early]

/-! ## Levelling -/

/-- What a monster created at `level₀` is like after any number of grants. -/
structure Raised (template : MonsterTemplate) (level₀ : ℤ) (m : MonsterInstance) : Prop where
  ev1 : m.ev1 = template.ev1
  ev2 : m.ev2 = template.ev2
  from_ : level₀ ≤ m.level
  stage : m.stage = levelledStage template level₀ m.level
  stats : m.stats = statsAtLevel fl template m.level
  currentHP : m.currentHP = m.stats.hp

theorem raised_create (template : MonsterTemplate) (level : ℤ) :
    Raised fl template level (createMonsterInstance fl template level) where
  ev1 := rfl
  ev2 := rfl
  from_ := le_rfl
  stage := (levelledStage_self template level).symm
  stats := rfl
  currentHP := rfl

variable {fl} {template : MonsterTemplate} {level₀ level : ℤ}

/-- Levelling up keeps to the stages that come due. -/
theorem Raised.levelUp {m : MonsterInstance} (h : Raised fl template level₀ m) (cost : ℤ) :
    Raised fl template level₀ (levelUp fl m template cost).1 := by
  have from_ := h.from_
  have full := h.currentHP
  rw [levelUp_eq]
  refine ⟨h.ev1, h.ev2, ?_, nextStage_levelled h.ev1 h.ev2 h.stage, rfl, ?_⟩
  · show level₀ ≤ m.level + 1
    omega
  · -- the hit points that were full grow by what the level gains
    show min (statsAtLevel fl template (m.level + 1)).hp
      (m.currentHP + ((statsAtLevel fl template (m.level + 1)).hp - m.stats.hp)) =
        (statsAtLevel fl template (m.level + 1)).hp
    omega

/-- So does a grant. -/
theorem Raised.grantXp {m : MonsterInstance} (h : Raised fl template level₀ m) (amount : ℤ) :
    Raised fl template level₀ (grantXp fl m amount template).1 :=
  levelLoop_induction (fun _ cost h _ _ _ => h.levelUp cost)
    ⟨h.ev1, h.ev2, h.from_, h.stage, h.stats, h.currentHP⟩

/-- So does any sequence of grants. -/
theorem raised_levelled (amounts : List ℤ) :
    Raised fl template level₀ (levelled fl template level₀ amounts) := by
  unfold levelled
  have grants : ∀ m, Raised fl template level₀ m → Raised fl template level₀
      (amounts.foldl (fun mon amount => (Game.grantXp fl mon amount template).1) m) := by
    induction amounts with
    | nil => exact fun m h => h
    | cons amount amounts ih => exact fun m h => ih _ (h.grantXp amount)
  exact grants _ (raised_create fl template level₀)

/-- **When levelling agrees with creation.** Exactly if a second evolution that is due was there from
the start or has had the first come before the last level. -/
theorem agrees_iff {amounts : List ℤ} (reached : (levelled fl template level₀ amounts).level = level) :
    Agree (levelled fl template level₀ amounts) (createMonsterInstance fl template level) ↔
      (evolvesAt template.ev2 level → evolvesAt template.ev2 level₀ ∨
        evolvesAt template.ev1 (level - 1)) := by
  have raised : Raised fl template level₀ (levelled fl template level₀ amounts) :=
    raised_levelled amounts
  subst reached
  rw [← levelledStage_eq_iff raised.from_, ← raised.stage]
  constructor
  · intro agree
    exact agree.stage
  · intro stage
    exact ⟨stage, raised.stats, raised.currentHP.trans (congrArg Stats.hp raised.stats)⟩

/-! ### A second stage without a first -/

/-- The middle of the grass line: as a species of its own it has one evolution left, the second. -/
def thornmaw : MonsterTemplate := sampleMonsters.get ⟨1, by decide⟩

theorem agrees_thornmaw_undue :
    Agree (levelled exactFloats thornmaw 30 [25953])
      (createMonsterInstance exactFloats thornmaw 31) :=
  (agrees_iff (by decide +kernel)).2 (by decide)

/-- The level it evolves at makes it the last of its line when it is created, and not when it is
reached. -/
theorem not_agree_thornmaw_due :
    (levelled exactFloats thornmaw 31 [27441]).level = 32 ∧
    (levelled exactFloats thornmaw 31 [27441]).stage = 0 ∧
    (createMonsterInstance exactFloats thornmaw 32).stage = 2 ∧
    ¬ Agree (levelled exactFloats thornmaw 31 [27441])
      (createMonsterInstance exactFloats thornmaw 32) := by
  have lags : (levelled exactFloats thornmaw 31 [27441]).stage = 0 := by decide +kernel
  have last : (createMonsterInstance exactFloats thornmaw 32).stage = 2 := by decide +kernel
  refine ⟨by decide +kernel, lags, last, fun agree => ?_⟩
  have same := agree.stage
  rw [lags, last] at same
  cases same

end Pokeage.Game
