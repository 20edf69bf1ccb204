import Pokeage.Game.Factory
import Pokeage.Game.Properties.Levelling

/-!
# Experience is neither lost nor made

A grant pays for level after level out of what the monster has. More experience never takes a level
back, so a grant may be split anywhere: the loop of the second part goes on where the first one stopped.

Below level zero `getXpForLevel` is no number. A monster there keeps what it is given.
-/

namespace Pokeage.Game

variable {fl : Floats} {template : MonsterTemplate}

/-! ## Splitting a grant -/

/-- The monster with more experience. -/
def MonsterInstance.richer (mon : MonsterInstance) (amount : ℤ) : MonsterInstance :=
  { mon with xp := mon.xp + amount }

/-- A level costs the same for a richer monster, and comes with the same events. -/
theorem levelUp_richer (mon : MonsterInstance) (amount cost : ℤ) :
    levelUp fl (mon.richer amount) template cost =
      ((levelUp fl mon template cost).1.richer amount, (levelUp fl mon template cost).2) := by
  have paid : mon.xp + amount - cost = mon.xp - cost + amount := by omega
  unfold levelUp MonsterInstance.richer
  dsimp only
  rw [paid]
  split_ifs <;> rfl

/-- The loop only adds to the events before it. -/
theorem levelLoop_append (mon : MonsterInstance) (past events : List ProgressEvent) :
    levelLoop fl mon template (past ++ events) =
      ((levelLoop fl mon template events).1, past ++ (levelLoop fl mon template events).2) := by
  fun_induction levelLoop fl mon template events with
  | case1 mon events none => rw [levelLoop, none]
  | case2 mon events cost price pays up ih =>
    rw [levelLoop, price]
    dsimp only
    rw [if_pos pays, List.append_assoc]
    exact ih
  | case3 mon events cost price stop =>
    rw [levelLoop, price]
    dsimp only
    rw [if_neg stop]

/-- **The split changes no decision:** with more to spend the loop first does what it did before. -/
theorem levelLoop_richer {amount : ℤ} (nonneg : 0 ≤ amount) (mon : MonsterInstance)
    (events : List ProgressEvent) :
    levelLoop fl (mon.richer amount) template events =
      levelLoop fl ((levelLoop fl mon template events).1.richer amount) template
        (levelLoop fl mon template events).2 := by
  fun_induction levelLoop fl mon template events with
  | case1 mon events none => rfl
  | case2 mon events cost price pays up ih =>
    have price' : getXpForLevel fl (mon.richer amount).level = some cost := price
    have pays' : cost ≤ (mon.richer amount).xp ∧ (mon.richer amount).level < maxLevel :=
      ⟨by unfold MonsterInstance.richer; dsimp only; omega, pays.2⟩
    rw [levelLoop, price']
    dsimp only
    rw [if_pos pays', levelUp_richer]
    exact ih
  | case3 mon events cost price stop => rfl

theorem grantXp_eq (mon : MonsterInstance) (amount : ℤ) :
    grantXp fl mon amount template = levelLoop fl (mon.richer amount) template [] := rfl

theorem grantXp_add (mon : MonsterInstance) (a : ℤ) {b : ℤ} (nonneg : 0 ≤ b) :
    grantXp fl mon (a + b) template =
      ((grantXp fl (grantXp fl mon a template).1 b template).1,
        (grantXp fl mon a template).2 ++ (grantXp fl (grantXp fl mon a template).1 b template).2) := by
  have both : mon.richer (a + b) = (mon.richer a).richer b := by
    unfold MonsterInstance.richer
    rw [add_assoc]
  rw [grantXp_eq, both, levelLoop_richer nonneg]
  exact (congrArg _ (List.append_nil _).symm).trans (levelLoop_append _ _ _)

/-! ## The account -/

/-- What so many levels cost, from this one on. -/
def spent (fl : Floats) (level : ℤ) (gained : ℕ) : ℤ :=
  ((List.range gained).map fun i : ℕ => (getXpForLevel fl (level + i)).getD 0).sum

theorem spent_succ (level : ℤ) (gained : ℕ) :
    spent fl level (gained + 1) = spent fl level gained + (getXpForLevel fl (level + gained)).getD 0 := by
  simp [spent, List.range_succ]

/-- What is left and what was spent make what there was. -/
theorem levelLoop_account (mon : MonsterInstance) (events : List ProgressEvent) :
    ∃ gained : ℕ, (levelLoop fl mon template events).1.level = mon.level + gained ∧
      (levelLoop fl mon template events).1.xp + spent fl mon.level gained = mon.xp := by
  refine levelLoop_induction (P := fun m => ∃ gained : ℕ, m.level = mon.level + gained ∧
    m.xp + spent fl mon.level gained = mon.xp) ?_ ⟨0, by simp, by simp [spent]⟩
  rintro m cost ⟨gained, level, account⟩ price _ _
  refine ⟨gained + 1, ?_, ?_⟩
  · rw [levelUp_level, level]
    push_cast
    omega
  · rw [levelUp_eq, spent_succ, ← level, price]
    show m.xp - cost + (spent fl mon.level gained + cost) = mon.xp
    omega

/-- Every level from zero on has its price. -/
theorem getXpForLevel_isSome {level : ℤ} (nonneg : 0 ≤ level) :
    ∃ cost, getXpForLevel fl level = some cost := by
  unfold getXpForLevel
  rw [if_neg (not_lt.2 nonneg)]
  split_ifs
  · exact ⟨_, rfl⟩
  · exact ⟨_, rfl⟩

/-- Below level zero no price is a number, and the loop stops before its first round. -/
theorem grantXp_of_neg {mon : MonsterInstance} (neg : mon.level < 0) (amount : ℤ) :
    (grantXp fl mon amount template).1 = mon.richer amount := by
  have none : getXpForLevel fl (mon.richer amount).level = none := if_pos neg
  rw [grantXp_eq, levelLoop, none]

/-- **Granting experience is path-independent and lossless.** -/
theorem grantXp_exact (fl : Floats) (template : MonsterTemplate) (mon : MonsterInstance) (a : ℤ) {b : ℤ}
    (nonneg : 0 ≤ b) :
    (let first := grantXp fl mon a template
      let second := grantXp fl first.1 b template
      grantXp fl mon (a + b) template = (second.1, first.2 ++ second.2)) ∧
    ∀ amount, let out := (grantXp fl mon amount template).1
      ∃ gained : ℕ, out.level = mon.level + gained ∧
        out.xp + spent fl mon.level gained = mon.xp + amount ∧
        (maxLevel ≤ out.level ∨ (∃ cost, getXpForLevel fl out.level = some cost ∧ out.xp < cost) ∨
          out.level < 0 ∧ out = mon.richer amount) := by
  refine ⟨grantXp_add mon a nonneg, ?_⟩
  intro amount out
  obtain ⟨gained, level, account⟩ : ∃ gained : ℕ, out.level = mon.level + gained ∧
      out.xp + spent fl mon.level gained = mon.xp + amount := levelLoop_account (mon.richer amount) []
  refine ⟨gained, level, account, ?_⟩
  by_cases capped : maxLevel ≤ out.level
  · exact .inl capped
  · by_cases negative : out.level < 0
    · exact .inr (.inr ⟨negative, grantXp_of_neg (by omega) amount⟩)
    · obtain ⟨cost, price⟩ : ∃ cost, getXpForLevel fl out.level = some cost :=
        getXpForLevel_isSome (not_lt.1 negative)
      exact .inr (.inl ⟨cost, price, levelLoop_done _ _ cost price (not_le.1 capped)⟩)

/-- The water starter of the sample roster. -/
def drizzlefin : MonsterTemplate := sampleMonsters.get ⟨6, by decide⟩

/-- Below level zero the next level has no price that is out of reach. -/
theorem not_settled_unborn :
    ¬ ∀ (mon : MonsterInstance) (amount : ℤ) (tpl : MonsterTemplate), 0 ≤ amount →
      let out := (grantXp exactFloats mon amount tpl).1
      maxLevel ≤ out.level ∨ ∃ cost, getXpForLevel exactFloats out.level = some cost ∧ out.xp < cost := by
  intro all
  have unborn : (grantXp exactFloats (createMonsterInstance exactFloats drizzlefin (-1)) 0
      drizzlefin).1.level = -1 := by
    rw [grantXp_eq, levelLoop]
    rfl
  rcases all (createMonsterInstance exactFloats drizzlefin (-1)) 0 drizzlefin le_rfl with
    capped | ⟨cost, price, -⟩
  · rw [unborn] at capped
    exact absurd capped (by decide)
  · rw [unborn] at price
    cases price

/-- Eight hundred points in two parts. -/
theorem grantXp_exact_drizzlefin :
    let mon := createMonsterInstance exactFloats drizzlefin 5
    let first := grantXp exactFloats mon 300 drizzlefin
    let second := grantXp exactFloats first.1 500 drizzlefin
    grantXp exactFloats mon 800 drizzlefin = (second.1, first.2 ++ second.2) :=
  (grantXp_exact exactFloats drizzlefin (createMonsterInstance exactFloats drizzlefin 5) 300
    (b := 500) (by decide)).1

end Pokeage.Game
