import Pokeage.Game.Monster

/-!
# Levelling

A round of the levelling loop pays for a level and recomputes what depends on it; what belongs to the
species and the bond stays. `levelLoop_induction` takes what every round keeps through a grant, and
`levelLoop_done` says where the loop stops.
-/

namespace Pokeage.Game

variable {fl : Floats} {template : MonsterTemplate}

/-! ## One round -/

/-- The stage after reaching a level: at most one step on. -/
def nextStage (mon : MonsterInstance) (level : ℤ) : ℤ :=
  if mon.stage = 0 ∧ evolvesAt mon.ev1 level then 1
  else if mon.stage = 1 ∧ evolvesAt mon.ev2 level then 2
  else mon.stage

theorem levelUp_eq (mon : MonsterInstance) (cost : ℤ) :
    (levelUp fl mon template cost).1 = { mon with
      xp := mon.xp - cost
      level := mon.level + 1
      stage := nextStage mon (mon.level + 1)
      stats := statsAtLevel fl template (mon.level + 1)
      currentHP := min (statsAtLevel fl template (mon.level + 1)).hp
        (mon.currentHP + ((statsAtLevel fl template (mon.level + 1)).hp - mon.stats.hp)) } := by
  unfold levelUp nextStage
  dsimp only
  split_ifs <;> rfl

/-! ## The loop -/

/-- **Loop rule:** what every round keeps holds after the loop. -/
theorem levelLoop_induction {P : MonsterInstance → Prop}
    (keep : ∀ m cost, P m → getXpForLevel fl m.level = some cost → cost ≤ m.xp →
      m.level < maxLevel → P (levelUp fl m template cost).1)
    {mon : MonsterInstance} {events : List ProgressEvent} (start : P mon) :
    P (levelLoop fl mon template events).1 := by
  fun_induction levelLoop fl mon template events with
  | case1 mon events none => exact start
  | case2 mon events cost price pays up ih => exact ih (keep mon cost start price pays.1 pays.2)
  | case3 mon events cost price stop => exact start

/-- The loop stops at the cap or where the next level cannot be paid for. -/
theorem levelLoop_done (mon : MonsterInstance) (events : List ProgressEvent) :
    ∀ cost, getXpForLevel fl (levelLoop fl mon template events).1.level = some cost →
      (levelLoop fl mon template events).1.level < maxLevel →
      (levelLoop fl mon template events).1.xp < cost := by
  fun_induction levelLoop fl mon template events with
  | case1 mon events none =>
    intro cost price
    rw [none] at price
    cases price
  | case2 mon events cost price pays up ih => exact ih
  | case3 mon events cost price stop =>
    intro cost' price' below
    obtain rfl : cost = cost' := Option.some.inj (price.symm.trans price')
    exact not_le.1 fun pays => stop ⟨pays, below⟩

/-- What no round touches is as it was before the grant. -/
theorem grantXp_same {α : Type} {f : MonsterInstance → α}
    (round : ∀ (m : MonsterInstance) (xp level stage currentHP : ℤ) (stats : Stats),
      f { m with xp, level, stage, stats, currentHP } = f m)
    (mon : MonsterInstance) (amount : ℤ) : f (grantXp fl mon amount template).1 = f mon := by
  unfold grantXp
  refine levelLoop_induction (P := fun m => f m = f mon) ?_
    (round mon _ mon.level mon.stage mon.currentHP mon.stats)
  intro m cost same _ _ _
  rw [levelUp_eq, round]
  exact same

end Pokeage.Game
