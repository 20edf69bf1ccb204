import Pokeage.Game.Doubles
import Pokeage.Game.Status

/-!
# Turns under a status

A holder goes through any sequence of statuses, one a turn, in doubles. What it is left with depends on
how many of the turns were burns and how many poisonings, in whatever order (`afflict_spec`); the draws
decide only who loses a turn and when ice and sleep end. The holder has a maximum of hit points: without
one the source falls back on what the holder has.
-/

namespace Pokeage.Game

open Infra.Rounding

variable {pow : ℚ → ℚ → ℚ}

/-- One turn of each status, from the first to the last. -/
def afflict (fl : Floats) : List (Option StatusKind) → MonsterInstance → Rng →
    List StatusTick × MonsterInstance × Rng
  | [], mon, r => ([], mon, r)
  | status :: rest, mon, r =>
    let tick := applyStatusTick fl mon status r
    let later := afflict fl rest tick.2.1 tick.2.2
    (tick.1 :: later.1, later.2)

/-- What a turn of the status takes from a holder with so many hit points at most. -/
def dotDamage (maxHP : ℤ) : Option StatusKind → ℤ
  | some .burn => max 1 (maxHP / 16)
  | some .poison => max 1 (maxHP / 8)
  | _ => 0

/-- What a turn of the status may tell: ice and sleep cost the turn unless they end with it, paralysis
may cost it, and nothing else ends or costs a turn. -/
def Tells (maxHP : ℤ) (status : Option StatusKind) (tick : StatusTick) : Prop :=
  tick.damage = dotDamage maxHP status ∧
    match status with
    | some .freeze | some .sleep => tick.immobilized = !tick.cleared
    | some .paralyze => tick.cleared = false
    | _ => tick.immobilized = false ∧ tick.cleared = false

/-- A part of a whole number of hit points, rounded down. -/
theorem floor_part {maxHP : ℤ} (nonneg : 0 ≤ maxHP) (bits : maxHP < 2 ^ 53) {dot : ℚ} {n : ℕ}
    (pos : 0 < n) (part : dot = 1 / (n : ℚ)) : ⌊doubleFloats pow (maxHP * dot)⌋ = maxHP / n := by
  obtain ⟨hp, rfl⟩ := Int.eq_ofNat_of_zero_le nonneg
  show ⌊roundTo 53 ((hp : ℤ) * dot)⌋ = (hp : ℤ) / (n : ℤ)
  rw [part, mul_one_div, Int.cast_natCast, floor_roundTo_div (by decide) pos (by omega)]
  exact Int.natCast_div hp n

theorem one_rounded : doubleFloats pow 1 = 1 := by
  have whole := roundTo_natCast (p := 53) 1 (by decide)
  rw [Nat.cast_one] at whole
  exact whole

/-- Ice and sleep: the turn is lost unless the status ends, and nothing is taken. -/
theorem applyStatusTick_holds {status : StatusKind} (skip : statusSkipChance status = some 1)
    (dot : statusDot status = none) (mon : MonsterInstance) (r : Rng) :
    ∃ cleared, (applyStatusTick (doubleFloats pow) mon (some status) r).1 = ⟨0, !cleared, cleared⟩ ∧
      (applyStatusTick (doubleFloats pow) mon (some status) r).2.1 = mon := by
  have certain (q : Rng) : rollEntry (doubleFloats pow) (some 1) q = (true, q) := by
    simp only [rollEntry, Rng.chance, one_rounded]
    norm_num
  unfold applyStatusTick
  simp only [skip, dot, certain]
  cases rollEntry (doubleFloats pow) (statusClearChance status) r with
  | mk cleared q => cases cleared with
    | true => exact ⟨true, rfl, rfl⟩
    | false => exact ⟨false, rfl, rfl⟩

/-- **One turn.** It tells what its status may and takes what its status takes. -/
theorem applyStatusTick_spec {mon : MonsterInstance} (hp : 0 < mon.stats.hp)
    (bits : mon.stats.hp < 2 ^ 53) (standing : 0 ≤ mon.currentHP) (status : Option StatusKind) (r : Rng) :
    Tells mon.stats.hp status (applyStatusTick (doubleFloats pow) mon status r).1 ∧
      (applyStatusTick (doubleFloats pow) mon status r).2.1 =
        { mon with currentHP := max 0 (mon.currentHP - dotDamage mon.stats.hp status) } := by
  have unhurt : ({ mon with currentHP := max 0 (mon.currentHP - 0) } : MonsterInstance) = mon := by
    rw [sub_zero, max_eq_right standing]
  have full : mon.maxHP = mon.stats.hp := by
    unfold MonsterInstance.maxHP orElse
    rw [if_neg hp.ne']
  have holds : ∀ status, statusSkipChance status = some 1 → statusDot status = none →
      (applyStatusTick (doubleFloats pow) mon (some status) r).1.damage = 0 ∧
        (applyStatusTick (doubleFloats pow) mon (some status) r).1.immobilized =
          !(applyStatusTick (doubleFloats pow) mon (some status) r).1.cleared ∧
        (applyStatusTick (doubleFloats pow) mon (some status) r).2.1 = mon := by
    intro status skip dot
    obtain ⟨cleared, tick, same⟩ := @applyStatusTick_holds pow status skip dot mon r
    rw [tick]
    exact ⟨rfl, rfl, same⟩
  cases status with
  | none => exact ⟨⟨rfl, rfl, rfl⟩, unhurt.symm⟩
  | some status =>
    cases status with
    | burn =>
      have sixteenth := @floor_part pow _ hp.le bits (1 / 16) 16 (by decide) (by norm_num)
      unfold applyStatusTick
      simp only [statusClearChance, statusSkipChance, statusDot, rollEntry, full, sixteenth]
      exact ⟨⟨rfl, rfl, rfl⟩, rfl⟩
    | poison =>
      have eighth := @floor_part pow _ hp.le bits (1 / 8) 8 (by decide) (by norm_num)
      unfold applyStatusTick
      simp only [statusClearChance, statusSkipChance, statusDot, rollEntry, full, eighth]
      exact ⟨⟨rfl, rfl, rfl⟩, rfl⟩
    | paralyze => exact ⟨⟨rfl, rfl⟩, unhurt.symm⟩
    | freeze =>
      obtain ⟨damage, turn, same⟩ := holds .freeze rfl rfl
      exact ⟨⟨damage, turn⟩, same.trans unhurt.symm⟩
    | sleep =>
      obtain ⟨damage, turn, same⟩ := holds .sleep rfl rfl
      exact ⟨⟨damage, turn⟩, same.trans unhurt.symm⟩

/-- What a sequence of turns takes together. -/
def totalDamage (maxHP : ℤ) (turns : List (Option StatusKind)) : ℤ :=
  (turns.map (dotDamage maxHP)).sum

theorem totalDamage_eq (maxHP : ℤ) (turns : List (Option StatusKind)) :
    totalDamage maxHP turns = turns.count (some .burn) * max 1 (maxHP / 16) +
      turns.count (some .poison) * max 1 (maxHP / 8) := by
  unfold totalDamage
  induction turns with
  | nil => simp
  | cons status turns ih =>
    rw [List.map_cons, List.sum_cons, ih, List.count_cons, List.count_cons]
    rcases status with _ | (_ | _ | _ | _ | _) <;> simp [dotDamage] <;> ring

theorem afflict_total {mon : MonsterInstance} (hp : 0 < mon.stats.hp) (bits : mon.stats.hp < 2 ^ 53)
    (standing : 0 ≤ mon.currentHP) (turns : List (Option StatusKind)) (r : Rng) :
    List.Forall₂ (Tells mon.stats.hp) turns (afflict (doubleFloats pow) turns mon r).1 ∧
      (afflict (doubleFloats pow) turns mon r).2.1 =
        { mon with currentHP := max 0 (mon.currentHP - totalDamage mon.stats.hp turns) } := by
  induction turns generalizing mon r with
  | nil =>
    refine ⟨.nil, ?_⟩
    show mon = { mon with currentHP := max 0 (mon.currentHP - 0) }
    rw [sub_zero, max_eq_right standing]
  | cons status turns ih =>
    obtain ⟨tells, left⟩ := @applyStatusTick_spec pow mon hp bits standing status r
    unfold afflict
    dsimp only
    rw [left]
    obtain ⟨rest, final⟩ := @ih
      { mon with currentHP := max 0 (mon.currentHP - dotDamage mon.stats.hp status) } hp bits
      (le_max_left 0 _) (applyStatusTick (doubleFloats pow) mon status r).2.2
    refine ⟨.cons tells rest, ?_⟩
    rw [final]
    have sum : totalDamage mon.stats.hp (status :: turns) =
        dotDamage mon.stats.hp status + totalDamage mon.stats.hp turns := List.sum_cons
    have later : 0 ≤ totalDamage mon.stats.hp turns := by
      rw [totalDamage_eq]
      positivity
    have left : max 0 (max 0 (mon.currentHP - dotDamage mon.stats.hp status) -
        totalDamage mon.stats.hp turns) =
        max 0 (mon.currentHP - totalDamage mon.stats.hp (status :: turns)) := by
      omega
    simp only [left]

/-- **Any sequence of turns, in doubles.** Each tells what its status may, and a holder with a maximum of
hit points that a double holds is left with what it had less a sixteenth of its maximum for each burn and
an eighth for each poisoning, at least a point each and never below zero. Nothing else of it changes. -/
theorem afflict_spec {mon : MonsterInstance} (hp : 0 < mon.stats.hp) (bits : mon.stats.hp < 2 ^ 53)
    (standing : 0 ≤ mon.currentHP) (turns : List (Option StatusKind)) (r : Rng) :
    List.Forall₂ (Tells mon.stats.hp) turns (afflict (doubleFloats pow) turns mon r).1 ∧
      (afflict (doubleFloats pow) turns mon r).2.1 = { mon with
        currentHP := max 0 (mon.currentHP -
          (turns.count (some .burn) * max 1 (mon.stats.hp / 16) +
            turns.count (some .poison) * max 1 (mon.stats.hp / 8))) } := by
  rw [← totalDamage_eq]
  exact afflict_total hp bits standing turns r

/-- The first of the sample species at level fifty, burnt, frozen, let be and poisoned. -/
theorem afflict_spec_first :
    (afflict (doubleFloats fun _ _ => 1) [some .burn, some .freeze, none, some .poison]
      (createMonsterInstance (doubleFloats fun _ _ => 1) (sampleMonsters.head (List.cons_ne_nil _ _)) 50)
        (Rng.new 1)).2.1.currentHP = 65 := by
  have hp : (createMonsterInstance (doubleFloats fun _ _ => 1)
      (sampleMonsters.head (List.cons_ne_nil _ _)) 50).stats.hp = 80 := by decide +kernel
  have full : (createMonsterInstance (doubleFloats fun _ _ => 1)
      (sampleMonsters.head (List.cons_ne_nil _ _)) 50).currentHP = 80 := hp
  rw [(afflict_spec (by rw [hp]; decide) (by rw [hp]; decide) (by rw [full]; decide) _ (Rng.new 1)).2,
    hp, full]
  rfl

end Pokeage.Game
