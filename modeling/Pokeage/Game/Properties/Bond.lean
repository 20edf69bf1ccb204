import Pokeage.Game.Factory

/-!
# The bond

A win adds between a tenth and two to the affection, and never more than is left up to the cap. So the
cap is reached once, not before the fiftieth win and not after the thousandth.
-/

namespace Pokeage.Game

/-- A win, with the levels at which it was fought. -/
structure Win where
  own : ℤ
  foe : ℤ

/-- What a win does to the bond, and whether the cap was reached by it. -/
def winAt (fl : Floats) (mon : MonsterInstance) (win : Win) : MonsterInstance × Bool :=
  let mon := { mon with level := win.own }
  addAffection fl mon (affectionGainFor fl mon win.foe)

/-- The monster after the first `k` wins. -/
def afterWins (fl : Floats) (mon : MonsterInstance) (wins : ℕ → Win) : ℕ → MonsterInstance
  | 0 => mon
  | k + 1 => (winAt fl (afterWins fl mon wins k) (wins k)).1

/-- What `addAffection` returns at the win of the given index. -/
def justBonded (fl : Floats) (mon : MonsterInstance) (wins : ℕ → Win) (k : ℕ) : Bool :=
  (winAt fl (afterWins fl mon wins k) (wins k)).2

section

variable {fl : Floats} {mon : MonsterInstance} {wins : ℕ → Win}

theorem affectionGainFor_bounds (exact : fl.Exact) (mon : MonsterInstance) (foeLevel : ℤ) :
    1 / 10 ≤ affectionGainFor fl mon foeLevel ∧ affectionGainFor fl mon foeLevel ≤ 2 := by
  unfold affectionGainFor
  simp only [exact.round]
  refine ⟨le_min (by norm_num) ?_, min_le_left _ _⟩
  exact le_trans (by norm_num) (le_max_left _ _)

/-- One win: the affection grows by a bounded gain, up to the cap. -/
theorem winAt_affection (exact : fl.Exact) (mon : MonsterInstance) (win : Win) :
    ∃ gain, 1 / 10 ≤ gain ∧ gain ≤ 2 ∧
      (winAt fl mon win).1.affection = min affectionMax (mon.affection + gain) := by
  obtain ⟨least, most⟩ := affectionGainFor_bounds exact { mon with level := win.own } win.foe
  refine ⟨_, least, most, ?_⟩
  unfold winAt addAffection
  dsimp only
  rw [exact.round]

/-- The flag says that the cap was reached from below. -/
theorem winAt_flag (mon : MonsterInstance) (win : Win) :
    (winAt fl mon win).2 = true ↔
      mon.affection < affectionMax ∧ affectionMax ≤ (winAt fl mon win).1.affection := by
  unfold winAt addAffection
  simp

/-! ## Any number of wins -/

/-- The affection after `k` wins of somebody who started from nothing. -/
structure BondAfter (k : ℕ) (affection : ℚ) : Prop where
  least : min affectionMax (k / 10) ≤ affection
  most : affection ≤ 2 * k
  cap : affection ≤ affectionMax

theorem afterWins_bond (exact : fl.Exact) (fresh : mon.affection = 0) (k : ℕ) :
    BondAfter k (afterWins fl mon wins k).affection := by
  induction k with
  | zero =>
    rw [afterWins, fresh]
    exact ⟨by simp, by simp, by norm_num [affectionMax]⟩
  | succ k ih =>
    obtain ⟨gain, low, high, after⟩ := winAt_affection exact (afterWins fl mon wins k) (wins k)
    have least := ih.least
    have most := ih.most
    rw [afterWins, after]
    refine ⟨?_, ?_, min_le_left _ _⟩
    · refine le_min (min_le_left _ _) ?_
      rcases min_choice affectionMax ((k : ℚ) / 10) with full | growing
      · rw [full] at least
        exact (min_le_left _ _).trans (by linarith)
      · rw [growing] at least
        refine (min_le_right _ _).trans ?_
        push_cast
        linarith
    · refine (min_le_right _ _).trans ?_
      push_cast
      linarith

theorem afterWins_mono (exact : fl.Exact) (fresh : mon.affection = 0) :
    Monotone fun k => (afterWins fl mon wins k).affection := by
  refine monotone_nat_of_le_succ fun k => ?_
  obtain ⟨gain, low, -, after⟩ := winAt_affection exact (afterWins fl mon wins k) (wins k)
  rw [afterWins, after]
  exact le_min (afterWins_bond exact fresh k).cap (by linarith)

theorem canClaimCard_iff (exact : fl.Exact) (fresh : mon.affection = 0) (k : ℕ) :
    canClaimCard (afterWins fl mon wins k) = true ↔
      (afterWins fl mon wins k).affection = affectionMax := by
  unfold canClaimCard
  rw [decide_eq_true_iff]
  exact ⟨(afterWins_bond exact fresh k).cap.antisymm, ge_of_eq⟩

end

/-- **Bond gate.** The affection rises to its cap and stays there; the card can be claimed from then on,
and one win, neither before the fiftieth nor after the thousandth, is told that it reached the cap. -/
theorem bond_gate {fl : Floats} (exact : fl.Exact) (mon : MonsterInstance)
    (fresh : mon.affection = 0) (wins : ℕ → Win) :
    (∀ j k, j ≤ k →
      (afterWins fl mon wins j).affection ≤ (afterWins fl mon wins k).affection ∧
      (afterWins fl mon wins k).affection ≤ affectionMax) ∧
    (∀ k, k < 50 → canClaimCard (afterWins fl mon wins k) = false) ∧
    (∀ k, 1000 ≤ k → canClaimCard (afterWins fl mon wins k) = true) ∧
    (∀ j k, j ≤ k → canClaimCard (afterWins fl mon wins j) = true →
      canClaimCard (afterWins fl mon wins k) = true) ∧
    ∀ k, justBonded fl mon wins k = true ↔
      (afterWins fl mon wins (k + 1)).affection = affectionMax ∧
      ∀ j ≤ k, (afterWins fl mon wins j).affection ≠ affectionMax := by
  have bond (k : ℕ) : BondAfter k (afterWins fl mon wins k).affection :=
    afterWins_bond exact fresh k
  have mono : Monotone fun k => (afterWins fl mon wins k).affection := afterWins_mono exact fresh
  have claim (k : ℕ) : canClaimCard (afterWins fl mon wins k) = true ↔
      (afterWins fl mon wins k).affection = affectionMax := canClaimCard_iff exact fresh k
  refine ⟨fun j k le => ⟨mono le, (bond k).cap⟩, ?_, ?_, ?_, ?_⟩
  · intro k few
    refine Bool.eq_false_of_not_eq_true fun claimed => ?_
    have most := (bond k).most
    rw [(claim k).1 claimed, affectionMax] at most
    have enough : (50 : ℚ) ≤ k := by linarith
    exact absurd few (not_lt.2 (by exact_mod_cast enough))
  · intro k many
    refine (claim k).2 ((bond k).cap.antisymm ?_)
    have enough : affectionMax ≤ (k : ℚ) / 10 := by
      have many : (1000 : ℚ) ≤ k := by exact_mod_cast many
      rw [affectionMax]
      linarith
    exact (le_min le_rfl enough).trans (bond k).least
  · intro j k le claimed
    refine (claim k).2 ((bond k).cap.antisymm ?_)
    rw [← (claim j).1 claimed]
    exact mono le
  · intro k
    unfold justBonded
    rw [winAt_flag]
    constructor
    · rintro ⟨below, reached⟩
      refine ⟨(bond (k + 1)).cap.antisymm reached, fun j le => ?_⟩
      exact ((mono le).trans_lt below).ne
    · rintro ⟨reached, before⟩
      exact ⟨lt_of_le_of_ne (bond k).cap (before k le_rfl), reached.ge⟩

/-- A monster fresh from the registry. -/
def fledgling : MonsterInstance :=
  createMonsterInstance exactFloats (sampleMonsters.head (List.cons_ne_nil _ _)) 6

/-- It rises with every win over a foe one level above it. -/
theorem bond_gate_fledgling :
    canClaimCard (afterWins exactFloats fledgling (fun k => ⟨k + 6, k + 7⟩) 49) = false ∧
    canClaimCard (afterWins exactFloats fledgling (fun k => ⟨k + 6, k + 7⟩) 1000) = true := by
  obtain ⟨-, few, many, -⟩ := bond_gate exactFloats_exact fledgling rfl fun k => ⟨k + 6, k + 7⟩
  exact ⟨few 49 (by decide), many 1000 le_rfl⟩

end Pokeage.Game
