import Pokeage.Game.Factory
import Pokeage.Game.Properties.GymChain
import Pokeage.Game.Properties.Growth

/-!
# Automatic fights

Two comparisons of fights on the same draws.

* A stronger lead does no worse: as long as both fights go on they make the same draws, and round by
  round the stronger one is not behind (`NotBehind`).
* A gym of one against one is the automatic fight without its limit of turns.
-/

namespace Pokeage.Game

variable {fl : Floats}

/-! ## Hits -/

theorem getTypeMultiplier_nonneg (atkType defType : MonsterType) :
    0 ≤ getTypeMultiplier atkType defType := by
  unfold getTypeMultiplier
  dsimp only
  split_ifs <;> norm_num

theorem Rng.float_nonneg (ordered : fl.Ordered) (r : Rng) {lo hi : ℚ} (nonneg : 0 ≤ lo)
    (le : lo ≤ hi) : 0 ≤ (r.float fl lo hi).1 := by
  have width : 0 ≤ fl (hi - lo) := ordered.nonneg (sub_nonneg.2 le)
  have part : 0 ≤ fl (r.next.1 * fl (hi - lo)) := ordered.nonneg (mul_nonneg r.next_nonneg width)
  exact ordered.nonneg (add_nonneg nonneg part)

/-- **A hit grows** with the attack and the level of the attacker, and as the defence sinks. -/
theorem calcDamageSimple_mono (ordered : fl.Ordered) {a a' d d' : MonsterInstance}
    (aType : a'.type = a.type) (dType : d'.type = d.type) (atk : a.stats.atk ≤ a'.stats.atk)
    (defense : d'.stats.defense ≤ d.stats.defense) (positive : 1 ≤ a.level)
    (level : a.level ≤ a'.level) (r : Rng) :
    (calcDamageSimple fl a d r).1 ≤ (calcDamageSimple fl a' d' r).1 := by
  have half : 0 ≤ fl 0.5 := ordered.nonneg (by norm_num)
  have guard : ⌊fl (d'.stats.defense * fl 0.5)⌋ ≤ ⌊fl (d.stats.defense * fl 0.5)⌋ :=
    Int.floor_le_floor (ordered.mono (mul_le_mul_of_nonneg_right (Int.cast_le.2 defense) half))
  have base : max 1 (a.stats.atk - ⌊fl (d.stats.defense * fl 0.5)⌋) ≤
      max 1 (a'.stats.atk - ⌊fl (d'.stats.defense * fl 0.5)⌋) :=
    max_le_max_left 1 (by omega)
  have baseNonneg : (0 : ℚ) ≤ (max 1 (a.stats.atk - ⌊fl (d.stats.defense * fl 0.5)⌋) : ℤ) :=
    Int.cast_nonneg (le_trans zero_le_one (le_max_left _ _))
  have bonus := getTypeMultiplier_nonneg a.type d.type
  have luck : 0 ≤ (r.float fl (fl 0.85) (fl 1.15)).1 :=
    r.float_nonneg ordered (ordered.nonneg (by norm_num)) (ordered.mono (by norm_num))
  have rate : 0 ≤ fl 0.02 := ordered.nonneg (by norm_num)
  have above : (0 : ℚ) ≤ (a.level - 1 : ℤ) := Int.cast_nonneg (by omega)
  have levelNonneg : 0 ≤ fl (1 + fl ((a.level - 1 : ℤ) * fl 0.02)) :=
    ordered.nonneg (add_nonneg zero_le_one (ordered.nonneg (mul_nonneg above rate)))
  have levelMod : fl (1 + fl ((a.level - 1 : ℤ) * fl 0.02)) ≤
      fl (1 + fl ((a'.level - 1 : ℤ) * fl 0.02)) := by
    have step : ((a.level - 1 : ℤ) : ℚ) ≤ (a'.level - 1 : ℤ) := Int.cast_le.2 (by omega)
    exact ordered.mono (add_le_add_right (ordered.mono (mul_le_mul_of_nonneg_right step rate)) 1)
  have typed := ordered.mono (mul_le_mul_of_nonneg_right (Int.cast_le (R := ℚ).2 base) bonus)
  have lucky := ordered.mono (mul_le_mul_of_nonneg_right typed luck)
  have luckyNonneg := ordered.nonneg
    (mul_nonneg (ordered.nonneg (mul_nonneg baseNonneg bonus)) luck)
  have whole := ordered.mono (mul_le_mul lucky levelMod levelNonneg (luckyNonneg.trans lucky))
  unfold calcDamageSimple
  dsimp only
  rw [aType, dType]
  exact max_le_max_left 1 (Int.floor_le_floor whole)

/-- Every hit makes one draw. -/
theorem calcDamageSimple_rng (attacker defender : MonsterInstance) (r : Rng) :
    (calcDamageSimple fl attacker defender r).2 = r.next.2 := rfl

/-! ## A stronger lead -/

/-- The second is no weaker than the first, and strikes as early and as its type does. -/
structure NoWeaker (lead lead' : MonsterInstance) : Prop where
  type : lead'.type = lead.type
  spd : lead'.stats.spd = lead.stats.spd
  level : lead.level ≤ lead'.level
  atk : lead.stats.atk ≤ lead'.stats.atk
  defense : lead.stats.defense ≤ lead'.stats.defense
  currentHP : lead.currentHP ≤ lead'.currentHP

/-- The second fight stands no worse than the first, and they have drawn alike while both go on. -/
structure NotBehind (s s' : Standing) : Prop where
  myHP : s.myHP ≤ s'.myHP
  foeHP : s'.foeHP ≤ s.foeHP
  rng : s.Open → s'.Open → s'.rng = s.rng

section

variable {lead lead' wild : MonsterInstance} {s s' : Standing}

/-- **The step lemma:** a round of both fights. -/
theorem exchange_notBehind (ordered : fl.Ordered) (stronger : NoWeaker lead lead')
    (leadLevel : 1 ≤ lead.level) (wildLevel : 1 ≤ wild.level) (h : NotBehind s s') (goes : s.Open)
    (goes' : s'.Open) : NotBehind (exchange fl lead wild s) (exchange fl lead' wild s') := by
  obtain ⟨myHP, foeHP, drawn⟩ := h
  have same := drawn goes goes'
  have mine (r : Rng) := calcDamageSimple_mono ordered stronger.type (Eq.refl wild.type) stronger.atk
    (le_refl wild.stats.defense) leadLevel stronger.level r
  have theirs (r : Rng) := calcDamageSimple_mono ordered (Eq.refl wild.type) stronger.type.symm
    (le_refl wild.stats.atk) stronger.defense wildLevel (le_refl wild.level) r
  unfold exchange
  rw [stronger.spd, same]
  simp only [calcDamageSimple_rng]
  have mineNow := mine s.rng
  have theirsNow := theirs s.rng
  have mineBack := mine s.rng.next.2
  have theirsBack := theirs s.rng.next.2
  have back := one_le_calcDamageSimple fl wild lead s.rng.next.2
  have back' := one_le_calcDamageSimple fl lead' wild s.rng.next.2
  -- who strikes first is the same in both; then either one may have ended the fight
  by_cases fast : wild.stats.spd ≤ lead.stats.spd
  · rw [if_pos fast, if_pos fast]
    split_ifs with down down' down'
    · exact ⟨myHP, by dsimp only; omega, fun _ _ => rfl⟩
    · omega
    · exact ⟨by dsimp only; omega, by dsimp only; omega, fun _ up => absurd up.2 (not_lt.2 down')⟩
    · exact ⟨by dsimp only; omega, by dsimp only; omega, fun _ _ => rfl⟩
  · rw [if_neg fast, if_neg fast]
    split_ifs with down down' down'
    · exact ⟨by dsimp only; omega, foeHP, fun _ _ => rfl⟩
    · exact ⟨by dsimp only; omega, by dsimp only; omega, fun up _ => absurd up.1 (not_lt.2 down)⟩
    · omega
    · exact ⟨by dsimp only; omega, by dsimp only; omega, fun _ _ => rfl⟩

theorem autoLoop_of_going {turns : ℕ} (goes : s.Open ∧ turns < autoTurnCap) :
    autoLoop fl lead wild turns s = autoLoop fl lead wild (turns + 1) (exchange fl lead wild s) := by
  rw [autoLoop, if_pos goes]

theorem autoLoop_of_stop {turns : ℕ} (stop : ¬ (s.Open ∧ turns < autoTurnCap)) :
    autoLoop fl lead wild turns s = (turns, s) := by
  rw [autoLoop, if_neg stop]

/-- The second fight ends no worse, wherever the first one ends. -/
theorem autoLoop_notBehind (ordered : fl.Ordered) (stronger : NoWeaker lead lead')
    (leadLevel : 1 ≤ lead.level) (wildLevel : 1 ≤ wild.level) (turns : ℕ) (h : NotBehind s s') :
    ((autoLoop fl lead wild turns s).2.foeHP ≤ 0 → (autoLoop fl lead' wild turns s').2.foeHP ≤ 0) ∧
      max 0 (autoLoop fl lead wild turns s).2.myHP ≤
        max 0 (autoLoop fl lead' wild turns s').2.myHP := by
  have myHP := h.myHP
  have foeHP := h.foeHP
  fun_induction autoLoop fl lead wild turns s generalizing s' with
  | case1 turns s goes ih =>
    by_cases goes' : s'.Open
    · have next := exchange_notBehind ordered stronger leadLevel wildLevel h goes.1 goes'
      rw [autoLoop_of_going (s := s') ⟨goes', goes.2⟩]
      exact ih next next.myHP next.foeHP
    · -- the stronger lead has won already
      have up := goes.1.1
      have won : s'.foeHP ≤ 0 := not_lt.1 fun open_ => goes' ⟨by omega, open_⟩
      have worn := autoLoop_myHP_le fl lead wild (turns + 1) (exchange fl lead wild s)
      have round := exchange_myHP_le fl lead wild s
      rw [autoLoop_of_stop (s := s') fun open_ => goes' open_.1]
      exact ⟨fun _ => won, max_le_max_left 0 (worn.trans (round.trans myHP))⟩
  | case2 turns s stop =>
    by_cases goes' : s'.Open ∧ turns < autoTurnCap
    · -- the weaker one has fallen, or both would go on
      have fallen : s.myHP ≤ 0 ∧ 0 < s.foeHP := by
        have up := goes'.1.2
        refine ⟨not_lt.1 fun open_ => stop ⟨⟨open_, by omega⟩, goes'.2⟩, by omega⟩
      exact ⟨fun won => absurd won (not_le.2 fallen.2), max_le (le_max_left _ _)
        (le_max_of_le_left fallen.1)⟩
    · rw [autoLoop_of_stop goes']
      exact ⟨fun won => foeHP.trans won, max_le_max_left 0 myHP⟩

end

/-- **A stronger lead never does worse.** -/
theorem simulateAuto_mono (ordered : fl.Ordered) {lead lead' wild : MonsterInstance}
    (stronger : NoWeaker lead lead') (leadLevel : 1 ≤ lead.level) (wildLevel : 1 ≤ wild.level)
    (r : Rng) :
    ((simulateAuto fl lead wild r).1.won = true → (simulateAuto fl lead' wild r).1.won = true) ∧
      (simulateAuto fl lead wild r).1.hpRemaining ≤ (simulateAuto fl lead' wild r).1.hpRemaining := by
  have start : NotBehind ⟨lead.currentHP, wild.currentHP, r⟩ ⟨lead'.currentHP, wild.currentHP, r⟩ :=
    ⟨stronger.currentHP, le_rfl, fun _ _ => rfl⟩
  obtain ⟨won, left⟩ := autoLoop_notBehind ordered stronger leadLevel wildLevel 0 start
  unfold simulateAuto
  dsimp only
  exact ⟨fun wins => decide_eq_true (won (of_decide_eq_true wins)), left⟩

/-- A species whose stats no level changes. -/
def verdrake : MonsterTemplate := sampleMonsters.get ⟨2, by decide⟩

/-- Ten levels more, against a wild one in between. -/
theorem simulateAuto_mono_verdrake :
    (simulateAuto exactFloats (createMonsterInstance exactFloats verdrake 10)
        (createMonsterInstance exactFloats verdrake 12) (Rng.new 3)).1.hpRemaining ≤
      (simulateAuto exactFloats (createMonsterInstance exactFloats verdrake 20)
        (createMonsterInstance exactFloats verdrake 12) (Rng.new 3)).1.hpRemaining := by
  have stronger : NoWeaker (createMonsterInstance exactFloats verdrake 10)
      (createMonsterInstance exactFloats verdrake 20) := by
    constructor <;> decide +kernel
  exact (simulateAuto_mono exactFloats_exact.ordered stronger (by decide) (by decide) _).2

/-! ## A gym of one against one -/

/-- A fight that the limit of turns has not cut short is a fight to the end. -/
theorem autoLoop_eq_bout {my foe : MonsterInstance} {turns : ℕ} {s : Standing}
    (ko : ¬ (autoLoop fl my foe turns s).2.Open) :
    (autoLoop fl my foe turns s).2 = bout fl my foe s := by
  fun_induction autoLoop fl my foe turns s with
  | case1 turns s goes ih =>
    rw [bout, if_pos goes.1]
    exact ih ko
  | case2 turns s stop => rw [bout, if_neg ko]

/-- **A gym bout is the automatic fight,** if that one ends with a knock-out. -/
theorem simulateGym_eq_simulateAuto (m : MonsterInstance) {entry : GymEntry} {tpl : MonsterTemplate}
    {getTemplate : TemplateResolver} (known : getTemplate entry.monsterId = some tpl) (r : Rng)
    (ko : (simulateAuto fl m (makeCombatant fl tpl entry.level) r).1.won = true ∨
      (simulateAuto fl m (makeCombatant fl tpl entry.level) r).1.hpRemaining = 0) :
    let auto := (simulateAuto fl m (makeCombatant fl tpl entry.level) r).1
    let gym := simulateGym fl [m] [entry] getTemplate r
    gym.1.won = auto.won ∧ gym.2.1 = [{ m with currentHP := auto.hpRemaining }] := by
  intro auto gym
  set foe := makeCombatant fl tpl entry.level
  have closed : ¬ (autoLoop fl m foe 0 ⟨m.currentHP, foe.currentHP, r⟩).2.Open := by
    rintro ⟨up, foeUp⟩
    rcases ko with won | down
    · exact absurd (of_decide_eq_true won) (not_le.2 foeUp)
    · exact absurd (max_eq_left_iff.1 down) (not_le.2 up)
  have same := autoLoop_eq_bout closed
  -- the first round ends the gym, since one side has nobody left
  have ended : gymLoop fl [m] [entry] getTemplate ⟨0, 0, [m.currentHP], [], r⟩ =
      gymRound fl m tpl entry ⟨0, 0, [m.currentHP], [], r⟩ := by
    have progress := gymRound_progress fl m tpl entry ⟨0, 0, [m.currentHP], [], r⟩
    have first : gymStep fl [m] [entry] getTemplate ⟨0, 0, [m.currentHP], [], r⟩ =
        gymRound fl m tpl entry ⟨0, 0, [m.currentHP], [], r⟩ := by simp [gymStep, known]
    rw [gymLoop_unfold, if_pos ⟨Nat.zero_lt_one, Nat.zero_lt_one⟩, first, gymLoop_unfold, if_neg]
    rintro ⟨party, gym⟩
    simp only [List.length_singleton] at party gym
    dsimp only at progress
    omega
  have fought : bout fl m foe ⟨[m.currentHP].getD 0 0, foe.stats.hp, r⟩ =
      (autoLoop fl m foe 0 ⟨m.currentHP, foe.currentHP, r⟩).2 := same.symm
  show (simulateGym fl [m] [entry] getTemplate r).1.won = auto.won ∧
    (simulateGym fl [m] [entry] getTemplate r).2.1 = [{ m with currentHP := auto.hpRemaining }]
  unfold simulateGym
  rw [List.map_singleton, ended]
  unfold gymRound
  rw [show (makeCombatant fl tpl entry.level) = foe from rfl]
  dsimp only
  rw [fought]
  refine ⟨?_, by simp [auto, simulateAuto, foe]⟩
  show decide (1 ≤ if (autoLoop fl m foe 0 ⟨m.currentHP, foe.currentHP, r⟩).2.foeHP ≤ 0 then 1 else 0) =
    decide ((autoLoop fl m foe 0 ⟨m.currentHP, foe.currentHP, r⟩).2.foeHP ≤ 0)
  generalize (autoLoop fl m foe 0 ⟨m.currentHP, foe.currentHP, r⟩).2.foeHP = foeHP
  by_cases beaten : foeHP ≤ 0 <;> simp [beaten]

/-- A bout against a weak one of the same species, which falls. -/
theorem simulateGym_eq_simulateAuto_verdrake :
    (simulateGym exactFloats [createMonsterInstance exactFloats verdrake 20] [⟨3, 5⟩]
        sampleRegistry.getMonsterById (Rng.new 3)).1.won =
      (simulateAuto exactFloats (createMonsterInstance exactFloats verdrake 20)
        (makeCombatant exactFloats verdrake 5) (Rng.new 3)).1.won := by
  have known : sampleRegistry.getMonsterById (⟨3, 5⟩ : GymEntry).monsterId = some verdrake := rfl
  exact (simulateGym_eq_simulateAuto _ known (Rng.new 3) (by decide +kernel)).1

end Pokeage.Game
