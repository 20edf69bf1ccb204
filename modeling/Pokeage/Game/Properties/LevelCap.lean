import Pokeage.Game.Properties.WellFormed

/-!
# The level cap

Levelling stops at the cap, but a wild monster up to two levels above the lead is caught as it is. So a
run stays within the cap as long as no route that is hunted on spawns in the gap between the cap and
the lead's reach.
-/

namespace Pokeage.Game

variable {fl : Floats}

/-- The levels a route spawns at: its band, and up to seven above for its rares. -/
def Route.Spawns (route : Route) (level : ℤ) : Prop :=
  (min route.levelRange.1 route.levelRange.2 ≤ level ∧
    level ≤ max route.levelRange.1 route.levelRange.2) ∨
  (route.rarePool ≠ [] ∧ route.levelRange.2 + 3 ≤ level ∧ level ≤ route.levelRange.2 + 7)

theorem spawns_of_spawnLevel (parts : fl.Parts) {route : Route} {level : ℤ}
    (h : Engine.SpawnLevel fl route level) : route.Spawns level := by
  cases h with
  | band r => exact .inl (r.int_mem parts _ _)
  | rare pool r =>
    obtain ⟨low, high⟩ := r.int_mem parts 0 4
    refine .inr ⟨pool, ?_, ?_⟩ <;> omega

/-- From one to the cap. -/
def Capped (m : MonsterInstance) : Prop := 1 ≤ m.level ∧ m.level ≤ maxLevel

/-- Levelling stays within the cap. -/
theorem Capped.grantXp {m : MonsterInstance} (h : Capped m) (amount : ℤ)
    (template : MonsterTemplate) : Capped (grantXp fl m amount template).1 := by
  refine levelLoop_induction (P := Capped) ?_ h
  intro m cost capped _ _ below
  unfold Capped at capped ⊢
  rw [levelUp_level]
  omega

namespace Engine

variable (env : Env)

/-- Nothing above the cap is within reach: if the trainer hunts, with a ball and leave to catch, then
whatever its route spawns above the cap is too strong for its lead. -/
def CapSafe (t : Trainer) : Prop :=
  ∀ route lead, HuntsOn env t route → t.team.find? (·.alive) = some lead →
    t.strat.catchEnabled ≠ some false → 0 < t.items.ball →
    ∀ level, route.Spawns level → level ≤ lead.level + fleeLevelGap → level ≤ maxLevel

/-- Routes that spawn within the cap are safe for everybody. -/
theorem capSafe_of_routes
    (low : ∀ route ∈ env.world.routes, route.levelRange.1 ≤ maxLevel ∧ route.levelRange.2 ≤ maxLevel ∧
      (route.rarePool ≠ [] → route.levelRange.2 + 7 ≤ maxLevel)) (t : Trainer) : CapSafe env t := by
  intro route lead hunts _ _ _ level spawns _
  obtain ⟨first, last, rares⟩ := low route hunts.mem
  rcases spawns with ⟨-, high⟩ | ⟨pool, -, high⟩
  · omega
  · exact high.trans (rares pool)

variable {env}

theorem Capped.alters {m m' : MonsterInstance} (h : Capped m) (change : Alters env m m') :
    Capped m' := by
  have gained (amount : ℤ) : Capped (gainXp env m amount) := by
    unfold gainXp
    split
    · next tpl _ => exact h.grantXp amount tpl
    · exact h
  cases change with
  | healed => exact h
  | hit => exact h
  | bonded => exact h
  | rewarded => exact gained _
  | trained => exact gained _

theorem Spawned.capped (parts : env.fl.Parts) (levels : env.world.PositiveLevels) {t : Trainer}
    (safe : CapSafe env t) {wild lead : MonsterInstance} {route : Route}
    (h : Spawned env t wild lead route) (enabled : t.strat.catchEnabled ≠ some false)
    (balls : 0 < t.items.ball) : Capped wild := by
  obtain ⟨r, rolled⟩ := h.rolled
  obtain ⟨id, tpl, level, rarity, -, spawn, rfl⟩ := generateWildMonster_spawn rolled
  obtain ⟨first, last⟩ := levels route h.hunts.mem
  exact ⟨spawn.positive (fun r a b => (r.int_mem parts a b).1) first last,
    safe route lead h.hunts h.first enabled balls level (spawns_of_spawnLevel parts spawn) h.level⟩

/-- **Level cap.** In a run of a new trainer every tick of which starts safe, all levels are from one to
the cap. -/
theorem roster_capped (parts : env.fl.Parts) (levels : env.world.PositiveLevels) (e : Engine)
    {id name : String} {registry : Registry} {opts : NewTrainerOptions}
    (new : e.trainer = newTrainer env.fl id name registry opts)
    (first : 1 ≤ opts.starterLevel.getD 5) (last : opts.starterLevel.getD 5 ≤ maxLevel) {n : ℕ}
    (safe : ∀ k < n, CapSafe env (ticks env k e).trainer) :
    ∀ m ∈ (ticks env n e).trainer.roster, 1 ≤ m.level ∧ m.level ≤ maxLevel := by
  have start : ∀ m ∈ e.trainer.roster, Capped m := by
    intro m hm
    rw [new] at hm
    obtain ⟨tpl, -, rfl⟩ := mem_newTrainer_roster hm
    exact ⟨first, last⟩
  have keep : ∀ t t', (∀ m ∈ t.roster, Capped m) → CapSafe env t → Outcome env t t' →
      ∀ m ∈ t'.roster, Capped m := by
    intro t t' all safe step
    refine step.rosterStep.all (fun _ _ => Capped.alters) ?_ all
    intro wild lead route spawned
    exact spawned.capped parts levels safe
  exact ticks_induction_while keep start safe

/-! ### The last route of the sample world -/

/-- The sample world without its last route, the only one that spawns above the cap. -/
def mildEnv : Env := { sampleEnv with world := ⟨towns, routes.dropLast⟩ }

theorem roster_capped_mildEnv :
    {m | m ∈ (ticks mildEnv 5000 (freshEngine 123)).trainer.roster} ⊆ {m | Capped m} :=
  have new : (freshEngine 123).trainer = newTrainer mildEnv.fl "p1" "TESTER" sampleRegistry
    ⟨some 4, some 6, some 20, none⟩ := rfl
  roster_capped exactFloats_exact.parts (by decide) (freshEngine 123) new (by decide) (by decide)
    fun _ _ => capSafe_of_routes mildEnv (by decide) _

/-- The sample world, with a shop item that always draws a rare. -/
def luckyEnv : Env := { sampleEnv with opts := ⟨some ⟨none, some 125⟩, none⟩ }

/-- A trainer whose monster is at the cap, in the last town. -/
def veteran : Trainer :=
  newTrainer exactFloats "p1" "TESTER" sampleRegistry ⟨some 42, some 55, some 20, some "dracospire"⟩

/-- Its first catch is two levels above the cap. -/
theorem not_capped_veteran :
    luckyEnv.world.PositiveLevels ∧ (∀ m ∈ veteran.roster, 1 ≤ m.level ∧ m.level ≤ maxLevel) ∧
    ¬ ∀ m ∈ (ticks luckyEnv 1 (Engine.new veteran (Rng.new 1140))).trainer.roster,
      1 ≤ m.level ∧ m.level ≤ maxLevel := by
  decide +kernel

end Engine

end Pokeage.Game
