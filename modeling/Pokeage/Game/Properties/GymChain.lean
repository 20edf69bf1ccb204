import Pokeage.Game.Factory
import Pokeage.Infra.Loop

/-!
# The gym chain

`simulateGym` as a while loop: its body is `gymStep`, and a round of it either passes an entry over or
fights a bout. `Consistent` is the invariant that ties the two indices, the hit points and the list of
knock-outs to each other; `bouts` is the log of the fights, with the hit points going in and out.
-/

namespace Pokeage.Game

open Infra.Loop

variable (fl : Floats)

/-! ## The loops end -/

/-- **A bout ends** after at most as many rounds as there are hit points. -/
theorem bout_ends (my foe : MonsterInstance) (s : Standing) :
    ∃ n ≤ s.myHP.toNat + s.foeHP.toNat,
      Ends Standing.Open (exchange fl my foe) s n (bout fl my foe s) :=
  ends_of_unfold (fun s => by rw [bout]) (fun s : Standing => s.myHP.toNat + s.foeHP.toNat)
    (exchange_lt fl my foe) s

section

variable (party : List MonsterInstance) (gymTeam : List GymEntry) (getTemplate : TemplateResolver)

/-- `partyIdx < party.length && gymIdx < gymTeam.length`. -/
def GymFight.Going (g : GymFight) : Prop :=
  g.partyIdx < party.length ∧ g.gymIdx < gymTeam.length

instance : DecidablePred (GymFight.Going party gymTeam) := fun _ => inferInstanceAs (Decidable (_ ∧ _))

/-- The body of the loop. -/
def gymStep (g : GymFight) : GymFight :=
  match party[g.partyIdx]?, gymTeam[g.gymIdx]? with
  | some myMon, some entry =>
    match getTemplate entry.monsterId with
    | none => { g with gymIdx := g.gymIdx + 1 }
    | some tpl => gymRound fl myMon tpl entry g
  | _, _ => g

variable {party gymTeam getTemplate} {fl}

/-- What one round does: it passes an unknown entry over, or it fights. -/
theorem gymStep_cases (fl : Floats) (getTemplate : TemplateResolver) {g : GymFight}
    (going : g.Going party gymTeam) :
    ∃ myMon entry, party[g.partyIdx]? = some myMon ∧ gymTeam[g.gymIdx]? = some entry ∧
      ((getTemplate entry.monsterId = none ∧
          gymStep fl party gymTeam getTemplate g = { g with gymIdx := g.gymIdx + 1 }) ∨
        ∃ tpl, getTemplate entry.monsterId = some tpl ∧
          gymStep fl party gymTeam getTemplate g = gymRound fl myMon tpl entry g) := by
  obtain ⟨myMon, mine⟩ : ∃ myMon, party[g.partyIdx]? = some myMon :=
    ⟨_, List.getElem?_eq_getElem going.1⟩
  obtain ⟨entry, theirs⟩ : ∃ entry, gymTeam[g.gymIdx]? = some entry :=
    ⟨_, List.getElem?_eq_getElem going.2⟩
  refine ⟨myMon, entry, mine, theirs, ?_⟩
  unfold gymStep
  rw [mine, theirs]
  dsimp only
  cases getTemplate entry.monsterId with
  | none => exact .inl ⟨rfl, rfl⟩
  | some tpl => exact .inr ⟨tpl, rfl, rfl⟩

theorem gymLoop_unfold (g : GymFight) :
    gymLoop fl party gymTeam getTemplate g =
      if g.Going party gymTeam then
        gymLoop fl party gymTeam getTemplate (gymStep fl party gymTeam getTemplate g)
      else g := by
  by_cases going : g.partyIdx < party.length ∧ g.gymIdx < gymTeam.length
  · rw [if_pos (show g.Going party gymTeam from going), gymLoop, dif_pos going]
    unfold gymStep
    rw [List.getElem?_eq_getElem going.1, List.getElem?_eq_getElem going.2]
    dsimp only [List.get_eq_getElem]
    split
    · next unknown => rw [unknown]
    · next tpl known => rw [known]
  · rw [if_neg (show ¬ g.Going party gymTeam from going), gymLoop, dif_neg going]

theorem gymStep_less {g : GymFight} (going : g.Going party gymTeam) :
    (party.length - (gymStep fl party gymTeam getTemplate g).partyIdx) +
        (gymTeam.length - (gymStep fl party gymTeam getTemplate g).gymIdx) <
      (party.length - g.partyIdx) + (gymTeam.length - g.gymIdx) := by
  obtain ⟨inParty, inTeam⟩ : g.partyIdx < party.length ∧ g.gymIdx < gymTeam.length := going
  obtain ⟨myMon, entry, -, -, ⟨-, step⟩ | ⟨tpl, -, step⟩⟩ :=
    gymStep_cases fl getTemplate ⟨inParty, inTeam⟩
  · rw [step]
    dsimp only
    omega
  · have progress := gymRound_progress fl myMon tpl entry g
    rw [step]
    omega

variable (fl party gymTeam getTemplate) in
/-- **The chain ends** after at most as many rounds as there are monsters on both sides. -/
theorem gymLoop_ends (g : GymFight) :
    ∃ n ≤ (party.length - g.partyIdx) + (gymTeam.length - g.gymIdx),
      Ends (GymFight.Going party gymTeam) (gymStep fl party gymTeam getTemplate) g n
        (gymLoop fl party gymTeam getTemplate g) :=
  ends_of_unfold gymLoop_unfold
    (fun g : GymFight => (party.length - g.partyIdx) + (gymTeam.length - g.gymIdx))
    (fun _ => gymStep_less) g

/-! ## What the chain leaves -/

variable (party gymTeam getTemplate) in
/-- The variables of the loop agree with each other. -/
structure Consistent (g : GymFight) : Prop where
  partyIdx : g.partyIdx ≤ party.length
  gymIdx : g.gymIdx ≤ gymTeam.length
  length : g.partyHP.length = party.length
  down : g.FallenDown
  waiting : ∀ i, g.partyIdx < i → g.partyHP[i]? = party[i]?.map (·.currentHP)
  worn : g.Worn party
  results : g.results.map (fun ko => (ko.gymMon, ko.gymLv)) =
    (gymTeam.take g.gymIdx).filterMap fun entry =>
      (getTemplate entry.monsterId).map fun tpl => (tpl.name, entry.level)

theorem consistent_start (r : Rng) :
    Consistent party gymTeam getTemplate ⟨0, 0, party.map (·.currentHP), [], r⟩ where
  partyIdx := Nat.zero_le _
  gymIdx := Nat.zero_le _
  length := List.length_map _
  down i hi := absurd hi (Nat.not_lt_zero i)
  waiting i _ := List.getElem?_map
  worn i m hp hm hhp := by
    rw [List.getElem?_map, hm] at hhp
    obtain rfl := Option.some.inj hhp
    exact le_max_right _ _
  results := rfl

/-- The entries up to and with the one at an index. -/
theorem filterMap_take_succ {β : Type} {f : GymEntry → Option β} {k : ℕ} {entry : GymEntry}
    (here : gymTeam[k]? = some entry) :
    (gymTeam.take (k + 1)).filterMap f = (gymTeam.take k).filterMap f ++ (f entry).toList := by
  rw [List.take_add_one, here, List.filterMap_append]
  cases h : f entry <;> simp [h]

theorem Consistent.step {g : GymFight} (ok : Consistent party gymTeam getTemplate g)
    (going : g.Going party gymTeam) :
    Consistent party gymTeam getTemplate (gymStep fl party gymTeam getTemplate g) := by
  obtain ⟨myMon, entry, -, theirs, ⟨unknown, step⟩ | ⟨tpl, known, step⟩⟩ := gymStep_cases fl getTemplate going
  · rw [step]
    refine { ok with gymIdx := going.2, results := ?_ }
    rw [filterMap_take_succ theirs, unknown]
    simpa using ok.results
  · rw [step]
    have down := gymRound_fallenDown fl myMon tpl entry g ok.down (ok.length ▸ going.1)
    have worn : (gymRound fl myMon tpl entry g).Worn party := gymRound_worn fl ok.worn
    obtain ⟨inParty, inTeam⟩ := going
    unfold gymRound at down worn ⊢
    refine ⟨?_, ?_, ?_, down, ?_, worn, ?_⟩
    · dsimp only
      split <;> omega
    · dsimp only
      split <;> omega
    · exact (List.length_set ..).trans ok.length
    · intro i hi
      dsimp only at hi ⊢
      have later : g.partyIdx < i := by
        split at hi <;> omega
      rw [List.getElem?_set_ne (by omega)]
      exact ok.waiting i later
    · dsimp only
      split
      · rw [filterMap_take_succ theirs, known, List.map_append, ok.results]
        rfl
      · exact ok.results

variable (fl party gymTeam getTemplate) in
theorem gymLoop_consistent (r : Rng) :
    Consistent party gymTeam getTemplate
      (gymLoop fl party gymTeam getTemplate ⟨0, 0, party.map (·.currentHP), [], r⟩) := by
  obtain ⟨n, -, ends⟩ := gymLoop_ends fl party gymTeam getTemplate
    ⟨0, 0, party.map (·.currentHP), [], r⟩
  exact ends.invariant (consistent_start r) fun _ ok going => ok.step going

/-- A member of the party after the chain, by its place. -/
theorem simulateGym_member {r : Rng} {i : ℕ} {m m' : MonsterInstance} (before : party[i]? = some m)
    (after : (simulateGym fl party gymTeam getTemplate r).2.1[i]? = some m') :
    ∃ hp, (gymLoop fl party gymTeam getTemplate ⟨0, 0, party.map (·.currentHP), [], r⟩).partyHP[i]? =
      some hp ∧ m'.currentHP = max 0 hp := by
  unfold simulateGym at after
  dsimp only at after
  rw [List.getElem?_zipWith, before] at after
  cases there : (gymLoop fl party gymTeam getTemplate
      ⟨0, 0, party.map (·.currentHP), [], r⟩).partyHP[i]? with
  | none =>
    rw [there] at after
    cases after
  | some hp =>
    rw [there] at after
    obtain rfl := Option.some.inj after
    exact ⟨hp, rfl, rfl⟩

end

/-- **A gym ends, and its outcome is consistent.** Both loops terminate; it is won if the whole leader's
team is passed and costs the whole party otherwise; the knock-outs are the known entries passed; and the
hit points of the party tell who has fallen, who has fought and who has waited. -/
theorem simulateGym_consistent (party : List MonsterInstance) (gymTeam : List GymEntry)
    (getTemplate : TemplateResolver) (r : Rng) :
    (∃ n, Ends (GymFight.Going party gymTeam) (gymStep fl party gymTeam getTemplate)
      ⟨0, 0, party.map (·.currentHP), [], r⟩ n
      (gymLoop fl party gymTeam getTemplate ⟨0, 0, party.map (·.currentHP), [], r⟩)) ∧
    (∀ (my foe : MonsterInstance) (s : Standing),
      ∃ n, Ends Standing.Open (exchange fl my foe) s n (bout fl my foe s)) ∧
    let out := simulateGym fl party gymTeam getTemplate r
    (out.1.won = true ↔ out.1.gymDefeated = gymTeam.length) ∧
    (out.1.won = false → out.1.partyFainted = party.length) ∧
    out.1.results.map (fun ko => (ko.gymMon, ko.gymLv)) =
      (gymTeam.take out.1.gymDefeated).filterMap (fun entry =>
        (getTemplate entry.monsterId).map fun tpl => (tpl.name, entry.level)) ∧
    out.2.1.length = party.length ∧
    ∀ (i : ℕ) (m m' : MonsterInstance), party[i]? = some m → out.2.1[i]? = some m' →
      (i < out.1.partyFainted → m'.currentHP = 0) ∧
      (out.1.partyFainted < i → m'.currentHP = max 0 m.currentHP) ∧
      m'.currentHP ≤ max 0 m.currentHP := by
  obtain ⟨n, -, ends⟩ := gymLoop_ends fl party gymTeam getTemplate
    ⟨0, 0, party.map (·.currentHP), [], r⟩
  have ok := gymLoop_consistent fl party gymTeam getTemplate r
  refine ⟨⟨n, ends⟩, ?_, ?_, ?_, ok.results, simulateGym_length fl party gymTeam getTemplate r, ?_⟩
  · intro my foe s
    obtain ⟨n, -, ends⟩ := bout_ends fl my foe s
    exact ⟨n, ends⟩
  · have within := ok.gymIdx
    unfold simulateGym
    dsimp only
    rw [decide_eq_true_iff]
    omega
  · intro lost
    have stop := ends.stop
    have within := ok.partyIdx
    unfold simulateGym at lost ⊢
    dsimp only at lost ⊢
    rw [decide_eq_false_iff_not] at lost
    unfold GymFight.Going at stop
    omega
  · intro i m m' before after
    obtain ⟨hp, there, left⟩ := simulateGym_member before after
    rw [left]
    refine ⟨?_, ?_, max_le (le_max_left _ _) (ok.worn i m hp before there)⟩
    · intro fallen
      obtain rfl : hp = 0 := Option.some.inj (there.symm.trans (ok.down i fallen))
      rfl
    · intro waits
      have kept := there.symm.trans (ok.waiting i waits)
      rw [before] at kept
      rw [Option.some.inj kept]

end Pokeage.Game
