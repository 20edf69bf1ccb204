import Pokeage.Game.Properties.GymChain
import Pokeage.Infra.Log

/-!
# Damage in a gym chain

`simulateGym` keeps the hit points of the party in a list from bout to bout, but it makes the leader's
monster anew for each. `gymBouts` is the log of the bouts with the hit points that go in and come out.
The party's are carried over always, the leader's as long as nobody but the last of the party falls to
a monster that it has struck.
-/

namespace Pokeage.Game

open Infra.Loop Infra.Log

variable (fl : Floats)

/-! ## One bout -/

/-- The first of the pair gets a strike in: it is as fast, or the first hit leaves it standing. -/
def Standing.Strikes (my foe : MonsterInstance) (s : Standing) : Prop :=
  s.Open ∧ (foe.stats.spd ≤ my.stats.spd ∨ (calcDamageSimple fl foe my s.rng).1 < s.myHP)

instance (my foe : MonsterInstance) (s : Standing) : Decidable (s.Strikes fl my foe) :=
  inferInstanceAs (Decidable (_ ∧ _))

variable {fl} {my foe : MonsterInstance} {s : Standing}

theorem exchange_foeHP_le : (exchange fl my foe s).foeHP ≤ s.foeHP := by
  have mine := one_le_calcDamageSimple fl my foe s.rng
  have mineBack := one_le_calcDamageSimple fl my foe (calcDamageSimple fl foe my s.rng).2
  unfold exchange
  dsimp only
  split
  · split <;> (dsimp only; omega)
  · split <;> (dsimp only; omega)

/-- A round in which the first gets a strike in hurts the other, and no other round does. -/
theorem exchange_foeHP (isOpen : s.Open) :
    (s.Strikes fl my foe → (exchange fl my foe s).foeHP < s.foeHP) ∧
    (¬ s.Strikes fl my foe →
      (exchange fl my foe s).foeHP = s.foeHP ∧ (exchange fl my foe s).myHP ≤ 0) := by
  have mine := one_le_calcDamageSimple fl my foe s.rng
  have mineBack := one_le_calcDamageSimple fl my foe (calcDamageSimple fl foe my s.rng).2
  unfold exchange Standing.Strikes
  dsimp only
  by_cases faster : foe.stats.spd ≤ my.stats.spd
  · rw [if_pos faster]
    refine ⟨?_, fun none => absurd ⟨isOpen, .inl faster⟩ none⟩
    intro _
    split <;> (dsimp only; omega)
  · rw [if_neg faster]
    by_cases fells : s.myHP - (calcDamageSimple fl foe my s.rng).1 ≤ 0
    · rw [if_pos fells]
      refine ⟨?_, fun _ => ⟨rfl, fells⟩⟩
      rintro ⟨-, fast | stands⟩
      · exact absurd fast faster
      · omega
    · rw [if_neg fells]
      refine ⟨?_, fun none => absurd ⟨isOpen, .inr (by omega)⟩ none⟩
      intro _
      dsimp only
      omega

/-- The one that is struck down does not strike back: one of them stands. -/
theorem exchange_one_stands (isOpen : s.Open) :
    0 < (exchange fl my foe s).myHP ∨ 0 < (exchange fl my foe s).foeHP := by
  obtain ⟨hmy, hfoe⟩ := isOpen
  unfold exchange
  dsimp only
  split
  · split
    · exact .inl hmy
    · next stands => exact .inr (not_le.1 stands)
  · split
    · exact .inr hfoe
    · next stands => exact .inl (not_le.1 stands)

theorem bout_foeHP_le (fl : Floats) (my foe : MonsterInstance) (s : Standing) : (bout fl my foe s).foeHP ≤ s.foeHP := by
  fun_induction bout fl my foe s with
  | case1 s _ ih => exact ih.trans exchange_foeHP_le
  | case2 s _ => exact le_rfl

theorem bout_one_stands (fl : Floats) (my foe : MonsterInstance) (isOpen : s.Open) :
    0 < (bout fl my foe s).myHP ∨ 0 < (bout fl my foe s).foeHP := by
  obtain ⟨n, -, ends⟩ := bout_ends fl my foe s
  exact ends.invariant (P := fun s => 0 < s.myHP ∨ 0 < s.foeHP) (.inl isOpen.1)
    fun _ _ going => exchange_one_stands going

/-- Whoever falls has hurt the other if it got a strike in, and only then. -/
theorem bout_fallen (fl : Floats) (my foe : MonsterInstance) (s : Standing)
    (fallen : (bout fl my foe s).myHP ≤ 0) :
    (s.Strikes fl my foe → 0 < (bout fl my foe s).foeHP ∧ (bout fl my foe s).foeHP < s.foeHP) ∧
    (¬ s.Strikes fl my foe → (bout fl my foe s).foeHP = s.foeHP) := by
  constructor
  · intro strikes
    have one := bout_one_stands fl my foe strikes.1
    have hurt := (exchange_foeHP strikes.1).1 strikes
    have rest := bout_foeHP_le fl my foe (exchange fl my foe s)
    rw [bout, if_pos strikes.1] at fallen one ⊢
    exact ⟨one.resolve_left (not_lt.2 fallen), lt_of_le_of_lt rest hurt⟩
  · intro none
    by_cases isOpen : s.Open
    · obtain ⟨same, down⟩ := (exchange_foeHP isOpen).2 none
      have ended : ¬ (exchange fl my foe s).Open := fun still => absurd still.1 (not_lt.2 down)
      rw [bout, if_pos isOpen, bout, if_neg ended]
      exact same
    · rw [bout, if_neg isOpen]

/-! ## The log -/

/-- A bout by its places, with the hit points that go in and come out. -/
structure Bout where
  partyIdx : ℕ
  gymIdx : ℕ
  myIn : ℤ
  gymIn : ℤ
  myOut : ℤ
  gymOut : ℤ
  deriving DecidableEq, Repr

/-- The bout of a round with this start and end. -/
def GymFight.entry (g : GymFight) (s e : Standing) : Bout :=
  ⟨g.partyIdx, g.gymIdx, s.myHP, s.foeHP, e.myHP, e.foeHP⟩

section

variable (fl) (party : List MonsterInstance) (gymTeam : List GymEntry)
  (getTemplate : TemplateResolver)

/-- The leader's monster of a place, if its species is known. -/
def gymMonster (idx : ℕ) : Option MonsterInstance :=
  gymTeam[idx]?.bind fun entry =>
    (getTemplate entry.monsterId).map fun tpl => makeCombatant fl tpl entry.level

/-- The hit points at the start of a bout of a round that fights. -/
def GymFight.standing (g : GymFight) (gymMon : MonsterInstance) : Standing :=
  ⟨g.partyHP.getD g.partyIdx 0, gymMon.stats.hp, g.rng⟩

/-- The bout of a round. -/
def boutAt (g : GymFight) : Option Bout :=
  match party[g.partyIdx]?, gymMonster fl gymTeam getTemplate g.gymIdx with
  | some myMon, some gymMon =>
    let s := g.standing gymMon
    some (g.entry s (bout fl myMon gymMon s))
  | _, _ => none

/-- The variables of the loop before each of its rounds. -/
def gymRounds (g : GymFight) : List GymFight :=
  if g.Going party gymTeam then
    g :: gymRounds (gymStep fl party gymTeam getTemplate g)
  else []
termination_by (party.length - g.partyIdx) + (gymTeam.length - g.gymIdx)
decreasing_by exact gymStep_less ‹_›

/-- The bouts of `simulateGym`, in order. -/
def gymBouts (r : Rng) : List Bout :=
  (gymRounds fl party gymTeam getTemplate ⟨0, 0, party.map (·.currentHP), [], r⟩).filterMap
    (boutAt fl party gymTeam getTemplate)

/-- A member of the party enters a bout with what its last one left it, the first with what it came
with. -/
def PartyKeeps : List Bout → Prop :=
  AtEach fun past b => b.myIn = ((lastOf Bout.partyIdx b.partyIdx past).map Bout.myOut).getD
    ((party.map (·.currentHP)).getD b.partyIdx 0)

/-- A monster of the leader enters a bout with what its last one left it, the first with all it has. -/
def GymKeeps : List Bout → Prop :=
  AtEach fun past b => b.gymIn = ((lastOf Bout.gymIdx b.gymIdx past).map Bout.gymOut).getD
    (((gymMonster fl gymTeam getTemplate b.gymIdx).map (·.stats.hp)).getD 0)

/-- In this round one of the party falls to a monster that it has struck, and is not the last. -/
def GymFight.HurtsInVain (g : GymFight) : Prop :=
  ∃ myMon gymMon, party[g.partyIdx]? = some myMon ∧
    gymMonster fl gymTeam getTemplate g.gymIdx = some gymMon ∧ g.partyIdx + 1 < party.length ∧
    (g.standing gymMon).Strikes fl myMon gymMon ∧
    (bout fl myMon gymMon (g.standing gymMon)).myHP ≤ 0

variable {fl party gymTeam getTemplate}

/-- The variables after a bout that ends so. -/
def GymFight.after (g : GymFight) (e : Standing) (results : List GymKo) : GymFight where
  partyIdx := if e.myHP ≤ 0 then g.partyIdx + 1 else g.partyIdx
  gymIdx := if e.foeHP ≤ 0 then g.gymIdx + 1 else g.gymIdx
  partyHP := g.partyHP.set g.partyIdx (max 0 e.myHP)
  results := results
  rng := e.rng

/-- What one round does to the log and the variables. -/
theorem boutAt_cases (fl : Floats) (getTemplate : TemplateResolver) {g : GymFight}
    (going : g.Going party gymTeam) :
    (gymMonster fl gymTeam getTemplate g.gymIdx = none ∧ boutAt fl party gymTeam getTemplate g = none ∧
        gymStep fl party gymTeam getTemplate g = { g with gymIdx := g.gymIdx + 1 }) ∨
      ∃ myMon gymMon results, party[g.partyIdx]? = some myMon ∧
        gymMonster fl gymTeam getTemplate g.gymIdx = some gymMon ∧
        boutAt fl party gymTeam getTemplate g =
          some (g.entry (g.standing gymMon) (bout fl myMon gymMon (g.standing gymMon))) ∧
        gymStep fl party gymTeam getTemplate g =
          g.after (bout fl myMon gymMon (g.standing gymMon)) results := by
  obtain ⟨myMon, entry, mine, theirs, ⟨unknown, step⟩ | ⟨tpl, known, step⟩⟩ :=
    gymStep_cases fl getTemplate going
  · have none : gymMonster fl gymTeam getTemplate g.gymIdx = none := by
      unfold gymMonster
      rw [theirs, Option.bind_some, unknown]
      rfl
    refine .inl ⟨none, ?_, step⟩
    unfold boutAt
    rw [mine, none]
  · have some_ : gymMonster fl gymTeam getTemplate g.gymIdx =
        some (makeCombatant fl tpl entry.level) := by
      unfold gymMonster
      rw [theirs, Option.bind_some, known]
      rfl
    refine .inr ⟨myMon, _, _, mine, some_, ?_, step⟩
    unfold boutAt
    rw [mine, some_]

/-! ## Along the chain -/

/-- The last bout of the leader's present monster, if there was one, has taken nothing from it. -/
def GymFight.Unhurt (fl : Floats) (party : List MonsterInstance) (gymTeam : List GymEntry)
    (getTemplate : TemplateResolver) (log : List Bout) (g : GymFight) : Prop :=
  g.partyIdx < party.length → ∀ b, lastOf Bout.gymIdx g.gymIdx log = some b →
    ((gymMonster fl gymTeam getTemplate g.gymIdx).map (·.stats.hp)) = some b.gymOut

/-- How the log so far and the variables of the loop belong together. -/
structure Logged (fl : Floats) (party : List MonsterInstance) (gymTeam : List GymEntry)
    (getTemplate : TemplateResolver) (past : List GymFight) (log : List Bout) (g : GymFight) :
    Prop where
  behind : ∀ b ∈ log, b.partyIdx ≤ g.partyIdx ∧ b.gymIdx ≤ g.gymIdx
  known : ∀ b ∈ log, (gymMonster fl gymTeam getTemplate b.gymIdx).isSome
  carried : PartyKeeps party log
  enters : g.partyIdx < party.length →
    g.partyHP.getD g.partyIdx 0 = ((lastOf Bout.partyIdx g.partyIdx log).map Bout.myOut).getD
      ((party.map (·.currentHP)).getD g.partyIdx 0)
  gym : GymKeeps fl gymTeam getTemplate log ∧ g.Unhurt fl party gymTeam getTemplate log ↔
    ∀ x ∈ past, ¬ x.HurtsInVain fl party gymTeam getTemplate

variable {past : List GymFight} {log : List Bout} {g : GymFight}

/-- A place ahead of all bouts has none. -/
theorem lastOf_ahead {key : Bout → ℕ} {k : ℕ} (behind : ∀ b ∈ log, key b < k) :
    lastOf key k log = none := by
  cases found : lastOf key k log with
  | none => rfl
  | some b =>
    obtain ⟨there, same⟩ := lastOf_eq_some found
    exact absurd same (behind b there).ne

theorem Logged.passOver (logged : Logged fl party gymTeam getTemplate past log g)
    (unknown : gymMonster fl gymTeam getTemplate g.gymIdx = none) :
    Logged fl party gymTeam getTemplate (past ++ [g]) log { g with gymIdx := g.gymIdx + 1 } where
  behind b hb := ⟨(logged.behind b hb).1, Nat.le_succ_of_le (logged.behind b hb).2⟩
  known := logged.known
  carried := logged.carried
  enters := logged.enters
  gym := by
    have unhurt : g.Unhurt fl party gymTeam getTemplate log := by
      intro _ b found
      obtain ⟨there, same⟩ := lastOf_eq_some found
      have known := logged.known b there
      rw [same, unknown] at known
      cases known
    have ahead : ({ g with gymIdx := g.gymIdx + 1 } : GymFight).Unhurt fl party gymTeam getTemplate
        log := by
      intro _ b found
      rw [lastOf_ahead fun b hb => Nat.lt_succ_of_le (logged.behind b hb).2] at found
      cases found
    have calm : ¬ g.HurtsInVain fl party gymTeam getTemplate := by
      rintro ⟨myMon, gymMon, -, known, -⟩
      rw [unknown] at known
      cases known
    have before := logged.gym
    simp only [List.forall_mem_append, List.forall_mem_singleton]
    tauto

/-- The monster of the leader comes as the log says if its last bout has taken nothing from it. -/
theorem gymIn_iff_unhurt (log : List Bout) {gymMon : MonsterInstance} (inParty : g.partyIdx < party.length)
    (theirs : gymMonster fl gymTeam getTemplate g.gymIdx = some gymMon) :
    gymMon.stats.hp = ((lastOf Bout.gymIdx g.gymIdx log).map Bout.gymOut).getD
        (((gymMonster fl gymTeam getTemplate g.gymIdx).map (·.stats.hp)).getD 0) ↔
      g.Unhurt fl party gymTeam getTemplate log := by
  unfold GymFight.Unhurt
  rw [theirs]
  cases found : lastOf Bout.gymIdx g.gymIdx log with
  | none => simp
  | some b => simp [inParty]

theorem GymFight.after_le (g : GymFight) (e : Standing) (results : List GymKo) :
    g.partyIdx ≤ (g.after e results).partyIdx ∧ g.gymIdx ≤ (g.after e results).gymIdx := by
  unfold GymFight.after
  constructor
  · dsimp only
    split <;> omega
  · dsimp only
    split <;> omega

/-- No bout is ahead of the round that logs one more. -/
theorem Logged.behind_entry (logged : Logged fl party gymTeam getTemplate past log g)
    (s e : Standing) : ∀ b ∈ log ++ [g.entry s e], b.partyIdx ≤ g.partyIdx ∧ b.gymIdx ≤ g.gymIdx := by
  intro b hb
  rcases List.mem_append.1 hb with hb | hb
  · exact logged.behind b hb
  · obtain rfl := List.mem_singleton.1 hb
    exact ⟨le_rfl, le_rfl⟩

theorem Logged.behind_after (logged : Logged fl party gymTeam getTemplate past log g)
    (s e : Standing) (results : List GymKo) : ∀ b ∈ log ++ [g.entry s e],
      b.partyIdx ≤ (g.after e results).partyIdx ∧ b.gymIdx ≤ (g.after e results).gymIdx := by
  have on := g.after_le e results
  intro b hb
  obtain ⟨party, gym⟩ := logged.behind_entry s e b hb
  exact ⟨party.trans on.1, gym.trans on.2⟩

/-- The party member of the next bout comes with what the log says. -/
theorem Logged.enters_after (ok : Consistent party gymTeam getTemplate g)
    (logged : Logged fl party gymTeam getTemplate past log g) (inParty : g.partyIdx < party.length)
    (s e : Standing) (results : List GymKo) :
    (g.after e results).partyHP.getD (g.after e results).partyIdx 0 =
      ((lastOf Bout.partyIdx (g.after e results).partyIdx (log ++ [g.entry s e])).map
        Bout.myOut).getD ((party.map (·.currentHP)).getD (g.after e results).partyIdx 0) := by
  unfold GymFight.after
  dsimp only
  by_cases down : e.myHP ≤ 0
  · rw [if_pos down, lastOf_ahead, List.getD_eq_getElem?_getD, List.getElem?_set_ne (by omega),
      ok.waiting _ (Nat.lt_succ_self _), List.getD_eq_getElem?_getD, List.getElem?_map]
    · rfl
    · exact fun b hb => Nat.lt_succ_of_le (logged.behind_entry s e b hb).1
  · have same : (g.entry s e).partyIdx = g.partyIdx := rfl
    rw [if_neg down, lastOf_concat, if_pos same, List.getD_eq_getElem?_getD,
      List.getElem?_set_self (ok.length.symm ▸ inParty)]
    exact max_eq_right (not_le.1 down).le

/-- A round that hurts in vain, by its bout. -/
theorem hurtsInVain_iff {myMon gymMon : MonsterInstance} (mine : party[g.partyIdx]? = some myMon)
    (theirs : gymMonster fl gymTeam getTemplate g.gymIdx = some gymMon) {e : Standing}
    (fought : bout fl myMon gymMon (g.standing gymMon) = e) :
    g.HurtsInVain fl party gymTeam getTemplate ↔
      g.partyIdx + 1 < party.length ∧ (g.standing gymMon).Strikes fl myMon gymMon ∧ e.myHP ≤ 0 := by
  unfold GymFight.HurtsInVain
  rw [mine, theirs]
  constructor
  · rintro ⟨m, f, hm, hf, rest⟩
    obtain rfl := Option.some.inj hm
    obtain rfl := Option.some.inj hf
    rwa [fought] at rest
  · intro rest
    rw [← fought] at rest
    exact ⟨myMon, gymMon, rfl, rfl, rest⟩

/-- After a bout the leader's monster is unhurt, unless it has been struck in vain. -/
theorem Logged.unhurt_after (logged : Logged fl party gymTeam getTemplate past log g)
    {myMon gymMon : MonsterInstance} (mine : party[g.partyIdx]? = some myMon)
    (theirs : gymMonster fl gymTeam getTemplate g.gymIdx = some gymMon) {e : Standing}
    (fought : bout fl myMon gymMon (g.standing gymMon) = e) (results : List GymKo) :
    (g.after e results).Unhurt fl party gymTeam getTemplate
        (log ++ [g.entry (g.standing gymMon) e]) ↔
      ¬ g.HurtsInVain fl party gymTeam getTemplate := by
  have fallen := bout_fallen fl myMon gymMon (g.standing gymMon)
  have ended := not_open_bout fl myMon gymMon (g.standing gymMon)
  rw [fought] at fallen ended
  rw [hurtsInVain_iff mine theirs fought]
  unfold GymFight.Unhurt GymFight.after
  dsimp only
  by_cases gymDown : e.foeHP ≤ 0
  · have none : lastOf Bout.gymIdx (g.gymIdx + 1) (log ++ [g.entry (g.standing gymMon) e]) = none :=
      lastOf_ahead fun b hb => Nat.lt_succ_of_le (logged.behind_entry _ e b hb).2
    rw [if_pos gymDown, none]
    constructor
    · rintro - ⟨-, strikes, down⟩
      exact absurd ((fallen down).1 strikes).1 (not_lt.2 gymDown)
    · intro _ _ b found
      cases found
  · have down : e.myHP ≤ 0 := by
      unfold Standing.Open at ended
      omega
    have same : (g.entry (g.standing gymMon) e).gymIdx = g.gymIdx := rfl
    rw [if_neg gymDown, if_pos down, lastOf_concat, if_pos same, theirs]
    by_cases strikes : (g.standing gymMon).Strikes fl myMon gymMon
    · have hurt : e.foeHP < gymMon.stats.hp := ((fallen down).1 strikes).2
      constructor
      · rintro unhurt ⟨others, -, -⟩
        have same : gymMon.stats.hp = e.foeHP := Option.some.inj (unhurt others _ rfl)
        omega
      · intro calm others
        exact absurd ⟨others, strikes, down⟩ calm
    · have same : e.foeHP = gymMon.stats.hp := (fallen down).2 strikes
      constructor
      · rintro - ⟨-, struck, -⟩
        exact strikes struck
      · rintro - - b found
        obtain rfl := Option.some.inj found
        exact congrArg some same.symm

theorem Logged.fight (ok : Consistent party gymTeam getTemplate g)
    (logged : Logged fl party gymTeam getTemplate past log g) (inParty : g.partyIdx < party.length)
    {myMon gymMon : MonsterInstance} (mine : party[g.partyIdx]? = some myMon)
    (theirs : gymMonster fl gymTeam getTemplate g.gymIdx = some gymMon) {e : Standing}
    (fought : bout fl myMon gymMon (g.standing gymMon) = e) (results : List GymKo) :
    Logged fl party gymTeam getTemplate (past ++ [g]) (log ++ [g.entry (g.standing gymMon) e])
      (g.after e results) where
  behind := logged.behind_after _ e results
  known b hb := by
    rcases List.mem_append.1 hb with hb | hb
    · exact logged.known b hb
    · obtain rfl := List.mem_singleton.1 hb
      exact Option.isSome_iff_exists.2 ⟨gymMon, theirs⟩
  carried := atEach_concat.2 ⟨logged.carried, logged.enters inParty⟩
  enters _ := logged.enters_after ok inParty _ e results
  gym := by
    have comes := gymIn_iff_unhurt log inParty theirs
    have before := logged.gym
    unfold GymKeeps at before ⊢
    rw [atEach_concat, logged.unhurt_after mine theirs fought results, List.forall_mem_append,
      List.forall_mem_singleton, ← before]
    exact and_congr_left fun _ => and_congr_right fun _ => comes

theorem Logged.step (ok : Consistent party gymTeam getTemplate g)
    (logged : Logged fl party gymTeam getTemplate past
      (past.filterMap (boutAt fl party gymTeam getTemplate)) g) (going : g.Going party gymTeam) :
    Logged fl party gymTeam getTemplate (past ++ [g])
      ((past ++ [g]).filterMap (boutAt fl party gymTeam getTemplate))
      (gymStep fl party gymTeam getTemplate g) := by
  rw [List.filterMap_append]
  rcases boutAt_cases fl getTemplate going with
    ⟨unknown, none, step⟩ | ⟨myMon, gymMon, results, mine, theirs, some_, step⟩
  · rw [List.filterMap_cons_none none, step, List.filterMap_nil, List.append_nil]
    exact logged.passOver unknown
  · rw [List.filterMap_cons_some some_, step]
    exact logged.fight ok going.1 mine theirs rfl results

theorem logged_start (r : Rng) :
    Logged fl party gymTeam getTemplate [] [] ⟨0, 0, party.map (·.currentHP), [], r⟩ where
  behind b hb := nomatch hb
  known b hb := nomatch hb
  carried := atEach_nil
  enters _ := rfl
  gym := by
    constructor
    · intro _ x hx
      cases hx
    · intro _
      exact ⟨atEach_nil, fun _ b found => nomatch found⟩

/-- Once the loop has stopped, no monster of the leader waits for its next bout. -/
theorem Logged.unhurt_of_stop (logged : Logged fl party gymTeam getTemplate past log g)
    (stop : ¬ g.Going party gymTeam) : g.Unhurt fl party gymTeam getTemplate log := by
  intro inParty b found
  obtain ⟨there, same⟩ := lastOf_eq_some found
  have known := logged.known b there
  have inTeam : g.gymIdx < gymTeam.length := by
    by_contra out
    unfold gymMonster at known
    rw [same, List.getElem?_eq_none (not_lt.1 out)] at known
    cases known
  exact absurd ⟨inParty, inTeam⟩ stop

variable (fl party gymTeam getTemplate) in
theorem gymRounds_unfold (g : GymFight) : gymRounds fl party gymTeam getTemplate g =
    if g.Going party gymTeam then
      g :: gymRounds fl party gymTeam getTemplate (gymStep fl party gymTeam getTemplate g)
    else [] := by
  rw [gymRounds]

end

/-- **When damage persists in a gym chain.** Each party member enters a bout as its last one left it, and
so does each of the leader's monsters, if and only if nobody but the last of the party falls to a monster
that it has struck. -/
theorem gym_damage_persists_iff (party : List MonsterInstance) (gymTeam : List GymEntry)
    (getTemplate : TemplateResolver) (r : Rng) :
    (PartyKeeps party (gymBouts fl party gymTeam getTemplate r) ∧
      GymKeeps fl gymTeam getTemplate (gymBouts fl party gymTeam getTemplate r)) ↔
    ∀ g ∈ gymRounds fl party gymTeam getTemplate ⟨0, 0, party.map (·.currentHP), [], r⟩,
      ¬ g.HurtsInVain fl party gymTeam getTemplate := by
  obtain ⟨n, -, ends⟩ := gymLoop_ends fl party gymTeam getTemplate
    ⟨0, 0, party.map (·.currentHP), [], r⟩
  have rounds := ends.history (gymRounds_unfold fl party gymTeam getTemplate)
  have logged := (ends.induction
    (P := fun past g => Consistent party gymTeam getTemplate g ∧
      Logged fl party gymTeam getTemplate past
        (past.filterMap (boutAt fl party gymTeam getTemplate)) g)
    ⟨consistent_start r, logged_start r⟩
    fun past g so_far going => ⟨so_far.1.step going, so_far.2.step so_far.1 going⟩).2
  rw [← rounds] at logged
  rw [← logged.gym]
  constructor
  · intro keeps
    exact ⟨keeps.2, logged.unhurt_of_stop ends.stop⟩
  · intro keeps
    exact ⟨logged.carried, keeps.1⟩

/-- Two beginners, who meet a single strong monster. -/
def beginners : List MonsterInstance :=
  (sampleMonsters.take 2).map fun tpl => createMonsterInstance exactFloats tpl 5

theorem gymBouts_beginners :
    gymBouts exactFloats beginners [⟨1, 40⟩] sampleRegistry.getMonsterById (Rng.new 3) =
      [⟨0, 0, 47, 86, -14, 27⟩, ⟨1, 0, 61, 86, 20, -16⟩] := by
  decide +kernel

/-- The first beginner leaves the monster with 27 points, and the second finds it with all 86. -/
theorem not_gymKeeps_beginners :
    ¬ (PartyKeeps beginners
        (gymBouts exactFloats beginners [⟨1, 40⟩] sampleRegistry.getMonsterById (Rng.new 3)) ∧
      GymKeeps exactFloats [⟨1, 40⟩] sampleRegistry.getMonsterById
        (gymBouts exactFloats beginners [⟨1, 40⟩] sampleRegistry.getMonsterById (Rng.new 3))) := by
  rintro ⟨-, keeps⟩
  rw [gymBouts_beginners] at keeps
  have second : (86 : ℤ) = 27 := keeps [⟨0, 0, 47, 86, -14, 27⟩] ⟨1, 0, 61, 86, 20, -16⟩ [] rfl
  omega

end Pokeage.Game
