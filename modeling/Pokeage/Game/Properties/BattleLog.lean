import Pokeage.Game.Battle
import Pokeage.Game.Factory
import Pokeage.Game.Save
import Pokeage.Infra.Log
import Pokeage.Infra.Loop

/-!
# The battle log

`strikes` lists the fight as it stands before each strike, and `loop_induction` takes what one strike
does along the fight. Log and hit points are written apart; that the log replays the fight is an
invariant of both. A hit takes at least a point, an immune one too.
-/

namespace Pokeage.Game

open Infra.Loop Infra.Log

variable (fl : Floats)

/-! ## Hits -/

/-- The hit points of both sides after an event. -/
def BattleEvent.hp (ev : BattleEvent) : ℤ × ℤ := (ev.myHP, ev.foeHP)

/-- The hit points of both sides as the battle stands. -/
def Battle.hp (b : Battle) : ℤ × ℤ := (b.myHP, b.foeHP)

/-- What an event says to have happened: a miss changes nothing, a hit takes its damage from the
target, which does not go below zero. -/
def replayEvent (hp : ℤ × ℤ) (ev : BattleEvent) : ℤ × ℤ :=
  if ev.miss then hp
  else
    match ev.who with
    | .me => (hp.1, max 0 (hp.2 - ev.dmg))
    | .foe => (max 0 (hp.1 - ev.dmg), hp.2)

/-- The multiplier of a roll is that of the types. -/
theorem calcDamage_typeMod (atk target : MonsterInstance) (power : ℤ) (r : Rng) :
    (calcDamage fl atk target power r).1.typeMod = getTypeMultiplier atk.type target.type := by
  unfold calcDamage
  dsimp only
  split <;> rfl

theorem landHit_typeMod (atk target : MonsterInstance) (mv : Move) (r : Rng) :
    (landHit fl atk target mv r).1.typeMod = getTypeMultiplier atk.type target.type :=
  calcDamage_typeMod fl atk target mv.power r

/-- A hit takes at least a point, and not more than its cap unless the cap is below one. -/
theorem landHit_dmg (atk target : MonsterInstance) (mv : Move) (r : Rng) :
    1 ≤ (landHit fl atk target mv r).1.dmg ∧
      (landHit fl atk target mv r).1.dmg ≤
        max 1 (hitCap fl target (landHit fl atk target mv r).1.typeMod) :=
  ⟨le_max_left _ _, max_le_max_left 1 (min_le_right _ _)⟩

namespace Battle

/-! ## Strikes -/

/-- `myHP > 0 && foeHP > 0 && turns < BATTLE_TURN_CAP`. -/
def Going (b : Battle) : Prop := b.Open ∧ b.turns < battleTurnCap

instance : DecidablePred Going := fun _ => inferInstanceAs (Decidable (_ ∧ _))

/-- The fight at the start of its next turn. -/
def tick (b : Battle) : Battle := { b with turns := b.turns + 1 }

/-- The strikes of a turn, each with the fight before it. -/
def turnStrikes (b : Battle) : List (Battle × Side) :=
  let next := b.tick.strike fl b.first
  (if b.tick.Open then [(b.tick, b.first)] else []) ++
    if next.Open then [(next, b.first.other)] else []

/-- The strikes of the fight from here on. -/
def strikes (b : Battle) : List (Battle × Side) :=
  if b.Going then b.turnStrikes fl ++ (b.turn fl).strikes else []
termination_by battleTurnCap - b.turns
decreasing_by
  have going : b.Going := ‹_›
  have below := going.2
  rw [turn_turns]
  omega

/-- **The loop ends** within the turn cap. -/
theorem loop_ends (b : Battle) : ∃ n ≤ battleTurnCap - b.turns, Ends Going (turn fl) b n (b.loop fl) := by
  refine ends_of_unfold (fun b => by rw [loop]; rfl) (fun b : Battle => battleTurnCap - b.turns) ?_ b
  intro b going
  have below := going.2
  rw [turn_turns]
  omega

variable {fl}

/-- **Induction along a fight**, over the strikes so far and the state they led to. -/
theorem loop_induction (fl : Floats) (b : Battle) {P : List (Battle × Side) → Battle → Prop}
    (tick : ∀ past b, P past b → P past b.tick)
    (strike : ∀ past b who, P past b → b.Open → P (past ++ [(b, who)]) (b.strike fl who))
    (start : P [] b) : P (b.strikes fl) (b.loop fl) := by
  have one : ∀ past b who, P past b →
      P (past ++ if b.Open then [(b, who)] else []) (b.strike fl who) := by
    intro past b who so_far
    by_cases isOpen : b.Open
    · rw [if_pos isOpen]
      exact strike past b who so_far isOpen
    · rw [if_neg isOpen, Battle.strike, if_neg isOpen, List.append_nil]
      exact so_far
  have turn : ∀ past b, P past b → P (past ++ b.turnStrikes fl) (b.turn fl) := by
    intro past b so_far
    unfold turnStrikes
    rw [← List.append_assoc]
    exact one _ _ _ (one _ _ _ (tick past b so_far))
  have onwards : ∀ past b, P past b → P (past ++ b.strikes fl) (b.loop fl) := by
    intro past b so_far
    fun_induction loop fl b generalizing past with
    | case1 b going ih =>
      rw [strikes, if_pos (show b.Going from going), ← List.append_assoc]
      exact ih _ (turn past b so_far)
    | case2 b stop =>
      rw [strikes, if_neg (show ¬ b.Going from stop), List.append_nil]
      exact so_far
  simpa using onwards [] b start

/-! ## One strike -/

variable {b : Battle} {who : Side}

/-- A strike while both stand goes into the log and the hit points. -/
theorem strike_of_open (isOpen : b.Open) : b.strike fl who =
    { b.setFighter (b.move who).2 who with
      myHP := (b.strikeEvent fl who).1.myHP
      foeHP := (b.strikeEvent fl who).1.foeHP
      events := b.events ++ [(b.strikeEvent fl who).1]
      rng := (b.strikeEvent fl who).2 } := if_pos isOpen

/-- What a strike logs. -/
structure Struck (fl : Floats) (b : Battle) (who : Side) (ev : BattleEvent) : Prop where
  side : ev.who = who
  name : ev.move = (b.move who).1.name
  typeMod : ev.typeMod = b.typeMod who
  hp : ev.hp = replayEvent b.hp ev
  missed : ev.miss = true ↔ b.Misses fl who
  nothing : ev.miss = true → ev.dmg = 0
  dmg : ev.miss = false →
    1 ≤ ev.dmg ∧ ev.dmg ≤ max 1 (hitCap fl (b.fighter who.other) ev.typeMod)

/-- Every event is one that a strike may log. -/
theorem strikeEvent_struck (fl : Floats) (b : Battle) (who : Side) :
    Struck fl b who (b.strikeEvent fl who).1 := by
  unfold strikeEvent
  dsimp only
  by_cases misses : b.Misses fl who
  · rw [if_pos misses]
    exact ⟨rfl, rfl, rfl, rfl, iff_of_true rfl misses, fun _ => rfl, fun hit => nomatch hit⟩
  · rw [if_neg misses]
    refine ⟨rfl, rfl, landHit_typeMod fl _ _ _ _, ?_, iff_of_false Bool.false_ne_true misses,
      (fun miss => nomatch miss), fun _ => landHit_dmg fl _ _ _ _⟩
    cases who <;> rfl

/-- The last event holds the hit points after it. -/
theorem strike_hp (fl : Floats) (who : Side) (isOpen : b.Open) :
    (b.strike fl who).hp = (b.strikeEvent fl who).1.hp := by
  rw [strike_of_open isOpen]
  rfl

/-- A strike logs one event. -/
theorem strike_events (isOpen : b.Open) :
    (b.strike fl who).events = b.events ++ [(b.strikeEvent fl who).1] := by
  rw [strike_of_open isOpen]

/-! ## Immunity -/

/-- The hit points after the events so far. -/
def hpAfter (start : ℤ × ℤ) (past : List BattleEvent) : ℤ × ℤ :=
  (past.getLast?.map BattleEvent.hp).getD start

theorem hpAfter_concat (start : ℤ × ℤ) (past : List BattleEvent) (ev : BattleEvent) :
    hpAfter start (past ++ [ev]) = ev.hp := by
  unfold hpAfter
  rw [List.getLast?_concat]
  rfl

/-- A strike against an immune type that does not miss. -/
def ImmuneHit (fl : Floats) (s : Battle × Side) : Prop := s.1.typeMod s.2 = 0 ∧ ¬ s.1.Misses fl s.2

/-- The event says that an immune type is not hurt. -/
def Spares (start : ℤ × ℤ) (past : List BattleEvent) (ev : BattleEvent) : Prop :=
  ev.typeMod = 0 → ev.dmg = 0 ∧ ev.hp = hpAfter start past

/-- A strike spares an immune type only by missing it. -/
theorem spares_iff {start : ℤ × ℤ} {past : List BattleEvent} (so_far : hpAfter start past = b.hp) :
    Spares start past (b.strikeEvent fl who).1 ↔ ¬ ImmuneHit fl (b, who) := by
  obtain ⟨-, -, typeMod, hp, missed, nothing, dmg⟩ := strikeEvent_struck fl b who
  generalize (b.strikeEvent fl who).1 = ev at *
  unfold Spares ImmuneHit
  rw [typeMod, so_far, ← missed]
  cases miss : ev.miss with
  | true =>
    have same : ev.hp = b.hp := by
      rw [hp]
      exact if_pos miss
    simp [nothing miss, same]
  | false =>
    have one := (dmg miss).1
    constructor
    · rintro spares ⟨immune, -⟩
      have none := (spares immune).1
      omega
    · intro calm immune
      exact absurd ⟨immune, Bool.false_ne_true⟩ calm

end Battle

/-- **When immunity means no damage.** Every event of a battle with multiplier zero has no damage and
leaves the hit points as they were, if and only if no strike against an immune type hits. -/
theorem immune_spared_iff (me foe : MonsterInstance) (r : Rng) :
    AtEach (Battle.Spares (me.currentHP, foe.currentHP)) (simulateBattle fl me foe r).1.events ↔
      ∀ s ∈ (Battle.start me foe r).strikes fl, ¬ Battle.ImmuneHit fl s := by
  have along := Battle.loop_induction fl (Battle.start me foe r)
    (P := fun past b =>
      Battle.hpAfter (me.currentHP, foe.currentHP) b.events = b.hp ∧
      (AtEach (Battle.Spares (me.currentHP, foe.currentHP)) b.events ↔
        ∀ s ∈ past, ¬ Battle.ImmuneHit fl s)) ?_ ?_ ?_
  · exact along.2
  · exact fun _ _ so_far => so_far
  · intro past b who so_far isOpen
    obtain ⟨hp, spared⟩ := so_far
    rw [Battle.strike_hp fl who isOpen, Battle.strike_events isOpen]
    refine ⟨Battle.hpAfter_concat _ _ _, ?_⟩
    rw [atEach_concat, spared, Battle.spares_iff hp, List.forall_mem_append,
      List.forall_mem_singleton]
  · refine ⟨rfl, iff_of_true atEach_nil ?_⟩
    intro s hs
    cases hs

/-- A monster of the sample roster. -/
def sample (i : Fin sampleMonsters.length) (level : ℤ) : MonsterInstance :=
  createMonsterInstance exactFloats (sampleMonsters.get i) level

/-- A normal one. It and a ghost do not hurt each other. -/
def dapplefawn : MonsterInstance := sample ⟨27, by decide⟩ 10
/-- The ghost. -/
def wispurr : MonsterInstance := sample ⟨19, by decide⟩ 10

/-- The first strike of their battle takes a point. -/
theorem not_spared_dapplefawn :
    ¬ AtEach (Battle.Spares (dapplefawn.currentHP, wispurr.currentHP))
      (simulateBattle exactFloats dapplefawn wispurr (Rng.new 0)).1.events := by
  intro spared
  have strike : (simulateBattle exactFloats dapplefawn wispurr (Rng.new 0)).1.events[0]? =
      some ⟨.foe, "Wispurr", "Strike Hit", some .normal, 1, 0, some false, false, none, 54, 48⟩ := by
    decide +kernel
  have none := (atEach_iff_getElem?.1 spared 0 _ strike rfl).1
  exact absurd none (by decide)

/-! ## Replay -/

namespace Battle

variable {fl} {b : Battle} {who : Side}

/-- A battle writes to the move caches of its monsters and to nothing else of them. -/
structure SameFighters (b b' : Battle) : Prop where
  me : stripMon b'.me = stripMon b.me
  foe : stripMon b'.foe = stripMon b.foe

theorem SameFighters.refl (b : Battle) : SameFighters b b := ⟨rfl, rfl⟩

theorem SameFighters.symm {b b' : Battle} (h : SameFighters b b') : SameFighters b' b :=
  ⟨h.me.symm, h.foe.symm⟩

theorem SameFighters.trans {b b' b'' : Battle} (h : SameFighters b b') (h' : SameFighters b' b'') :
    SameFighters b b'' := ⟨h'.me.trans h.me, h'.foe.trans h.foe⟩

theorem SameFighters.fighter {b b' : Battle} (h : SameFighters b b') (who : Side) :
    stripMon (b'.fighter who) = stripMon (b.fighter who) := by
  cases who with
  | me => exact h.me
  | foe => exact h.foe

/-- What does not read the cache is the same of both. -/
theorem SameFighters.same {α : Type} {f : MonsterInstance → α} (h : SameFighters b b')
    (blind : ∀ m, f (stripMon m) = f m) (who : Side) : f (b'.fighter who) = f (b.fighter who) := by
  rw [← blind, h.fighter who, blind]

/-- A strike changes nothing of the monsters but the cache. -/
theorem strike_sameFighters (b : Battle) (who : Side) : SameFighters b (b.strike fl who) := by
  unfold strike
  split
  · cases who <;> exact ⟨rfl, rfl⟩
  · exact .refl b

/-- The order of a turn depends on the speeds only. -/
theorem SameFighters.first {b b' : Battle} (h : SameFighters b b') : b'.first = b.first := by
  have spd := h.same (f := (·.stats.spd)) fun _ => rfl
  have mine : b'.me.stats.spd = b.me.stats.spd := spd .me
  have theirs : b'.foe.stats.spd = b.foe.stats.spd := spd .foe
  unfold Battle.first
  rw [mine, theirs]

/-- The log so far replays the fight so far. -/
structure Replayed (start b : Battle) : Prop where
  fighters : SameFighters start b
  nonneg : 0 ≤ b.myHP ∧ 0 ≤ b.foeHP
  each : AtEach (fun past ev => (past ++ [ev]).foldl replayEvent start.hp = ev.hp) b.events
  all : b.events.foldl replayEvent start.hp = b.hp
  last : hpAfter start.hp b.events = b.hp
  onFeet : AtEach (fun past _ => 0 < (hpAfter start.hp past).1 ∧ 0 < (hpAfter start.hp past).2)
    b.events

theorem replayEvent_nonneg (hp : ℤ × ℤ) (ev : BattleEvent) (nonneg : 0 ≤ hp.1 ∧ 0 ≤ hp.2) :
    0 ≤ (replayEvent hp ev).1 ∧ 0 ≤ (replayEvent hp ev).2 := by
  unfold replayEvent
  split
  · exact nonneg
  · split
    · exact ⟨nonneg.1, le_max_left _ _⟩
    · exact ⟨le_max_left _ _, nonneg.2⟩

/-- A strike keeps log and hit points together. -/
theorem Replayed.strike {start b : Battle} (h : Replayed start b) (isOpen : b.Open) (who : Side) :
    Replayed start (b.strike fl who) := by
  have written := strikeEvent_struck fl b who
  have hp := strike_hp fl who isOpen
  have left := replayEvent_nonneg b.hp (b.strikeEvent fl who).1 ⟨isOpen.1.le, isOpen.2.le⟩
  have onwards : (b.events ++ [(b.strikeEvent fl who).1]).foldl replayEvent start.hp =
      (b.strikeEvent fl who).1.hp := by
    rw [List.foldl_concat, h.all, written.hp]
  rw [← written.hp, ← hp] at left
  refine ⟨h.fighters.trans (strike_sameFighters b who), left, ?_, ?_, ?_, ?_⟩
  · rw [strike_events isOpen]
    exact atEach_concat.2 ⟨h.each, onwards⟩
  · rw [strike_events isOpen, hp]
    exact onwards
  · rw [strike_events isOpen, hp]
    exact hpAfter_concat _ _ _
  · rw [strike_events isOpen]
    refine atEach_concat.2 ⟨h.onFeet, ?_⟩
    rw [h.last]
    exact isOpen

/-- So does the whole battle. -/
theorem replayed_loop {start : Battle} (fresh : start.events = [])
    (nonneg : 0 ≤ start.myHP ∧ 0 ≤ start.foeHP) : Replayed start (start.loop fl) := by
  refine loop_induction fl start (P := fun _ b => Replayed start b) ?_ ?_ ?_
  · exact fun _ b h => ⟨⟨h.fighters.me, h.fighters.foe⟩, h.nonneg, h.each, h.all, h.last, h.onFeet⟩
  · exact fun _ b who h isOpen => h.strike isOpen who
  · refine ⟨.refl _, nonneg, ?_, ?_, ?_, ?_⟩
    all_goals rw [fresh]
    · exact atEach_nil
    · rfl
    · rfl
    · exact atEach_nil

/-! ### Turns -/

/-- The events come in one group for each turn, in the order of speed. -/
def Grouped (start b : Battle) : Prop :=
  ∃ groups : List (List BattleEvent), groups.length = b.turns ∧ groups.flatten = b.events ∧
    ∀ group ∈ groups, group.map (·.who) <+: [start.first, start.first.other]

/-- A turn adds the event of the faster one, and that of the other if it is still there. -/
theorem turn_events (fl : Floats) (isOpen : b.Open) : ∃ group, (b.turn fl).events = b.events ++ group ∧
    group.map (·.who) <+: [b.first, b.first.other] := by
  have isOpen' : b.tick.Open := isOpen
  have one := strikeEvent_struck fl b.tick b.first
  have two := strikeEvent_struck fl (b.tick.strike fl b.first) b.first.other
  unfold turn
  show ∃ group, ((b.tick.strike fl b.first).strike fl b.first.other).events = b.events ++ group ∧ _
  by_cases still : (b.tick.strike fl b.first).Open
  · refine ⟨[(b.tick.strikeEvent fl b.first).1,
      ((b.tick.strike fl b.first).strikeEvent fl b.first.other).1], ?_, ?_⟩
    · rw [strike_events still, strike_events isOpen', List.append_assoc]
      rfl
    · simp [one.side, two.side]
  · refine ⟨[(b.tick.strikeEvent fl b.first).1], ?_, ?_⟩
    · rw [Battle.strike, if_neg still, strike_events isOpen']
      rfl
    · simp [one.side]

theorem turn_sameFighters (b : Battle) : SameFighters b (b.turn fl) := by
  have both : SameFighters b.tick (b.turn fl) :=
    (strike_sameFighters b.tick b.first).trans (strike_sameFighters _ b.first.other)
  exact ⟨both.me, both.foe⟩

/-- The log falls into turns, each struck in the order of the speeds. -/
theorem grouped_loop {start : Battle} (fresh : start.events = []) (unstarted : start.turns = 0) :
    Grouped start (start.loop fl) := by
  obtain ⟨n, -, ends⟩ := loop_ends fl start
  refine (ends.invariant (P := fun b => SameFighters start b ∧ Grouped start b) ?_ ?_).2
  · exact ⟨.refl _, [], unstarted.symm, fresh.symm, fun _ h => nomatch h⟩
  · rintro b ⟨fighters, groups, count, events, ordered⟩ going
    obtain ⟨group, more, order⟩ := turn_events fl going.1
    refine ⟨fighters.trans (turn_sameFighters b), groups ++ [group], ?_, ?_, ?_⟩
    · rw [List.length_append, turn_turns, count]
      rfl
    · rw [List.flatten_append, more, events]
      simp
    · intro g hg
      rcases List.mem_append.1 hg with hg | hg
      · exact ordered g hg
      · rw [List.mem_singleton.1 hg, ← fighters.first]
        exact order

/-! ### Caps -/

/-- A hit of the log takes no more than its cap, or the one point that every hit takes. -/
def Capped (fl : Floats) (start : Battle) (ev : BattleEvent) : Prop :=
  ev.miss = false → ev.dmg ≤ max 1 (hitCap fl (start.fighter ev.who.other) ev.typeMod)

/-- No event of a battle takes more than its cap. -/
theorem capped_loop (fl : Floats) {start : Battle} (fresh : start.events = []) :
    ∀ ev ∈ (start.loop fl).events, Capped fl start ev := by
  refine (loop_induction fl start
    (P := fun _ b => SameFighters start b ∧ ∀ ev ∈ b.events, Capped fl start ev) ?_ ?_ ?_).2
  · exact fun _ b h => ⟨⟨h.1.me, h.1.foe⟩, h.2⟩
  · rintro - b who ⟨fighters, caps⟩ isOpen
    refine ⟨fighters.trans (strike_sameFighters b who), ?_⟩
    rw [strike_events isOpen]
    intro ev hev
    rcases List.mem_append.1 hev with hev | hev
    · exact caps ev hev
    · obtain rfl := List.mem_singleton.1 hev
      have written := strikeEvent_struck fl b who
      intro hit
      rw [written.side]
      have same := fighters.same (f := fun m => hitCap fl m (b.strikeEvent fl who).1.typeMod)
        (fun _ => rfl) who.other
      rw [← same]
      exact (written.dmg hit).2
  · refine ⟨.refl _, ?_⟩
    rw [fresh]
    exact fun ev hev => nomatch hev

/-- A battle ends within the turn cap. -/
theorem loop_turns {b : Battle} (below : b.turns ≤ battleTurnCap) :
    (b.loop fl).turns ≤ battleTurnCap := by
  obtain ⟨n, -, ends⟩ := loop_ends fl b
  refine ends.invariant (P := fun b => b.turns ≤ battleTurnCap) below ?_
  intro b _ going
  rw [turn_turns]
  exact going.2

/-- The cap of a hit on a monster with hit points, in exact arithmetic. -/
theorem hitCap_exact (exact : fl.Exact) {m : MonsterInstance} (positive : 0 < m.stats.hp)
    (typeMod : ℚ) : max 1 (hitCap fl m typeMod) =
      if 2 ≤ typeMod then ⌈(m.stats.hp : ℚ) * 0.4⌉ else ⌈(m.stats.hp : ℚ) * 0.3⌉ := by
  have points : (0 : ℚ) < m.stats.hp := Int.cast_pos.2 positive
  have whole : m.maxHP = m.stats.hp := if_neg positive.ne'
  have large : 1 ≤ ⌈(m.stats.hp : ℚ) * 0.4⌉ := Int.one_le_ceil_iff.2 (by positivity)
  have small : 1 ≤ ⌈(m.stats.hp : ℚ) * 0.3⌉ := Int.one_le_ceil_iff.2 (by positivity)
  unfold hitCap hitCapSuper hitCapNormal
  rw [whole, exact.round, exact.round]
  split_ifs
  · exact max_eq_right large
  · exact max_eq_right small

/-- Who has won, in exact arithmetic. -/
theorem won_iff (exact : fl.Exact) {me foe : MonsterInstance} {r : Rng} {b : Battle}
    (h : Replayed (start me foe r) b) (mine : 0 < me.stats.hp) (theirs : 0 < foe.stats.hp) :
    b.won fl = true ↔ b.foeHP = 0 ∨ (b.myHP ≠ 0 ∧ b.foeHP ≠ 0 ∧
      (b.foeHP : ℚ) / foe.stats.hp ≤ b.myHP / me.stats.hp) := by
  obtain ⟨myNonneg, foeNonneg⟩ := h.nonneg
  have myMax : b.me.maxHP = me.stats.hp :=
    (h.fighters.same (f := MonsterInstance.maxHP) (fun _ => rfl) .me).trans (if_neg mine.ne')
  have foeMax : b.foe.maxHP = foe.stats.hp :=
    (h.fighters.same (f := MonsterInstance.maxHP) (fun _ => rfl) .foe).trans (if_neg theirs.ne')
  unfold won
  rw [myMax, foeMax, exact.round, exact.round]
  by_cases foeDown : b.foeHP ≤ 0
  · rw [if_pos foeDown]
    exact iff_of_true rfl (.inl (by omega))
  · rw [if_neg foeDown]
    by_cases meDown : b.myHP ≤ 0
    · rw [if_pos meDown]
      refine iff_of_false Bool.false_ne_true ?_
      rintro (none | ⟨some_, -, -⟩)
      · omega
      · omega
    · rw [if_neg meDown, decide_eq_true_iff]
      constructor
      · intro more
        exact .inr ⟨by omega, by omega, more⟩
      · rintro (none | ⟨-, -, more⟩)
        · omega
        · exact more

/-- Nothing follows a fall. -/
theorem Replayed.onwards {start b : Battle} (h : Replayed start b) {i : ℕ} {ev : BattleEvent}
    (here : b.events[i]? = some ev) (more : i + 1 < b.events.length) : 0 < ev.myHP ∧ 0 < ev.foeHP := by
  have next := atEach_iff_getElem?.1 h.onFeet (i + 1) _ (List.getElem?_eq_getElem more)
  rwa [List.take_add_one, here, Option.toList_some, hpAfter_concat] at next

theorem start_order (me foe : MonsterInstance) (r : Rng) :
    [(start me foe r).first, (start me foe r).first.other] =
      if foe.stats.spd ≤ me.stats.spd then [Side.me, .foe] else [.foe, .me] := by
  unfold Battle.first start
  dsimp only
  split_ifs <;> rfl

/-- The caps of the hits on either side, in exact arithmetic. -/
theorem Capped.exact {me foe : MonsterInstance} {r : Rng} {ev : BattleEvent}
    (h : Capped fl (start me foe r) ev) (exact : fl.Exact) (myMax : 0 < me.stats.hp)
    (foeMax : 0 < foe.stats.hp) (hit : ev.miss = false) :
    let points : ℚ := (if ev.who = .me then foe else me).stats.hp
    ev.dmg ≤ ⌈points * 0.4⌉ ∧ (ev.typeMod < 2 → ev.dmg ≤ ⌈points * 0.3⌉) := by
  have target : (start me foe r).fighter ev.who.other = if ev.who = .me then foe else me := by
    cases ev.who <;> rfl
  have positive : 0 < (if ev.who = .me then foe else me).stats.hp := by
    split_ifs
    · exact foeMax
    · exact myMax
  have cap := h hit
  rw [target] at cap
  generalize (if ev.who = .me then foe else me) = m at cap positive ⊢
  have less : ⌈(m.stats.hp : ℚ) * 0.3⌉ ≤ ⌈(m.stats.hp : ℚ) * 0.4⌉ := by
    have nonneg : (0 : ℚ) ≤ m.stats.hp := Int.cast_nonneg positive.le
    exact Int.ceil_le_ceil (mul_le_mul_of_nonneg_left (by norm_num) nonneg)
  rw [hitCap_exact exact positive] at cap
  constructor
  · split_ifs at cap
    · exact cap
    · exact cap.trans less
  · intro plain
    rwa [if_neg (not_le.2 plain)] at cap

end Battle

/-- **The battle log replays the fight.** Caps and winner are those of exact arithmetic. -/
theorem battle_log_replays {me foe : MonsterInstance} (myHP : 0 < me.currentHP)
    (foeHP : 0 < foe.currentHP) (myMax : 0 < me.stats.hp) (foeMax : 0 < foe.stats.hp) (r : Rng) :
    let out := (simulateBattle fl me foe r).1
    -- folding the events gives the hit points of every event and of the result
    AtEach (fun past ev => (past ++ [ev]).foldl replayEvent (me.currentHP, foe.currentHP) = ev.hp)
      out.events ∧
    out.events.foldl replayEvent (me.currentHP, foe.currentHP) = (out.myHP, out.foeHP) ∧
    -- nothing follows a fall
    (∀ i ev, out.events[i]? = some ev → i + 1 < out.events.length → 0 < ev.myHP ∧ 0 < ev.foeHP) ∧
    -- turns
    out.turnsUsed ≤ battleTurnCap ∧
    (∃ groups : List (List BattleEvent), groups.length = out.turnsUsed ∧
      groups.flatten = out.events ∧ ∀ group ∈ groups, group.map (·.who) <+:
        if foe.stats.spd ≤ me.stats.spd then [.me, .foe] else [.foe, .me]) ∧
    (fl.Exact →
      -- caps
      (∀ ev ∈ out.events, ev.miss = false →
        let points : ℚ := (if ev.who = .me then foe else me).stats.hp
        ev.dmg ≤ ⌈points * 0.4⌉ ∧ (ev.typeMod < 2 → ev.dmg ≤ ⌈points * 0.3⌉)) ∧
      -- the winner
      (out.won = true ↔ out.foeHP = 0 ∨ (out.myHP ≠ 0 ∧ out.foeHP ≠ 0 ∧
        (out.foeHP : ℚ) / foe.stats.hp ≤ out.myHP / me.stats.hp))) := by
  have replayed : Battle.Replayed (Battle.start me foe r) ((Battle.start me foe r).loop fl) :=
    Battle.replayed_loop rfl ⟨myHP.le, foeHP.le⟩
  have grouped : Battle.Grouped (Battle.start me foe r) ((Battle.start me foe r).loop fl) :=
    Battle.grouped_loop rfl rfl
  have turns : ((Battle.start me foe r).loop fl).turns ≤ battleTurnCap :=
    Battle.loop_turns (Nat.zero_le _)
  have capped : ∀ ev ∈ ((Battle.start me foe r).loop fl).events,
      Battle.Capped fl (Battle.start me foe r) ev := Battle.capped_loop fl rfl
  unfold simulateBattle
  dsimp only
  generalize (Battle.start me foe r).loop fl = b at *
  refine ⟨replayed.each, replayed.all, fun _ _ => replayed.onwards, turns, ?_, fun exact => ⟨?_,
    Battle.won_iff exact replayed myMax foeMax⟩⟩
  · obtain ⟨groups, count, flat, ordered⟩ := grouped
    rw [Battle.start_order] at ordered
    exact ⟨groups, count, flat, ordered⟩
  · exact fun ev hev hit => (capped ev hev).exact exact myMax foeMax hit

theorem battle_log_replays_dapplefawn :
    (simulateBattle exactFloats dapplefawn wispurr (Rng.new 0)).1.events.foldl replayEvent
        (dapplefawn.currentHP, wispurr.currentHP) =
      ((simulateBattle exactFloats dapplefawn wispurr (Rng.new 0)).1.myHP,
        (simulateBattle exactFloats dapplefawn wispurr (Rng.new 0)).1.foeHP) :=
  have points : (0 < dapplefawn.currentHP ∧ 0 < wispurr.currentHP) ∧
      0 < dapplefawn.stats.hp ∧ 0 < wispurr.stats.hp := by decide +kernel
  (battle_log_replays exactFloats points.1.1 points.1.2 points.2.1 points.2.2
    (Rng.new 0)).2.1

end Pokeage.Game
