import Pokeage.Game.Properties.BattleLog
import Pokeage.Game.Properties.Levelling

/-!
# The move cache

A monster fills its cache of moves when it first strikes and keeps it. Levelling leaves the cache, a
save drops it. `Alike` relates two fights that differ in caches only; as long as the moves are the same
it is kept by every strike. A strike with the moves of another level shows in the log, by the name of
its move.
-/

namespace Pokeage.Game

open Infra.Loop

variable {fl : Floats}

/-! ## Moves by level -/

/-- Levels of one bracket pick the same tier. -/
theorem pickTier_congr {level level' : ℤ} (same : powerCap level = powerCap level') (arr : List Move)
    (n : ℕ) : pickTier arr n level = pickTier arr n level' := by
  unfold pickTier
  rw [same]

/-- Of the level, the moves depend on the power cap only. -/
theorem getMonMoves_congr (type : MonsterType) {level level' : ℤ}
    (same : powerCap (orElse level 5) = powerCap (orElse level' 5)) :
    getMonMoves type level = getMonMoves type level' := by
  unfold getMonMoves
  dsimp only
  rw [pickTier_congr same, pickTier_congr same]

/-- The choice asks only whether a move would be super effective. -/
theorem choose_congr (pool : List Move) {q q' : ℚ} (same : 2 ≤ q ↔ 2 ≤ q') :
    choose pool q = choose pool q' := by
  unfold choose
  simp only [same]

/-- One level under each power cap. -/
def brackets : List ℤ := [5, 16, 28, 40]

/-- Every level has the cap of a bracket. -/
theorem exists_bracket (level : ℤ) :
    ∃ l ∈ brackets, powerCap (orElse l 5) = powerCap (orElse level 5) := by
  generalize orElse level 5 = lv
  unfold powerCap
  split_ifs
  · exact ⟨40, by decide⟩
  · exact ⟨28, by decide⟩
  · exact ⟨16, by decide⟩
  · exact ⟨5, by decide⟩

/-- Under different caps a type chooses moves of different names. -/
theorem choose_brackets (type : MonsterType) : ∀ q ∈ [(0 : ℚ), 2],
    (brackets.map fun level => (choose (getMonMoves type level) q).name).Nodup := by
  cases type <;> decide +kernel

/-- Two move sets that choose alike are the same. -/
theorem getMonMoves_of_choose {type : MonsterType} {level level' : ℤ} {q : ℚ}
    (same : (choose (getMonMoves type level) q).name = (choose (getMonMoves type level') q).name) :
    getMonMoves type level = getMonMoves type level' := by
  obtain ⟨l, hl, cap⟩ := exists_bracket level
  obtain ⟨l', hl', cap'⟩ := exists_bracket level'
  obtain ⟨p, hp, effective⟩ : ∃ p ∈ [(0 : ℚ), 2], (2 ≤ q ↔ 2 ≤ p) := by
    by_cases effective : 2 ≤ q
    · exact ⟨2, by simp, by simp [effective]⟩
    · exact ⟨0, by simp, by simp [effective]⟩
  rw [← getMonMoves_congr type cap, ← getMonMoves_congr type cap', choose_congr _ effective,
    choose_congr _ effective] at same
  obtain rfl := List.inj_on_of_nodup_map (choose_brackets type p hp) hl hl' same
  exact getMonMoves_congr type (cap.symm.trans cap')

/-! ## Monsters with a history -/

/-- Made, and then taken through fights on either side and grants of experience. -/
inductive Seasoned (fl : Floats) : MonsterInstance → Prop
  | created (template : MonsterTemplate) (level : ℤ) :
      Seasoned fl (createMonsterInstance fl template level)
  | attacked {m : MonsterInstance} (seasoned : Seasoned fl m) (foe : MonsterInstance) (r : Rng) :
      Seasoned fl (simulateBattle fl m foe r).2.1
  | defended {m : MonsterInstance} (seasoned : Seasoned fl m) (me : MonsterInstance) (r : Rng) :
      Seasoned fl (simulateBattle fl me m r).2.2.1
  | trained {m : MonsterInstance} (seasoned : Seasoned fl m) (amount : ℤ) (template : MonsterTemplate) :
      Seasoned fl (grantXp fl m amount template).1

/-- What the cache holds, if it holds anything, is what a monster of this level has. -/
def MonsterInstance.Fresh (m : MonsterInstance) : Prop :=
  ∀ cached, m.moves = some cached → cached = getMonMoves m.type m.level

theorem MonsterInstance.fresh_iff {m : MonsterInstance} :
    m.Fresh ↔ m.pool = getMonMoves m.type m.level := by
  unfold Fresh pool
  cases m.moves with
  | none => simp
  | some cached => simp

namespace Battle

variable {b b' : Battle} {who : Side}

/-- A strike fills a cache with the moves that were fought with anyway. -/
theorem strike_pool (b : Battle) (who side : Side) :
    ((b.strike fl who).fighter side).pool = (b.fighter side).pool := by
  unfold strike
  split
  · cases who <;> cases side <;> rfl
  · rfl

/-- A battle leaves the pool of each side as it was. -/
theorem loop_pool (b : Battle) (side : Side) :
    ((b.loop fl).fighter side).pool = (b.fighter side).pool := by
  refine loop_induction fl b (P := fun _ b' => (b'.fighter side).pool = (b.fighter side).pool) ?_ ?_ rfl
  · intro _ b' same
    cases side <;> exact same
  · intro _ b' who same _
    rw [strike_pool, same]

/-- A battle changes nothing of the monsters but the cache. -/
theorem loop_sameFighters (fl : Floats) (b : Battle) : SameFighters b (b.loop fl) := by
  refine loop_induction fl b (P := fun _ b' => SameFighters b b') ?_ ?_ (.refl b)
  · exact fun _ _ same => ⟨same.me, same.foe⟩
  · exact fun _ b' who same _ => same.trans (strike_sameFighters b' who)

end Battle

/-- The moves of a monster with a history are those of some level. -/
theorem Seasoned.pool {m : MonsterInstance} (seasoned : Seasoned fl m) :
    ∃ level, m.pool = getMonMoves m.type level := by
  have fought : ∀ (b : Battle) side, (∃ level, (b.fighter side).pool =
      getMonMoves (b.fighter side).type level) → ∃ level, ((b.loop fl).fighter side).pool =
      getMonMoves ((b.loop fl).fighter side).type level := by
    intro b side known
    have type := (Battle.loop_sameFighters fl b).same (f := (·.type)) (fun _ => rfl) side
    rw [Battle.loop_pool, type]
    exact known
  induction seasoned with
  | created template level => exact ⟨level, rfl⟩
  | @attacked m _ foe r ih => exact fought (Battle.start m foe r) .me ih
  | @defended m _ me r ih => exact fought (Battle.start me m r) .foe ih
  | @trained m _ amount template ih =>
    have type : (grantXp fl m amount template).1.type = m.type :=
      grantXp_same (fun _ _ _ _ _ _ => rfl) m amount
    have moves : (grantXp fl m amount template).1.moves = m.moves :=
      grantXp_same (fun _ _ _ _ _ _ => rfl) m amount
    unfold MonsterInstance.pool at ih ⊢
    rw [moves, type]
    cases cached : m.moves with
    | none => exact ⟨_, rfl⟩
    | some pool =>
      rw [cached] at ih
      exact ih

/-! ## Two fights that differ in caches -/

theorem Side.eq_other {side who : Side} (h : side ≠ who) : side = who.other := by
  revert h
  cases side <;> cases who <;> simp [Side.other]

namespace Battle

variable {b b' : Battle} {sides : Side → Prop} {who : Side}

/-- Same fighters but for their caches, and on these sides the same moves. -/
structure Alike (sides : Side → Prop) (b b' : Battle) : Prop where
  fighters : SameFighters b b'
  pool : ∀ who, sides who → (b'.fighter who).pool = (b.fighter who).pool
  myHP : b'.myHP = b.myHP
  foeHP : b'.foeHP = b.foeHP
  turns : b'.turns = b.turns
  events : b'.events = b.events
  rng : b'.rng = b.rng

theorem Alike.isOpen (h : Alike sides b b') : b'.Open ↔ b.Open := by
  unfold Open
  rw [h.myHP, h.foeHP]

theorem Alike.going (h : Alike sides b b') : b'.Going ↔ b.Going := by
  unfold Going
  rw [h.isOpen, h.turns]

theorem Alike.tick (h : Alike sides b b') : Alike sides b.tick b'.tick :=
  ⟨⟨h.fighters.me, h.fighters.foe⟩, by
    intro who hw
    have same := h.pool who hw
    cases who <;> exact same, h.myHP, h.foeHP, congrArg (· + 1) h.turns, h.events, h.rng⟩

theorem SameFighters.typeMod (h : SameFighters b b') (who : Side) :
    b'.typeMod who = b.typeMod who := by
  have type := h.same (f := (·.type)) fun _ => rfl
  unfold Battle.typeMod
  rw [type, type]

theorem move_eq (b : Battle) (who : Side) :
    (b.move who).1 = choose (b.fighter who).pool (b.typeMod who) := by
  unfold move pickMove
  rfl

/-- A strike is the same of both. It reads the moves of the attacker, and nothing of a cache besides. -/
theorem Alike.strikeEvent (fl : Floats) (h : Alike sides b b') (known : sides who) :
    b'.strikeEvent fl who = b.strikeEvent fl who := by
  have name := h.fighters.same (f := (·.name)) (fun _ => rfl) who
  have typeMod := h.fighters.typeMod who
  have move : (b'.move who).1 = (b.move who).1 := by
    rw [move_eq, move_eq, typeMod, h.pool who known]
  have hit : ∀ mv r, landHit fl (b'.fighter who) (b'.fighter who.other) mv r =
      landHit fl (b.fighter who) (b.fighter who.other) mv r := by
    intro mv r
    have blind : ∀ atk target, landHit fl (stripMon atk) (stripMon target) mv r =
        landHit fl atk target mv r := fun _ _ => rfl
    rw [← blind, h.fighters.fighter, h.fighters.fighter, blind]
  have misses : b'.Misses fl who ↔ b.Misses fl who := by
    unfold Misses
    rw [move, h.rng]
  unfold Battle.strikeEvent
  dsimp only
  rw [name, typeMod, move, h.myHP, h.foeHP, h.rng, hit]
  by_cases missed : b.Misses fl who
  · rw [if_pos missed, if_pos (misses.2 missed)]
  · rw [if_neg missed, if_neg (mt misses.1 missed)]

/-- Strikes of a side that is known to be alike stay alike. -/
theorem Alike.strike (h : Alike sides b b') (known : sides who) :
    Alike sides (b.strike fl who) (b'.strike fl who) := by
  by_cases isOpen : b.Open
  · have ev := h.strikeEvent fl known
    have fighters : SameFighters (b.strike fl who) (b'.strike fl who) :=
      (strike_sameFighters b who).symm.trans (h.fighters.trans (strike_sameFighters b' who))
    have pool : ∀ side, sides side →
        ((b'.strike fl who).fighter side).pool = ((b.strike fl who).fighter side).pool := by
      intro side hs
      rw [strike_pool, strike_pool, h.pool side hs]
    rw [strike_of_open isOpen, strike_of_open (h.isOpen.2 isOpen)] at fighters pool ⊢
    refine ⟨fighters, pool, ?_, ?_, ?_, ?_, ?_⟩
    · exact congrArg (·.1.myHP) ev
    · exact congrArg (·.1.foeHP) ev
    · cases who <;> exact h.turns
    · exact congrArg₂ (· ++ [·]) h.events (congrArg (·.1) ev)
    · exact congrArg (·.2) ev
  · unfold Battle.strike
    rw [if_neg isOpen, if_neg (mt h.isOpen.1 isOpen)]
    exact h

/-- So do turns, if both sides are. -/
theorem Alike.turn (h : Alike (fun _ => True) b b') :
    Alike (fun _ => True) (b.turn fl) (b'.turn fl) := by
  unfold Battle.turn
  rw [h.fighters.first]
  exact (h.tick.strike trivial).strike trivial

/-- **Fights with the same moves are the same** but for the caches. -/
theorem Alike.loop (h : Alike (fun _ => True) b b') :
    Alike (fun _ => True) (b.loop fl) (b'.loop fl) := by
  obtain ⟨n, -, ends⟩ := loop_ends fl b
  obtain ⟨n', -, ends'⟩ := loop_ends fl b'
  refine ends.simulation ends' h (fun _ _ h => h.going.symm) ?_
  intro _ _ h _
  exact h.turn

/-- What a fight that is over returns. -/
def result (fl : Floats) (b : Battle) : BattleResult :=
  ⟨b.won fl, b.myHP, b.foeHP, b.turns, b.events⟩

/-- Battles that are alike end alike. -/
theorem Alike.result (h : Alike sides b b') : b'.result fl = b.result fl := by
  have maxHP := h.fighters.same (f := MonsterInstance.maxHP) fun _ => rfl
  have mine : b'.me.maxHP = b.me.maxHP := maxHP .me
  have theirs : b'.foe.maxHP = b.foe.maxHP := maxHP .foe
  unfold Battle.result won
  rw [mine, theirs, h.myHP, h.foeHP, h.turns, h.events]

/-! ## The first strike of a side -/

/-- Both stand, and if the other side is the faster one its first strike does not end the fight. -/
def GetsToStrike (fl : Floats) (b : Battle) (who : Side) : Prop :=
  b.Open ∧ (b.first = who ∨ (b.strike fl b.first).Open)

theorem Alike.getsToStrike (h : Alike (· = who.other) b b') (gets : GetsToStrike fl b who) :
    GetsToStrike fl b' who := by
  obtain ⟨isOpen, gets⟩ := gets
  refine ⟨h.isOpen.2 isOpen, ?_⟩
  rw [h.fighters.first]
  by_cases mine : b.first = who
  · exact .inl mine
  · exact .inr ((h.strike (Side.eq_other mine)).isOpen.2 (gets.resolve_left mine))

theorem strike_tick (b : Battle) (who : Side) : b.tick.strike fl who = (b.strike fl who).tick := by
  by_cases isOpen : b.Open
  · rw [strike_of_open isOpen, strike_of_open (b := b.tick) isOpen]
    cases who <;> rfl
  · rw [Battle.strike, Battle.strike, if_neg isOpen, if_neg (show ¬ b.tick.Open from isOpen)]

/-- A strike only adds to the log. -/
theorem strike_extends (b : Battle) (who : Side) : b.events <+: (b.strike fl who).events := by
  by_cases isOpen : b.Open
  · rw [strike_events isOpen]
    exact List.prefix_append _ _
  · exact ⟨[], by rw [Battle.strike, if_neg isOpen, List.append_nil]⟩

/-- A battle only adds to the log. -/
theorem loop_extends (b : Battle) : b.events <+: (b.loop fl).events := by
  refine loop_induction fl b (P := fun _ b' => b.events <+: b'.events) ?_ ?_ (List.prefix_refl _)
  · exact fun _ _ so_far => so_far
  · exact fun _ b' who so_far _ => so_far.trans (strike_extends b' who)

theorem loop_of_going (going : b.Going) : b.loop fl = (b.turn fl).loop fl := by
  rw [loop]
  exact if_pos going

/-- With somebody down there is no turn. -/
theorem loop_of_not_open (ended : ¬ b.Open) : b.loop fl = b := by
  rw [loop]
  exact if_neg fun going => ended going.1

/-- A first strike that ends the fight is all there is. -/
theorem loop_of_knockout (going : b.Going) (down : ¬ (b.strike fl b.first).Open) :
    b.loop fl = b.tick.strike fl b.first := by
  have down' : ¬ (b.tick.strike fl b.first).Open := by
    rw [strike_tick]
    exact down
  have once : b.turn fl = b.tick.strike fl b.first := if_neg down'
  rw [loop_of_going going, once, loop_of_not_open down']

/-- The log of a fight begins with the strikes of its first turn. -/
theorem turn_extends (going : b.Going) : (b.turn fl).events <+: (b.loop fl).events := by
  rw [loop_of_going going]
  exact loop_extends _

/-- The move of the first strike of a side is in the log. -/
theorem first_move (fresh : b.events = []) (unstarted : b.turns = 0) (gets : GetsToStrike fl b who) :
    ((b.loop fl).events[if b.first = who then 0 else 1]?).map (·.move) =
      some (choose (b.fighter who).pool (b.typeMod who)).name := by
  obtain ⟨isOpen, gets⟩ := gets
  have isOpen' : b.tick.Open := isOpen
  have going : b.Going := ⟨isOpen, by rw [unstarted]; decide⟩
  have one := (strikeEvent_struck fl b.tick b.first).name
  have fresh' : b.tick.events = [] := fresh
  by_cases mine : b.first = who
  · have begun := (strike_extends (b.tick.strike fl b.first) b.first.other).trans (turn_extends going)
    rw [strike_events isOpen', fresh', List.nil_append] at begun
    obtain ⟨later, log⟩ := begun
    subst mine
    rw [← log, if_pos rfl, List.getElem?_append_left (by simp)]
    exact congrArg some one
  · have other : b.first.other = who := by
      revert mine
      cases b.first <;> cases who <;> simp [Side.other]
    have still : (b.tick.strike fl b.first).Open := by
      rw [strike_tick]
      exact gets.resolve_left mine
    have begun : ((b.tick.strike fl b.first).strike fl b.first.other).events <+:
        (b.loop fl).events := turn_extends going
    rw [strike_events still, strike_events isOpen', fresh', other] at begun
    have two := (strikeEvent_struck fl (b.tick.strike fl b.first) who).name
    rw [move_eq, strike_pool, (strike_sameFighters b.tick b.first).typeMod who] at two
    obtain ⟨later, log⟩ := begun
    rw [← log, if_neg mine]
    exact congrArg some two

end Battle

/-! ## A monster and its copy without cache -/

/-- The fight of a monster, on this side, with an opponent. -/
def against (who : Side) (m opponent : MonsterInstance) (r : Rng) : Battle :=
  match who with
  | .me => .start m opponent r
  | .foe => .start opponent m r

/-- What `simulateBattle` returns for it. -/
def fight (fl : Floats) (who : Side) (m opponent : MonsterInstance) (r : Rng) : BattleResult :=
  match who with
  | .me => (simulateBattle fl m opponent r).1
  | .foe => (simulateBattle fl opponent m r).1

variable {who : Side} {m opponent : MonsterInstance} {r : Rng} {sides : Side → Prop}

theorem fight_eq : fight fl who m opponent r = ((against who m opponent r).loop fl).result fl := by
  cases who <;> rfl

/-- Without its cache a monster is alike on the other side, and on its own if the cache is fresh. -/
theorem against_alike (fresh : sides who → m.Fresh) :
    Battle.Alike sides (against who m opponent r) (against who (stripMon m) opponent r) := by
  have own : sides who → (stripMon m).pool = m.pool := fun h =>
    (MonsterInstance.fresh_iff.1 (fresh h)).symm
  cases who with
  | me =>
    refine ⟨⟨rfl, rfl⟩, ?_, rfl, rfl, rfl, rfl, rfl⟩
    intro side hs
    cases side with
    | me => exact own hs
    | foe => rfl
  | foe =>
    refine ⟨⟨rfl, rfl⟩, ?_, rfl, rfl, rfl, rfl, rfl⟩
    intro side hs
    cases side with
    | me => rfl
    | foe => exact own hs

theorem against_alike_other (who : Side) (m opponent : MonsterInstance) (r : Rng) :
    Battle.Alike (· = who.other) (against who m opponent r) (against who (stripMon m) opponent r) := by
  refine against_alike fun own => ?_
  cases who <;> cases own

theorem against_fighter : (against who m opponent r).fighter who = m := by
  cases who <;> rfl

theorem against_new (who : Side) (m opponent : MonsterInstance) (r : Rng) :
    (against who m opponent r).events = [] ∧ (against who m opponent r).turns = 0 := by
  cases who <;> exact ⟨rfl, rfl⟩

/-- A fight in which a monster does not strike does not read its moves. -/
theorem fight_of_not_getsToStrike
    (idle : ¬ Battle.GetsToStrike fl (against who m opponent r) who) :
    fight fl who m opponent r = fight fl who (stripMon m) opponent r := by
  have alike := against_alike_other who m opponent r
  have unstarted := against_new who m opponent r
  rw [fight_eq, fight_eq]
  generalize against who m opponent r = b at *
  generalize against who (stripMon m) opponent r = b' at *
  by_cases isOpen : b.Open
  · have theirs : b.first ≠ who := fun mine => idle ⟨isOpen, .inl mine⟩
    have down : ¬ (b.strike fl b.first).Open := fun still => idle ⟨isOpen, .inr still⟩
    have going : b.Going := ⟨isOpen, by rw [unstarted.2]; decide⟩
    have down' : ¬ (b'.strike fl b'.first).Open := by
      rw [alike.fighters.first, (alike.strike (Side.eq_other theirs)).isOpen]
      exact down
    rw [Battle.loop_of_knockout going down, Battle.loop_of_knockout (alike.going.2 going) down',
      alike.fighters.first]
    exact ((alike.tick.strike (Side.eq_other theirs)).result).symm
  · rw [Battle.loop_of_not_open isOpen, Battle.loop_of_not_open (mt alike.isOpen.1 isOpen)]
    exact alike.result.symm

/-- A strike shows which moves were fought with. -/
theorem fresh_of_fight (seasoned : Seasoned fl m)
    (gets : Battle.GetsToStrike fl (against who m opponent r) who)
    (same : fight fl who m opponent r = fight fl who (stripMon m) opponent r) : m.Fresh := by
  have alike := against_alike_other who m opponent r
  have unstarted := against_new who m opponent r
  have unstarted' := against_new who (stripMon m) opponent r
  have move := Battle.first_move unstarted.1 unstarted.2 gets
  have move' := Battle.first_move unstarted'.1 unstarted'.2 (alike.getsToStrike gets)
  have log : ((against who m opponent r).loop fl).events =
      ((against who (stripMon m) opponent r).loop fl).events := by
    rw [fight_eq, fight_eq] at same
    exact congrArg BattleResult.events same
  rw [alike.fighters.first, alike.fighters.typeMod, ← log, move, against_fighter,
    against_fighter, Option.some_inj] at move'
  obtain ⟨level, known⟩ := seasoned.pool
  rw [MonsterInstance.fresh_iff, known]
  rw [known] at move'
  exact getMonMoves_of_choose move'

/-- **When battles are independent of history.** A monster with a history fights as its copy without
cached moves does, if and only if what it has cached is what its level has, or it does not get to
strike. -/
theorem fight_stripMon_iff (seasoned : Seasoned fl m) (opponent : MonsterInstance) (r : Rng)
    (who : Side) : fight fl who m opponent r = fight fl who (stripMon m) opponent r ↔
      m.Fresh ∨ ¬ Battle.GetsToStrike fl (against who m opponent r) who := by
  constructor
  · intro same
    by_cases gets : Battle.GetsToStrike fl (against who m opponent r) who
    · exact .inl (fresh_of_fight seasoned gets same)
    · exact .inr gets
  · rintro (fresh | idle)
    · rw [fight_eq, fight_eq]
      exact ((against_alike fun _ => fresh).loop.result).symm
    · exact fight_of_not_getsToStrike idle

/-- An opponent at level fifteen. -/
def pyrothane : MonsterInstance := sample ⟨5, by decide⟩ 15

/-- One at level fifteen that has fought, and then was taken to level sixteen. -/
def foughtCindercub : MonsterInstance :=
  (simulateBattle exactFloats (sample ⟨3, by decide⟩ 15) pyrothane (Rng.new 0)).2.1
/-- The same one a level later. -/
def trainedCindercub : MonsterInstance :=
  (grantXp exactFloats foughtCindercub 8000 (sampleMonsters.get ⟨3, by decide⟩)).1

theorem fight_foughtCindercub : fight exactFloats .me foughtCindercub pyrothane (Rng.new 1) =
    fight exactFloats .me (stripMon foughtCindercub) pyrothane (Rng.new 1) :=
  have fresh : foughtCindercub.pool = getMonMoves foughtCindercub.type foughtCindercub.level := by
    decide +kernel
  (fight_stripMon_iff (.attacked (.created _ _) _ _) pyrothane (Rng.new 1) .me).2
    (.inl (MonsterInstance.fresh_iff.2 fresh))

/-- It goes on with the moves of level fifteen. -/
theorem not_fight_trainedCindercub : ¬ ∀ m, Seasoned exactFloats m → ∀ who opponent r,
    fight exactFloats who m opponent r = fight exactFloats who (stripMon m) opponent r := by
  intro same
  have seasoned : Seasoned exactFloats trainedCindercub := .trained (.attacked (.created _ _) _ _) _ _
  have first := congrArg (fun out : BattleResult => out.events[1]?.map (·.move))
    (same trainedCindercub seasoned .me pyrothane (Rng.new 0))
  have old : (fight exactFloats .me trainedCindercub pyrothane (Rng.new 0)).events[1]?.map (·.move) =
      some "Strike Hit" := by decide +kernel
  have new : (fight exactFloats .me (stripMon trainedCindercub) pyrothane
      (Rng.new 0)).events[1]?.map (·.move) = some "Body Ram" := by decide +kernel
  rw [old, new] at first
  exact absurd first (by decide)

end Pokeage.Game
