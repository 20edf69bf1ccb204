import Pokeage.Game.Battle

/-!
# Status effects

`status.ts`: what one turn of a status does to its holder. Damage is a part of the maximum of hit points,
and a status may cost the turn or end.
-/

namespace Pokeage.Game

/-- The conditions a move may inflict. -/
inductive StatusKind where
  | burn
  | poison
  | paralyze
  | freeze
  | sleep
  deriving DecidableEq, Repr

/-- `STATUS_DOT`: the share of the maximum that a turn takes. -/
def statusDot : StatusKind → Option ℚ
  | .burn => some (1 / 16)
  | .poison => some (1 / 8)
  | _ => none

/-- `STATUS_SKIP_CHANCE`: how often the turn is lost. -/
def statusSkipChance : StatusKind → Option ℚ
  | .paralyze => some 0.25
  | .freeze => some 1
  | .sleep => some 1
  | _ => none

/-- `STATUS_CLEAR_CHANCE`: how often the condition ends before the turn. -/
def statusClearChance : StatusKind → Option ℚ
  | .freeze => some 0.2
  | .sleep => some 0.34
  | _ => none

/-- What a turn under a condition does. -/
structure StatusTick where
  damage : ℤ
  immobilized : Bool
  cleared : Bool
  deriving DecidableEq, Repr

variable (fl : Floats)

/-- `p && rng.chance(p)` for an entry of a table. -/
def rollEntry (p : Option ℚ) (r : Rng) : Bool × Rng :=
  match p with
  | some p => if p = 0 then (false, r) else r.chance (fl p)
  | none => (false, r)

/-- One turn of a status. -/
def applyStatusTick (mon : MonsterInstance) (status : Option StatusKind) (r : Rng) :
    StatusTick × MonsterInstance × Rng :=
  match status with
  | none => (⟨0, false, false⟩, mon, r)
  | some status =>
    let clear := rollEntry fl (statusClearChance status) r
    if clear.1 then (⟨0, false, true⟩, mon, clear.2)
    else
      let skip := rollEntry fl (statusSkipChance status) clear.2
      match statusDot status with
      | none => (⟨0, skip.1, false⟩, mon, skip.2)
      | some dot =>
        let dmg := max 1 ⌊fl (mon.maxHP * dot)⌋
        (⟨dmg, skip.1, false⟩, { mon with currentHP := max 0 (mon.currentHP - dmg) }, skip.2)

end Pokeage.Game
