import Pokeage.Game.Engine

/-!
# Offline progression

`offline.ts`: the ticks of the time a player was away, and what has changed by them. The clock is a
number of milliseconds, which need not be whole. The line that a client prints of the summary is left
out.
-/

namespace Pokeage.Game

/-- What an absence has brought. -/
structure OfflineSummary where
  ticks : ℤ
  durationMs : ℚ
  capped : Bool
  battles : ℤ
  caught : ℤ
  levels : ℤ
  badges : ℤ
  deriving DecidableEq, Repr

/-- Hours of absence that count at most. -/
def maxOfflineHours : ℚ := 24
/-- Milliseconds a tick stands for. -/
def tickMs : ℚ := 15000

/-- `MAX_OFFLINE_HOURS * 3600 * 1000`. -/
def maxMs : ℚ := maxOfflineHours * 3600 * 1000

/-- The counters that a summary compares. -/
structure Snapshot where
  battles : ℤ
  caught : ℤ
  badges : ℤ
  teamLv : ℤ
  deriving DecidableEq, Repr

/-- The counters of an engine as it stands. -/
def snapshot (e : Engine) : Snapshot where
  battles := e.trainer.totalBattles
  caught := e.trainer.totalCaught
  badges := e.trainer.badges.length
  teamLv := e.trainer.team.foldl (fun s m => s + orElse m.level 0) 0

/-- Catch up on `elapsedMs` of absence. -/
def runOfflineCatchup (env : Env) (e : Engine) (elapsedMs : ℚ) : OfflineSummary × Engine :=
  let capped := maxMs < elapsedMs
  let cappedMs := min (max 0 elapsedMs) maxMs
  let ticks := ⌊env.fl (cappedMs / tickMs)⌋
  let before := snapshot e
  let e := Engine.ticks env ticks.toNat e
  let after := snapshot e
  ({ ticks
     durationMs := cappedMs
     capped
     battles := after.battles - before.battles
     caught := after.caught - before.caught
     levels := after.teamLv - before.teamLv
     badges := after.badges - before.badges }, e)

end Pokeage.Game
