import Pokeage.Game.Engine

/-!
# Batches of runs

`balance.ts`. Many seeded runs, and the means of what they came to, to two digits. The sums are of integers
and exact.
-/

namespace Pokeage.Game

/-- What a batch of runs reports: averages over the runs, and the share of those with all badges. -/
structure BatchReport where
  runs : ℕ
  ticks : ℕ
  avgBadges : ℚ
  avgCaught : ℚ
  avgBattles : ℚ
  avgTeamLevel : ℚ
  fullClearRate : ℚ
  deriving DecidableEq, Repr

/-- What a batch has counted so far. -/
structure Totals where
  badges : ℕ
  caught : ℕ
  battles : ℕ
  teamLevel : ℤ
  fullClears : ℕ
  deriving DecidableEq, Repr

/-- Nothing counted. -/
def Totals.zero : Totals := ⟨0, 0, 0, 0, 0⟩

/-- The trainer of one more run is counted in. -/
def Totals.add (totals : Totals) (t : Trainer) : Totals where
  badges := totals.badges + t.badges.length
  caught := totals.caught + t.totalCaught
  battles := totals.battles + t.totalBattles
  teamLevel := totals.teamLevel + t.team.foldl (fun s m => s + m.level) 0
  fullClears := if 12 ≤ t.badges.length then totals.fullClears + 1 else totals.fullClears

section

variable (fl : Floats)

/-- `Math.round(v * 100) / 100`. Halves are rounded up. -/
def round2 (v : ℚ) : ℚ := fl (⌊fl (v * 100) + 1 / 2⌋ / 100)

/-- The mean of a count over `n` runs. -/
def average (total n : ℚ) : ℚ := round2 fl (fl (total / n))

variable {σ : Type} (makeEngine : σ → Env × Engine)

/-- The trainer that the run of a seed leaves. The engine comes with the world and the options it was built
with. -/
def playthrough (ticks : ℕ) (seed : σ) : Trainer :=
  (Engine.ticks (makeEngine seed).1 ticks (makeEngine seed).2).trainer

/-- The totals of one run for each seed. -/
def batchTotals (seeds : List σ) (ticks : ℕ) : Totals :=
  seeds.foldl (fun totals seed => totals.add (playthrough makeEngine ticks seed)) .zero

/-- Run many seeds for the same number of ticks and report the averages. -/
def runBatch (seeds : List σ) (ticks : ℕ) : BatchReport :=
  let totals := batchTotals makeEngine seeds ticks
  let n : ℚ := (max 1 seeds.length : ℕ)
  { runs := seeds.length
    ticks
    avgBadges := average fl totals.badges n
    avgCaught := average fl totals.caught n
    avgBattles := average fl totals.battles n
    avgTeamLevel := average fl totals.teamLevel n
    fullClearRate := average fl totals.fullClears n }

end

end Pokeage.Game
