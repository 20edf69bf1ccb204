import Pokeage.Infra.Rounding
import Pokeage.Game.Properties.Growth
import Pokeage.Game.Properties.Opponents

/-!
# Doubles

The numbers of the engine's host language carry 53 significant bits and round to the nearest, ties to
even. They meet what is asked of `Floats` (`doubleFloats_ordered`, `doubleFloats_parts`). Their exponents
have no bounds here: results are about the doubles of a script as far as nothing overflows and nothing is
subnormal.
-/

namespace Pokeage.Game

open Infra.Rounding

/-- The arithmetic of doubles. Which power `Math.pow` gives is up to the host. -/
def doubleFloats (pow : ℚ → ℚ → ℚ) : Floats := ⟨roundTo 53, pow⟩

variable (pow : ℚ → ℚ → ℚ)

/-- Rounding to doubles keeps the order. -/
theorem doubleFloats_ordered : (doubleFloats pow).Ordered where
  mono := roundTo_mono (by decide)
  zero := show roundTo 53 0 = 0 from roundTo_zero

/-- A fraction below one of a count stays below the count. -/
theorem doubleFloats_parts : (doubleFloats pow).Parts := by
  intro u n nonneg le pos
  exact roundTo_part (by decide) nonneg le (by norm_num) (Int.cast_pos.2 pos)

end Pokeage.Game
