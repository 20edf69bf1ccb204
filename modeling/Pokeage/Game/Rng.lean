import Pokeage.Game.Types

/-!
# The generator

`rng.ts`: mulberry32. The state is 32 bits wide and every draw advances it once, by one fixed step.
A draw returns its value and the generator after it.
-/

namespace Pokeage.Game

/-- A generator is its state. -/
structure Rng where
  state : UInt32
  deriving DecidableEq, Repr

namespace Rng

/-- `new Rng(seed)`. -/
def new (seed : UInt32 := 0x2545f491) : Rng := ⟨seed ^^^ 0x9e3779b9⟩

/-- The next fraction in `[0, 1)`. Dividing by a power of two is exact. -/
def next (r : Rng) : ℚ × Rng :=
  let state := r.state + 0x6d2b79f5
  let t := (state ^^^ (state >>> 15)) * (state ||| 1)
  let t := t ^^^ (t + (t ^^^ (t >>> 7)) * (t ||| 61))
  (((t ^^^ (t >>> 14)).toNat : ℚ) / 4294967296, ⟨state⟩)

/-- An integer between the two bounds, both included and in either order. Only the product is rounded:
the sums are of integers within 2⁵³. -/
def int (fl : Floats) (r : Rng) (min max : ℤ) : ℤ × Rng :=
  let lo := if max < min then max else min
  let hi := if max < min then min else max
  let u := r.next
  (lo + ⌊fl (u.1 * (hi - lo + 1))⌋, u.2)

/-- A fraction between the two bounds. -/
def float (fl : Floats) (r : Rng) (min max : ℚ) : ℚ × Rng :=
  let u := r.next
  (fl (min + fl (u.1 * fl (max - min))), u.2)

/-- True with probability `p`. A certain outcome draws nothing. -/
def chance (r : Rng) (p : ℚ) : Bool × Rng :=
  if p ≤ 0 then (false, r)
  else if 1 ≤ p then (true, r)
  else
    let u := r.next
    (u.1 < p, u.2)

/-- Read an array at a number: nothing outside of it. -/
def at? {α : Type} (arr : List α) (i : ℤ) : Option α := if 0 ≤ i then arr[i.toNat]? else none

/-- An element of an array, nothing of an empty one. -/
def pick {α : Type} (fl : Floats) (r : Rng) (arr : List α) : Option α × Rng :=
  let u := r.next
  (at? arr ⌊fl (u.1 * arr.length)⌋, u.2)

/-- The state, to be saved. -/
def snapshot (r : Rng) : UInt32 := r.state

/-- A generator put back to a saved state. -/
def restore (_ : Rng) (state : UInt32) : Rng := ⟨state⟩

/-- A restored snapshot is the generator it was taken from. -/
@[simp] theorem restore_snapshot (r q : Rng) : q.restore r.snapshot = r := rfl

end Rng

/-! ## Seeds from text -/

/-- The UTF-16 code units of a character. -/
def utf16 (c : Char) : List UInt32 :=
  if c.val < 0x10000 then [c.val]
  else
    let v := c.val - 0x10000
    [(0xd800 : UInt32) ||| (v >>> 10), (0xdc00 : UInt32) ||| (v &&& 0x3ff)]

/-- What `charCodeAt` gives, from the first to the last. -/
def charCodes (s : String) : List UInt32 := s.toList.flatMap utf16

/-- One round of the hash. `Math.imul` keeps the low word of the product. -/
def hashCode (h code : UInt32) : UInt32 := (h ^^^ code) * 0x01000193

/-- A generator from any text, such as a wallet's address. -/
def rngFromString (seed : String) : Rng := .new ((charCodes seed).foldl hashCode 0x811c9dc5)

end Pokeage.Game
