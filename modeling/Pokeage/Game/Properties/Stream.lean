import Pokeage.Infra.Words
import Pokeage.Game.Rng

/-!
# One stream of draws

The state of the generator is a counter with an odd stride. So there is a single cycle of draws, as long
as there are states, and a seed only says where on it to begin (`one_stream`).

A text seed is hashed with an odd factor. Two texts that differ in one code unit begin in different
places (`rngFromString_ne`).
-/

namespace Pokeage.Game

open Infra.Words

namespace Rng

/-- The generator after so many draws. -/
def after (r : Rng) (n : ℕ) : Rng := (fun r => r.next.2)^[n] r

/-- The draw that comes after so many others. -/
def draw (r : Rng) (n : ℕ) : ℚ := (r.after n).next.1

/-- What each draw adds to the state. -/
def stride : UInt32 := 0x6d2b79f5

theorem stride_inv : stride * 0xdc58aa5d = 1 := by decide

/-- Draws add one step each. -/
theorem after_state (r : Rng) (n : ℕ) : (r.after n).state = (· + stride)^[n] r.state := by
  unfold after
  induction n with
  | zero => rfl
  | succ n ih =>
    rw [Function.iterate_succ_apply', Function.iterate_succ_apply', ← ih]
    rfl

theorem after_eq_iff (r q : Rng) (n : ℕ) : r.after n = q ↔ (· + stride)^[n] r.state = q.state := by
  rw [← after_state]
  constructor
  · intro h
    rw [h]
  · intro h
    cases q
    exact congrArg Rng.mk h

theorem after_add (r : Rng) (k n : ℕ) : r.after (k + n) = (r.after k).after n := by
  unfold after
  rw [Nat.add_comm, Function.iterate_add_apply]

end Rng

/-- **All generators draw from one stream.** Some number of draws, below the number of states, leads from
the one to the other, whose draws are then the later ones of the first; and it is led there again every
time the whole cycle is through. -/
theorem one_stream (r q : Rng) :
    ∃ k < 2 ^ 32, (∀ n, q.draw n = r.draw (k + n)) ∧ ∀ n, r.after n = q ↔ n % 2 ^ 32 = k := by
  have below := (((q.state - r.state) * 0xdc58aa5d : UInt32)).toNat_lt
  have there : r.after ((q.state - r.state) * 0xdc58aa5d).toNat = q :=
    (Rng.after_eq_iff r q _).2 (iterate_add_reaches Rng.stride_inv r.state q.state)
  refine ⟨_, below, fun n => ?_, fun n => ?_⟩
  · unfold Rng.draw
    rw [Rng.after_add, there]
  · have arrives := (Rng.after_eq_iff r q _).1 there
    rw [Rng.after_eq_iff]
    generalize ((q.state - r.state) * 0xdc58aa5d).toNat = k at below arrives
    rw [← arrives, iterate_add_eq_iff Rng.stride_inv, Nat.mod_eq_of_lt below]

/-! ## Text seeds -/

/-- A round of the hash loses nothing of the state. -/
theorem hashCode_state (code : UInt32) : Function.Injective fun h => hashCode h code := by
  intro h h' same
  have keyed := mul_right_cancel (d := 0x359c449b) (by decide) same
  exact (UInt32.xor_left_inj _).1 keyed

/-- Nor of the code unit. -/
theorem hashCode_code (h : UInt32) : Function.Injective (hashCode h) := by
  intro code code' same
  have keyed := mul_right_cancel (d := 0x359c449b) (by decide) same
  exact (UInt32.xor_right_inj _).1 keyed

theorem Rng.new_injective : Function.Injective fun seed => Rng.new seed := by
  intro seed seed' same
  exact (UInt32.xor_left_inj _).1 (congrArg Rng.state same)

/-- **One different code unit is another generator.** -/
theorem rngFromString_ne {seed seed' : String} {before after : List UInt32} {code code' : UInt32}
    (codes : charCodes seed = before ++ code :: after)
    (codes' : charCodes seed' = before ++ code' :: after) (ne : code ≠ code') :
    rngFromString seed ≠ rngFromString seed' := by
  unfold rngFromString
  rw [codes, codes']
  exact Rng.new_injective.ne (foldl_ne hashCode_state hashCode_code ne _ before after)

/-- Two wallets that differ in a letter. -/
theorem rngFromString_ne_wallets : rngFromString "9xQe" ≠ rngFromString "9xqe" :=
  @rngFromString_ne _ _ [57, 120] [101] 81 113 (by decide) (by decide) (by decide)

end Pokeage.Game
