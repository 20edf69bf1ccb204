import Mathlib.Algebra.Group.Nat.Defs
import Mathlib.Logic.Function.Iterate
import Mathlib.Tactic.Common

/-!
# Machine words under odd constants

A constant with an inverse modulo `2 ^ 32` makes two things work on words: a counter that it advances
goes through every word before it comes back (`iterate_add_eq_iff`, `iterate_add_reaches`), and a hash
that multiplies by it loses nothing of what it was fed (`foldl_ne`).
-/

namespace Infra.Words

variable {c d : UInt32}

theorem mul_right_cancel (inv : c * d = 1) {x y : UInt32} (h : x * c = y * c) : x = y := by
  have times := congrArg (· * d) h
  simpa only [UInt32.mul_assoc, inv, UInt32.mul_one] using times

/-! ## Counters -/

theorem iterate_add (c s : UInt32) (n : ℕ) : (· + c)^[n] s = s + UInt32.ofNat n * c := by
  induction n with
  | zero => simp
  | succ n ih =>
    rw [Function.iterate_succ_apply', ih]
    show s + UInt32.ofNat n * c + c = _
    rw [UInt32.ofNat_add, UInt32.add_mul, UInt32.add_assoc]
    simp

/-- A counter is where it was exactly after a multiple of the number of words. -/
theorem iterate_add_eq_iff (inv : c * d = 1) (s : UInt32) (n m : ℕ) :
    (· + c)^[n] s = (· + c)^[m] s ↔ n % 2 ^ 32 = m % 2 ^ 32 := by
  rw [iterate_add, iterate_add, UInt32.add_right_inj]
  constructor
  · intro h
    have words := congrArg UInt32.toNat (mul_right_cancel inv h)
    simpa using words
  · intro h
    have words : UInt32.ofNat n = UInt32.ofNat m := by
      rw [← UInt32.toNat_inj]
      simpa using h
    rw [words]

/-- And it reaches every word. -/
theorem iterate_add_reaches (inv : c * d = 1) (s t : UInt32) :
    (· + c)^[((t - s) * d).toNat] s = t := by
  rw [iterate_add, UInt32.ofNat_toNat, UInt32.mul_assoc, UInt32.mul_comm d, inv, UInt32.mul_one,
    UInt32.add_comm, UInt32.sub_add_cancel]

/-! ## Hashes -/

variable {σ α : Type} {step : σ → α → σ}

theorem foldl_injective (state : ∀ a, Function.Injective (step · a)) (as : List α) :
    Function.Injective fun s => as.foldl step s := by
  induction as with
  | nil => exact Function.injective_id
  | cons a as ih => exact ih.comp (state a)

/-- **Two inputs that differ in one place give different results.** -/
theorem foldl_ne (state : ∀ a, Function.Injective (step · a)) (symbol : ∀ s, Function.Injective (step s))
    {a b : α} (ne : a ≠ b) (s : σ) (before after : List α) :
    (before ++ a :: after).foldl step s ≠ (before ++ b :: after).foldl step s := by
  intro same
  simp only [List.foldl_append, List.foldl_cons] at same
  exact ne (symbol _ (foldl_injective state after same))

end Infra.Words
