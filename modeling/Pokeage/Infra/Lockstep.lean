import Mathlib.Logic.Function.Iterate
import Mathlib.Tactic.Common

/-!
# Two deterministic machines in lockstep

`f` and `g` are stepped side by side from `a` and `b`. `Inv k` is what holds of the two states after
`k` steps as long as nothing has told them apart, and `Safe k` says that step `k` does not.

If an unsafe step always shows, then the two agree exactly as long as every step is safe.
-/

namespace Infra.Lockstep

variable {σ τ : Type} {f : σ → σ} {g : τ → τ} {a : σ} {b : τ} {Inv : ℕ → σ → τ → Prop}
  {Agree : σ → τ → Prop} {Safe : ℕ → Prop}

theorem inv_of_safe (start : Inv 0 a b)
    (keep : ∀ k s r, Inv k s r → Safe k → Inv (k + 1) (f s) (g r)) (k : ℕ)
    (safe : ∀ j < k, Safe j) : Inv k (f^[k] a) (g^[k] b) := by
  induction k with
  | zero => exact start
  | succ k ih =>
    have before := ih fun j hj => safe j (Nat.lt_succ_of_lt hj)
    rw [Function.iterate_succ_apply', Function.iterate_succ_apply']
    exact keep k _ _ before (safe k (Nat.lt_succ_self k))

/-- Agreeing runs have made safe steps only. The induction looks for the first unsafe one, since
the invariant still holds before it. -/
theorem safe_of_agree (start : Inv 0 a b)
    (keep : ∀ k s r, Inv k s r → Safe k → Inv (k + 1) (f s) (g r))
    (part : ∀ k s r, Inv k s r → ¬ Safe k → ¬ Agree (f s) (g r)) (m : ℕ)
    (hagree : ∀ k ≤ m, Agree (f^[k] a) (g^[k] b)) : ∀ k < m, Safe k := by
  intro k
  induction k using Nat.strongRecOn with
  | ind k ih =>
    intro hk
    have inv := inv_of_safe start keep k fun j hj => ih j hj (Nat.lt_trans hj hk)
    by_contra unsafeStep
    have next := hagree (k + 1) hk
    rw [Function.iterate_succ_apply', Function.iterate_succ_apply'] at next
    exact part k _ _ inv unsafeStep next

/-- **Two machines agree up to `m` if and only if the first `m` steps are safe.** -/
theorem agree_iff_safe (start : Inv 0 a b) (agree : ∀ k s r, Inv k s r → Agree s r)
    (keep : ∀ k s r, Inv k s r → Safe k → Inv (k + 1) (f s) (g r))
    (part : ∀ k s r, Inv k s r → ¬ Safe k → ¬ Agree (f s) (g r)) (m : ℕ) :
    (∀ k ≤ m, Agree (f^[k] a) (g^[k] b)) ↔ ∀ k < m, Safe k := by
  constructor
  · exact safe_of_agree start keep part m
  · intro safe k hk
    have inv := inv_of_safe start keep k fun j hj => safe j (Nat.lt_of_lt_of_le hj hk)
    exact agree k _ _ inv

end Infra.Lockstep
