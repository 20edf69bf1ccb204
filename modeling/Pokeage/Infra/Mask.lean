import Mathlib.Data.List.Induction
import Mathlib.Data.Nat.BitIndices
import Mathlib.Data.Nat.Bitwise

/-!
# Bit masks

A mask holds a set of indices. `mask` sets the bits of a list of them, one after the other.
-/

namespace Infra.Mask

/-- The mask with these bits set. -/
def mask (is : List ℕ) : ℕ := is.foldl (fun b i => b ||| 1 <<< i) 0

variable {is : List ℕ} {b i j n : ℕ}

@[simp] theorem mask_nil : mask [] = 0 := rfl

theorem mask_concat : mask (is ++ [i]) = mask is ||| 1 <<< i := by
  unfold mask
  rw [List.foldl_concat]

theorem testBit_or_bit : (b ||| 1 <<< i).testBit j = true ↔ b.testBit j = true ∨ j = i := by
  rw [Nat.one_shiftLeft, Nat.testBit_or, Nat.testBit_two_pow, Bool.or_eq_true, decide_eq_true_eq,
    eq_comm (a := i)]

/-- Whether a bit is set, as a program asks for it. -/
theorem and_bit_ne_zero : b &&& 1 <<< i ≠ 0 ↔ b.testBit i = true := by
  rw [Nat.one_shiftLeft, Nat.and_two_pow]
  cases b.testBit i <;> simp

/-- The bits of a mask are its indices. -/
theorem testBit_mask : (mask is).testBit j = true ↔ j ∈ is := by
  induction is using List.reverseRecOn with
  | nil => simp
  | append_singleton is i ih => rw [mask_concat, testBit_or_bit, ih, List.mem_append, List.mem_singleton]

/-- A mask of small indices is small. -/
theorem mask_lt (below : ∀ i ∈ is, i < n) : mask is < 2 ^ n := by
  refine Nat.lt_pow_two_of_testBit _ fun j hj => ?_
  rw [Bool.eq_false_iff]
  intro set
  have := below j (testBit_mask.1 set)
  omega

/-- Every set bit comes from an index of the list. -/
theorem length_bitIndices_mask (is : List ℕ) : (mask is).bitIndices.length ≤ is.length := by
  have known : (mask is).bitIndices ⊆ is := fun j hj => testBit_mask.1 (Nat.mem_bitIndices.1 hj)
  exact (List.subperm_of_subset Nat.bitIndices_nodup known).length_le

end Infra.Mask
