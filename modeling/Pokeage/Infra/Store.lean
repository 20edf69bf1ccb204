import Mathlib.Algebra.BigOperators.Group.Finset.Basic
import Mathlib.Algebra.Order.BigOperators.Group.Finset

/-!
# Stores

A store is a partial map together with the finite set of the keys it holds, so that quantities can
be summed over all of its entries. Every operation comes with its `get` and its `total`:

* `set` replaces one entry, `erase` drops one, `modify` rewrites one that is there
* `total f` sums `f k v` over the entries; an operation changes it by one entry's share
-/

namespace Infra

/-- A partial map that knows its keys. -/
structure Store (κ α : Type) [DecidableEq κ] where
  get : κ → Option α
  keys : Finset κ
  mem_keys : ∀ k, k ∈ keys ↔ (get k).isSome

namespace Store

variable {κ α : Type} [DecidableEq κ]

/-- Stores with the same entries are the same. -/
@[ext] theorem ext {m n : Store κ α} (h : ∀ k, m.get k = n.get k) : m = n := by
  have hget : m.get = n.get := funext h
  have hkeys : m.keys = n.keys := by
    ext k
    rw [m.mem_keys, n.mem_keys, h k]
  cases m; cases n
  simp only at hget hkeys
  subst hget hkeys
  rfl

/-- No entry. -/
def empty : Store κ α where
  get := fun _ => none
  keys := ∅
  mem_keys := by simp

@[simp] theorem get_empty (k : κ) : (empty : Store κ α).get k = none := rfl

/-- Write an entry. -/
def set (m : Store κ α) (k : κ) (v : α) : Store κ α where
  get := fun j => if j = k then some v else m.get j
  keys := insert k m.keys
  mem_keys := by
    intro j
    rw [Finset.mem_insert, m.mem_keys]
    by_cases h : j = k <;> simp [h]

/-- Remove an entry. -/
def erase (m : Store κ α) (k : κ) : Store κ α where
  get := fun j => if j = k then none else m.get j
  keys := m.keys.erase k
  mem_keys := by
    intro j
    rw [Finset.mem_erase, m.mem_keys]
    by_cases h : j = k <;> simp [h]

/-- Rewrite the entry at `k`, if there is one. -/
def modify (m : Store κ α) (k : κ) (g : α → α) : Store κ α where
  get := fun j => if j = k then (m.get k).map g else m.get j
  keys := m.keys
  mem_keys := by
    intro j
    rw [m.mem_keys]
    by_cases h : j = k <;> simp [h]

theorem get_set (m : Store κ α) (k j : κ) (v : α) :
    (m.set k v).get j = if j = k then some v else m.get j := rfl

@[simp] theorem get_set_self (m : Store κ α) (k : κ) (v : α) : (m.set k v).get k = some v := by
  simp [get_set]

theorem get_set_ne (m : Store κ α) {k j : κ} (v : α) (h : j ≠ k) :
    (m.set k v).get j = m.get j := by
  simp [get_set, h]

theorem get_erase (m : Store κ α) (k j : κ) :
    (m.erase k).get j = if j = k then none else m.get j := rfl

theorem get_erase_ne (m : Store κ α) {k j : κ} (h : j ≠ k) : (m.erase k).get j = m.get j := by
  simp [get_erase, h]

theorem get_modify (m : Store κ α) (k j : κ) (g : α → α) :
    (m.modify k g).get j = if j = k then (m.get k).map g else m.get j := rfl

theorem get_modify_self (m : Store κ α) (k : κ) (g : α → α) :
    (m.modify k g).get k = (m.get k).map g := by
  simp [get_modify]

theorem get_modify_ne (m : Store κ α) {k j : κ} (g : α → α) (h : j ≠ k) :
    (m.modify k g).get j = m.get j := by
  simp [get_modify, h]

/-- Rewriting an entry is setting it to its rewritten value. -/
theorem modify_eq_set {m : Store κ α} {k : κ} {v : α} (h : m.get k = some v) (g : α → α) :
    m.modify k g = m.set k (g v) := by
  ext1 j
  rw [get_modify, get_set, h]
  rfl

/-! ## Sums over the entries -/

/-- The share of the entry at `k`. -/
def share (m : Store κ α) (f : κ → α → ℕ) (k : κ) : ℕ := (m.get k).elim 0 (f k)

/-- The sum of `f` over all entries. -/
def total (m : Store κ α) (f : κ → α → ℕ) : ℕ := ∑ k ∈ m.keys, m.share f k

/-- How many entries there are. -/
def card (m : Store κ α) : ℕ := m.keys.card

theorem share_some {m : Store κ α} {k : κ} {v : α} (h : m.get k = some v) (f : κ → α → ℕ) :
    m.share f k = f k v := by
  simp [share, h]

theorem share_none {m : Store κ α} {k : κ} (h : m.get k = none) (f : κ → α → ℕ) :
    m.share f k = 0 := by
  simp [share, h]

/-- The total is the share of one key and the total of the others. -/
theorem total_eq_share_add (m : Store κ α) (f : κ → α → ℕ) (k : κ) :
    m.total f = m.share f k + ∑ j ∈ m.keys.erase k, m.share f j := by
  unfold total
  by_cases h : k ∈ m.keys
  · exact (Finset.add_sum_erase _ _ h).symm
  · have hk : m.share f k = 0 := by
      refine share_none ?_ f
      rw [m.mem_keys] at h
      simpa using h
    rw [hk, Nat.zero_add, Finset.erase_eq_of_notMem h]

/-- Removing an entry takes its share. -/
theorem total_erase (m : Store κ α) (f : κ → α → ℕ) (k : κ) :
    (m.erase k).total f + m.share f k = m.total f := by
  rw [m.total_eq_share_add f k, Nat.add_comm]
  congr 1
  refine Finset.sum_congr rfl fun j hj => ?_
  simp [share, get_erase_ne m (Finset.ne_of_mem_erase hj)]

/-- Writing an entry replaces its share. -/
theorem total_set (m : Store κ α) (f : κ → α → ℕ) (k : κ) (v : α) :
    (m.set k v).total f + m.share f k = m.total f + f k v := by
  have hrest : ∑ j ∈ (insert k m.keys).erase k, (m.set k v).share f j
      = ∑ j ∈ m.keys.erase k, m.share f j := by
    rw [Finset.erase_insert_eq_erase]
    refine Finset.sum_congr rfl fun j hj => ?_
    simp [share, get_set_ne m v (Finset.ne_of_mem_erase hj)]
  rw [total_eq_share_add (m.set k v) f k, m.total_eq_share_add f k,
    share_some (get_set_self m k v) f]
  show f k v + ∑ j ∈ (insert k m.keys).erase k, (m.set k v).share f j + _ = _
  rw [hrest]
  omega

theorem total_set_new {m : Store κ α} {k : κ} (h : m.get k = none) (f : κ → α → ℕ) (v : α) :
    (m.set k v).total f = m.total f + f k v := by
  have := m.total_set f k v
  rwa [share_none h, Nat.add_zero] at this

/-- Rewriting an entry replaces its share. -/
theorem total_modify {m : Store κ α} {k : κ} {v : α} (h : m.get k = some v) (f : κ → α → ℕ)
    (g : α → α) : (m.modify k g).total f + f k v = m.total f + f k (g v) := by
  have := m.total_set f k (g v)
  rwa [← modify_eq_set h g, share_some h] at this

theorem share_le_total (m : Store κ α) (f : κ → α → ℕ) (k : κ) : m.share f k ≤ m.total f := by
  rw [m.total_eq_share_add f k]
  exact Nat.le_add_right _ _

/-- An entry counts at most the total. -/
theorem le_total {m : Store κ α} {k : κ} {v : α} (h : m.get k = some v) (f : κ → α → ℕ) :
    f k v ≤ m.total f := by
  rw [← share_some h f]
  exact m.share_le_total f k

/-- Two different entries together are at most the total. -/
theorem add_le_total {m : Store κ α} {k j : κ} {v w : α} (hkj : k ≠ j) (hk : m.get k = some v)
    (hj : m.get j = some w) (f : κ → α → ℕ) : f k v + f j w ≤ m.total f := by
  have h := m.total_erase f k
  have hle := le_total (m := m.erase k) (k := j) (by rw [get_erase_ne m hkj.symm, hj]) f
  rw [share_some hk f] at h
  omega

/-- The total depends on the entries only. -/
theorem total_congr {m : Store κ α} {f g : κ → α → ℕ}
    (h : ∀ k v, m.get k = some v → f k v = g k v) : m.total f = m.total g := by
  refine Finset.sum_congr rfl fun k hk => ?_
  obtain ⟨v, hv⟩ := Option.isSome_iff_exists.mp ((m.mem_keys k).mp hk)
  rw [share_some hv f, share_some hv g, h k v hv]

theorem total_eq_zero {m : Store κ α} {f : κ → α → ℕ} (h : ∀ k v, m.get k = some v → f k v = 0) :
    m.total f = 0 := by
  rw [total_congr (g := fun _ _ => 0) h]
  refine Finset.sum_eq_zero fun k _ => ?_
  unfold share
  cases m.get k <;> rfl

/-- Counting is summing ones. -/
theorem card_eq_total (m : Store κ α) : m.card = m.total fun _ _ => 1 := by
  unfold card total
  rw [Finset.card_eq_sum_ones]
  refine Finset.sum_congr rfl fun k hk => ?_
  obtain ⟨v, hv⟩ := Option.isSome_iff_exists.mp ((m.mem_keys k).mp hk)
  rw [share_some hv]

/-- A new entry is one more. -/
theorem card_set_new {m : Store κ α} {k : κ} (h : m.get k = none) (v : α) :
    (m.set k v).card = m.card + 1 := by
  rw [card_eq_total, card_eq_total, total_set_new h]

end Store

end Infra
