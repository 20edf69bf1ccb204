import Mathlib.Algebra.BigOperators.Group.Finset.Piecewise
import Mathlib.Algebra.GroupWithZero.Nat
import Mathlib.Algebra.Order.BigOperators.Group.Finset

/-!
# Balances

A balance sheet is a function from accounts to amounts. `move` debits one account and then credits
another, reading the second after the first was written, so that one account filling both roles is
left as it was. `move_net` says what it does to each account, `sum_move` that nothing is lost.

`moves` makes several transfers one after the other; `moves_net` and `sum_moves` say the same of them,
whichever of their accounts are one.
-/

namespace Infra.Balance

variable {κ : Type} [DecidableEq κ]

/-- Debit `src` by `n`, then credit `dst`. -/
def move (l : κ → ℕ) (src dst : κ) (n : ℕ) : κ → ℕ :=
  Function.update (Function.update l src (l src - n)) dst
    (Function.update l src (l src - n) dst + n)

/-- Move all that `src` holds. -/
def sweep (l : κ → ℕ) (src dst : κ) : κ → ℕ := move l src dst (l src)

variable {l : κ → ℕ} {src dst k : κ} {n : ℕ}

/-- **What a move does to one account.** Debits and credits stand on opposite sides. -/
theorem move_net (h : n ≤ l src) (k : κ) :
    move l src dst n k + (if k = src then n else 0) = l k + (if k = dst then n else 0) := by
  unfold move
  by_cases hd : k = dst
  · subst hd
    by_cases hs : k = src
    · subst hs; simp; omega
    · simp [hs]
  · by_cases hs : k = src
    · subst hs; simp [hd]; omega
    · simp [hd, hs]

/-- A move touches two accounts only. -/
theorem move_of_ne (hs : k ≠ src) (hd : k ≠ dst) : move l src dst n k = l k := by
  simp [move, hs, hd]

theorem move_dst (h : src ≠ dst) : move l src dst n dst = l dst + n := by
  simp [move, h.symm]

/-- Moving to the account itself changes nothing. -/
theorem move_self (h : n ≤ l src) : move l src src n = l := by
  funext k
  have := @move_net _ _ l src src n h k
  omega

theorem move_zero : move l src dst 0 = l := by
  funext k
  have := @move_net _ _ l src dst 0 (Nat.zero_le _) k
  simpa using this

/-- Only the source can lose. -/
theorem le_move (h : k ≠ src) : l k ≤ move l src dst n k := by
  by_cases hd : k = dst
  · subst hd
    rw [move_dst h.symm]
    omega
  · rw [move_of_ne h hd]

theorem le_sweep (h : k ≠ src) : l k ≤ sweep l src dst k := le_move h

/-! ## Conservation -/

/-- A move within a set of accounts keeps its sum. -/
theorem sum_move {S : Finset κ} (h : n ≤ l src) (hs : src ∈ S) (hd : dst ∈ S) :
    ∑ k ∈ S, move l src dst n k = ∑ k ∈ S, l k := by
  have hnet : ∑ k ∈ S, (move l src dst n k + (if k = src then n else 0))
      = ∑ k ∈ S, (l k + (if k = dst then n else 0)) :=
    Finset.sum_congr rfl fun k _ => move_net h k
  rw [Finset.sum_add_distrib, Finset.sum_add_distrib, Finset.sum_ite_eq' S src,
    Finset.sum_ite_eq' S dst, if_pos hs, if_pos hd] at hnet
  omega

/-- All accounts together hold less than `b`, however many of them are counted. -/
def Bounded (l : κ → ℕ) (b : ℕ) : Prop := ∀ S : Finset κ, ∑ k ∈ S, l k < b

/-- Two accounts together stay below the bound. -/
theorem Bounded.add_lt {b : ℕ} (h : Bounded l b) {j : κ} (hkj : k ≠ j) : l k + l j < b := by
  have := h {k, j}
  rwa [Finset.sum_pair hkj] at this

/-- A covered move makes nothing. -/
theorem Bounded.move {b : ℕ} (h : Bounded l b) (hn : n ≤ l src) :
    Bounded (move l src dst n) b := by
  intro S
  calc ∑ k ∈ S, Balance.move l src dst n k
      ≤ ∑ k ∈ insert src (insert dst S), Balance.move l src dst n k :=
        Finset.sum_le_sum_of_subset fun k hk => by simp [hk]
    _ = ∑ k ∈ insert src (insert dst S), l k := sum_move hn (by simp) (by simp)
    _ < b := h _

theorem Bounded.sweep {b : ℕ} (h : Bounded l b) : Bounded (sweep l src dst) b :=
  h.move le_rfl

/-! ## Several transfers -/

/-- An amount that goes from one account to another. -/
structure Transfer (κ : Type) where
  src : κ
  dst : κ
  amount : ℕ
  deriving DecidableEq, Repr

/-- One transfer after the other. -/
def moves (l : κ → ℕ) (ts : List (Transfer κ)) : κ → ℕ :=
  ts.foldl (fun l t => move l t.src t.dst t.amount) l

/-- Each source holds the amount when its turn comes. -/
def Covered : (κ → ℕ) → List (Transfer κ) → Prop
  | _, [] => True
  | l, t :: ts => t.amount ≤ l t.src ∧ Covered (move l t.src t.dst t.amount) ts

/-- What an account sends. -/
def sent (ts : List (Transfer κ)) (k : κ) : ℕ :=
  (ts.map fun t => if k = t.src then t.amount else 0).sum

/-- What it receives. -/
def received (ts : List (Transfer κ)) (k : κ) : ℕ :=
  (ts.map fun t => if k = t.dst then t.amount else 0).sum

variable {ts us : List (Transfer κ)}

/-- Transfers go one after the other. -/
theorem moves_append : moves l (ts ++ us) = moves (moves l ts) us := List.foldl_append

/-- Later transfers are covered by what earlier ones leave. -/
theorem covered_append : Covered l (ts ++ us) ↔ Covered l ts ∧ Covered (moves l ts) us := by
  induction ts generalizing l with
  | nil => simp [Covered, moves]
  | cons t ts ih => exact (and_congr_right fun _ => ih).trans and_assoc.symm

theorem sent_append (ts us : List (Transfer κ)) (k : κ) :
    sent (ts ++ us) k = sent ts k + sent us k := by
  simp [sent]

theorem received_append (ts us : List (Transfer κ)) (k : κ) :
    received (ts ++ us) k = received ts k + received us k := by
  simp [received]

/-- **What the transfers do to one account:** the net of what it sends and receives. -/
theorem moves_net (covered : Covered l ts) (k : κ) :
    moves l ts k + sent ts k = l k + received ts k := by
  induction ts generalizing l with
  | nil => rfl
  | cons t ts ih =>
    have one := @move_net _ _ l t.src t.dst t.amount covered.1 k
    have rest : moves l (t :: ts) k + sent ts k =
        move l t.src t.dst t.amount k + received ts k := ih covered.2
    unfold sent received at rest ⊢
    rw [List.map_cons, List.sum_cons, List.map_cons, List.sum_cons]
    omega

/-- **Nothing is lost** among the accounts that take part. -/
theorem sum_moves {S : Finset κ} (covered : Covered l ts)
    (within : ∀ t ∈ ts, t.src ∈ S ∧ t.dst ∈ S) : ∑ k ∈ S, moves l ts k = ∑ k ∈ S, l k := by
  induction ts generalizing l with
  | nil => rfl
  | cons t ts ih =>
    obtain ⟨src, dst⟩ := within t List.mem_cons_self
    rw [← sum_move covered.1 src dst]
    exact ih covered.2 fun u hu => within u (List.mem_cons_of_mem _ hu)

end Infra.Balance
