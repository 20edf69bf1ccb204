import Pokeage.Program.Opening
import Pokeage.Program.Properties.Records

/-!
# The instant-sell gate

`FailClosed` ties the gate to the floor and to the money behind it. `update_floor` restores it by
itself. `set_instant_sell` looks at the floor alone, and `instant_sell` at the payout it is about to
make but not at the next one, so each keeps it only from some states (`KeepsGate`).
-/

namespace Pokeage

open Infra Infra.Machine

/-- While the gate is open there is a floor and the pool covers one payout at it. -/
def FailClosed (s : Chain) : Prop :=
  ∀ p, s.pool = some p → p.instantSellEnabled = true →
    0 < p.floorPrice ∧ bps p.floorPrice 5000 ≤ p.totalLamports

/-- What the gate needs of the state before a step: opening it by hand needs one payout in the pool,
and a sale needs two. -/
def KeepsGate (d : Step) : Prop :=
  match d.act with
  | .program _ (.setInstantSell _ true) =>
    ∀ p, d.before.pool = some p → bps p.floorPrice 5000 ≤ p.totalLamports
  | .program _ (.instantSell _) =>
    ∀ p, d.before.pool = some p → 2 * bps p.floorPrice 5000 ≤ p.totalLamports
  | _ => True

section Step

variable {s s' : Chain} {a : Action}

theorem FailClosed.of_pool_eq (hf : FailClosed s) (h : s'.pool = s.pool) : FailClosed s' := by
  intro p hp
  rw [h] at hp
  exact hf p hp

/-- Money coming in keeps the gate. -/
theorem FailClosed.of_pool_add {p : BuybackPool} {n : ℕ} (hf : FailClosed s) (hp : s.pool = some p)
    (h : s'.pool = some { p with
      totalLamports := p.totalLamports + n
      lifetimeIn := p.lifetimeIn + n }) : FailClosed s' := by
  intro p' hp' hen
  rw [h] at hp'
  cases hp'
  obtain ⟨hpos, hle⟩ := hf p hp hen
  exact ⟨hpos, le_trans hle (Nat.le_add_right _ _)⟩

theorem failClosed_step (hf : FailClosed s) (hk : KeepsGate ⟨s, a, s'⟩) (h : step s a = .ok s') :
    FailClosed s' := by
  cases step_effect h with
  | initializeProgram ok =>
    intro p hp hen
    rw [ok.after] at hp
    cases hp
    cases hen
  | sink _ ok => obtain ⟨ev, rfl⟩ := ok.after; exact hf.of_pool_eq rfl
  | mintCard ok => exact hf.of_pool_add ok.pool (by rw [ok.after])
  | listCard ok => exact hf.of_pool_add ok.pool (by rw [ok.after])
  | cancelListing ok => exact hf.of_pool_eq (by rw [ok.after])
  | buyCard ok => exact hf.of_pool_add ok.pool (by rw [ok.after])
  | @instantSell tx a c p f t _ ok =>
    intro p' hp _
    have htwo := hk p ok.pool
    have hfloor := ok.floor
    rw [ok.after] at hp
    cases hp
    refine ⟨hfloor, ?_⟩
    show bps p.floorPrice 5000 ≤ p.totalLamports - bps p.floorPrice 5000
    omega
  | updateFloor _ _ after =>
    intro p hp hen
    rw [after] at hp
    cases hp
    simp only [floorGate, Bool.and_eq_true, decide_eq_true_eq] at hen
    exact ⟨hen.1.2, hen.2⟩
  | @setInstantSell tx a enabled c p _ admin pool floor after =>
    intro p' hp hen
    rw [after] at hp
    cases hp
    obtain rfl : enabled = true := hen
    exact ⟨floor rfl, hk p pool⟩
  | withdrawTreasury _ _ _ after => exact hf.of_pool_eq (by rw [after])
  | setPause _ after => exact hf.of_pool_eq (by rw [after])
  | external ok => exact hf.of_pool_eq (External.sameRecords ok).pool

/-- A step after which the gate is still backed met the condition. -/
theorem keepsGate_of_step (h : step s a = .ok s') (hf : FailClosed s') :
    KeepsGate ⟨s, a, s'⟩ := by
  cases step_effect h with
  | @instantSell tx a c p f t _ ok =>
    intro p' hp
    obtain rfl := Option.some.inj (ok.pool.symm.trans hp)
    have hle := ok.enough
    have hafter := congrArg Chain.pool ok.after
    obtain ⟨-, hle'⟩ := hf _ hafter ok.enabled
    change bps p.floorPrice 5000 ≤ p.totalLamports at hle
    change bps p.floorPrice 5000 ≤ p.totalLamports - bps p.floorPrice 5000 at hle'
    omega
  | @setInstantSell tx a enabled c p _ admin pool floor after =>
    cases enabled with
    | false => trivial
    | true =>
      intro p' hp
      obtain rfl := Option.some.inj (pool.symm.trans hp)
      have hafter := congrArg Chain.pool after
      exact (hf _ hafter rfl).2
  | @sink tx ix _ _ _ _ _ _ _ _ hix _ => cases ix <;> trivial
  | _ => trivial

end Step

theorem Initialized.failClosed {s : Chain} (h : Initialized s) : FailClosed s := by
  obtain ⟨a, b, p, m, l, ⟨g, tx, -, hstep⟩⟩ := h
  intro q hq hen
  rw [(initializeHandler_ok hstep).after] at hq
  cases hq
  cases hen

/-- **When the gate stays backed.** It is in every state of a run exactly if the authority opens it
only over a covered payout and every sale leaves another payout behind. -/
theorem failClosed_iff (s₀ : Chain) (h : Initialized s₀) (as : List Action) :
    Always step s₀ as FailClosed ↔ ∀ d ∈ trace step s₀ as, KeepsGate d := by
  constructor
  · intro hall d hd
    exact keepsGate_of_step (step_of_mem_trace step hd) (hall.around step hd).2
  · exact always_of_steps step h.failClosed fun s a s' hf hk hstep => failClosed_step hf hk hstep

/-- Set a floor of ten lamports over an empty pool and open the gate. -/
def openEmptyPool : List Action :=
  [.program (.by [1] 0)
    (.updateFloor { authority := .key 1, config := .config, buybackPool := .buybackPool } 10),
   .program (.by [1] 0)
    (.setInstantSell { authority := .key 1, config := .config, buybackPool := .buybackPool } true)]

/-- The gate can be opened over an empty pool. -/
theorem not_failClosed_openEmptyPool :
    Initialized .standard ∧ ¬FailClosed (run step .standard openEmptyPool) := by
  refine ⟨Chain.initialized_standard, fun hf => ?_⟩
  have hpool : (run step .standard openEmptyPool).pool =
      some ⟨0, 0, 0, 10, true, 255⟩ := by decide +kernel
  exact absurd (hf _ hpool rfl).2 (by decide)

/-- The pool gets half a SOL and a floor of a tenth of one before the gate is opened: it stays backed. -/
theorem failClosed_iff_openBuyback :
    Always step .standard openBuyback FailClosed ∧
      (run step .standard openBuyback).pool.map BuybackPool.instantSellEnabled = some true := by
  refine ⟨(failClosed_iff _ Chain.initialized_standard _).2 ?_, by decide +kernel⟩
  have pool : (run step .standard (openBuyback.take 2)).pool = some ⟨500000000, 500000000, 0, 100000000,
      false, 255⟩ := by decide +kernel
  intro d hd
  unfold openBuyback at hd
  rw [trace_cons_ok (step_exec (by decide +kernel)), trace_cons_ok (step_exec (by decide +kernel)),
    trace_cons_ok (step_exec (by decide +kernel)), trace_nil] at hd
  simp only [List.mem_cons, List.not_mem_nil, or_false] at hd
  rcases hd with rfl | rfl | rfl
  · trivial
  · trivial
  · intro p there
    obtain rfl := Option.some.inj (pool.symm.trans there)
    decide

end Pokeage
