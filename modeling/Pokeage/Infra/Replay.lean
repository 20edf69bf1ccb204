import Mathlib.Algebra.GroupWithZero.Nat
import Pokeage.Infra.Machine

/-!
# Logs that tell the state

A machine writes a log, newest entry first. A follower sees the log alone and keeps a view of the machine:
it `apply`s each entry to the view it has. For that to work a step may change nothing that the follower
looks at, or write one entry which explains the change (`Explains`).

* `Plays` — a log whose entries were all legal when they were written, with the views at its ends
* `run_plays` — if every step is explained, its view after a run is that of the last state
* `Plays.replay` — the view is a function of the log
* `Plays.before`, `Plays.at_` — an entry was legal in the view of the log before it
* `Plays.tally` — a count that every entry moves by so much is moved by the sum of it
* `Plays.countP` — what is open is what was opened and not closed
* `Plays.last_write` — a part of the view that changed has the value that its last writer gave it
-/

namespace Infra.Replay

open Infra.Machine

variable {σ α ε ν ι : Type}

/-- How a follower takes an entry, and which entries it expects. -/
structure Follower (ν ι : Type) where
  legal : ν → ι → Prop
  apply : ν → ι → ν

/-- A log read from `v`, entry by entry, each of them legal. -/
inductive Plays (r : Follower ν ι) (v : ν) : List ι → ν → Prop
  | nil : Plays r v [] v
  | cons {es : List ι} {v' : ν} {e : ι} (past : Plays r v es v') (legal : r.legal v' e) :
      Plays r v (e :: es) (r.apply v' e)

/-- The view after a log. -/
def replay (r : Follower ν ι) (v : ν) (es : List ι) : ν := es.foldr (fun e v => r.apply v e) v

section Plays

variable {r : Follower ν ι} {v v' : ν} {es : List ι}

theorem Plays.replay (h : Plays r v es v') : v' = replay r v es := by
  induction h with
  | nil => rfl
  | cons past legal ih =>
    rw [ih]
    rfl

/-- The log before an entry plays too, and the entry was legal in the view that it gives. -/
theorem Plays.before {later past : List ι} {e : ι} (h : Plays r v (later ++ e :: past) v') :
    ∃ u, Plays r v past u ∧ r.legal u e := by
  induction later generalizing v' with
  | nil =>
    cases h with
    | cons earlier legal => exact ⟨_, earlier, legal⟩
  | cons x later ih =>
    cases h with
    | cons earlier _ => exact ih earlier

theorem Plays.at_ {later past : List ι} {e : ι} (h : Plays r v (later ++ e :: past) v') :
    r.legal (Replay.replay r v past) e := by
  obtain ⟨u, earlier, legal⟩ := h.before
  rwa [← earlier.replay]

/-- **Accounting.** What every legal entry adds to a count and takes from it, the log does in total. -/
theorem Plays.tally (h : Plays r v es v') (count : ν → ℕ) (gain loss : ι → ℕ)
    (entry : ∀ v e, r.legal v e → count (r.apply v e) + loss e = count v + gain e) :
    count v' + (es.map loss).sum = count v + (es.map gain).sum := by
  induction h with
  | nil => rfl
  | @cons es v' e past legal ih =>
    have last := entry v' e legal
    simp only [List.map_cons, List.sum_cons]
    omega

theorem sum_map_toNat (p : ι → Bool) (es : List ι) : (es.map fun e => (p e).toNat).sum = es.countP p := by
  induction es with
  | nil => rfl
  | cons e es ih =>
    rw [List.map_cons, List.sum_cons, ih, List.countP_cons]
    cases p e <;> simp [Nat.add_comm]

/-- A switch is on when it was turned on once more often than off. -/
theorem Plays.countP (h : Plays r v es v') (on : ν → Bool) (opens closes : ι → Bool)
    (entry : ∀ v e, r.legal v e →
      (on (r.apply v e)).toNat + (closes e).toNat = (on v).toNat + (opens e).toNat) :
    (on v').toNat + es.countP closes = (on v).toNat + es.countP opens := by
  have total := h.tally (fun v => (on v).toNat) (fun e => (opens e).toNat) (fun e => (closes e).toNat) entry
  rwa [sum_map_toNat, sum_map_toNat] at total

/-- **The last writer.** A part of the view that is not what it was at the start has the value that
the last entry to touch it gave it. -/
theorem Plays.last_write {γ : Type} {touches : ι → Prop} (h : Plays r v es v') (cell : ν → γ)
    (frame : ∀ v e, ¬touches e → cell (r.apply v e) = cell v) (changed : cell v' ≠ cell v) :
    ∃ later e past, es = later ++ e :: past ∧ (∀ x ∈ later, ¬touches x) ∧ touches e ∧
      cell v' = cell (r.apply (Replay.replay r v past) e) := by
  induction h with
  | nil => exact absurd rfl changed
  | @cons es v' e past legal ih =>
    by_cases writes : touches e
    · exact ⟨[], e, es, rfl, by simp, writes, by rw [past.replay]⟩
    · have same := frame v' e writes
      rw [same] at changed ⊢
      obtain ⟨later, x, before, rfl, clean, wrote, value⟩ := ih changed
      refine ⟨e :: later, x, before, rfl, ?_, wrote, value⟩
      intro y hy
      rcases List.mem_cons.mp hy with rfl | hy
      · exact writes
      · exact clean y hy

end Plays

/-- What a step has to do for a reader to keep up with it. -/
def Explains (r : Follower ν ι) (log : σ → List ι) (view : σ → ν) (s s' : σ) : Prop :=
  (log s' = log s ∧ view s' = view s) ∨
    ∃ e, log s' = e :: log s ∧ r.legal (view s) e ∧ view s' = r.apply (view s) e

/-- **A reader of the log knows the view.** -/
theorem run_plays {step : σ → α → Except ε σ} {r : Follower ν ι} {log : σ → List ι} {view : σ → ν}
    {I : σ → Prop} {s : σ} (start : I s) (keep : ∀ s a s', I s → step s a = .ok s' → I s')
    (advances : ∀ s a s', I s → step s a = .ok s' → Explains r log view s s') (as : List α) :
    ∃ es, log (run step s as) = es ++ log s ∧ Plays r (view s) es (view (run step s as)) := by
  refine (run_induction step (P := fun s' => I s' ∧
    ∃ es, log s' = es ++ log s ∧ Plays r (view s) es (view s')) ⟨start, [], rfl, .nil⟩ ?_ as).2
  rintro s₁ a s₂ ⟨inv, es, written, plays⟩ stepped
  refine ⟨keep s₁ a s₂ inv stepped, ?_⟩
  rcases advances s₁ a s₂ inv stepped with ⟨silent, same⟩ | ⟨e, entry, legal, next⟩
  · exact ⟨es, silent.trans written, by rwa [same]⟩
  · refine ⟨e :: es, ?_, ?_⟩
    · rw [entry, written]
      rfl
    · rw [next]
      exact plays.cons legal

end Infra.Replay
