import Mathlib.Logic.Function.Iterate

/-!
# While loops

`Ends guard body s n t` says that `while (guard) body` takes `s` to `t` in `n` rounds. The states in
which the rounds start are the history of the loop, `visited`.

* `ends_of_unfold` — a function that unfolds to its loop ends it, if a measure goes down
* `Ends.history` — the states that it goes through
* `Ends.induction` — a property of (history, state) that every round extends
* `Ends.invariant` — the same for a property of the state alone
* `Ends.simulation` — two loops that go on together end together
-/

namespace Infra.Loop

variable {α β : Type} {guard : α → Prop} {body : α → α} {s t : α} {n n' : ℕ}

/-- From `s` the loop runs `n` rounds and stops at `t`. -/
structure Ends (guard : α → Prop) (body : α → α) (s : α) (n : ℕ) (t : α) : Prop where
  rounds : body^[n] s = t
  going : ∀ k < n, guard (body^[k] s)
  stop : ¬ guard t

/-- The states before each of `n` rounds. -/
def visited (body : α → α) : ℕ → α → List α
  | 0, _ => []
  | n + 1, s => s :: visited body n (body s)

theorem Ends.here (stop : ¬ guard s) : Ends guard body s 0 s :=
  ⟨rfl, fun k hk => absurd hk (Nat.not_lt_zero k), stop⟩

theorem Ends.next (goes : guard s) (h : Ends guard body (body s) n t) :
    Ends guard body s (n + 1) t where
  rounds := h.rounds
  going k hk := by
    cases k with
    | zero => exact goes
    | succ k => exact h.going k (Nat.lt_of_succ_lt_succ hk)
  stop := h.stop

theorem Ends.zero (h : Ends guard body s 0 t) : t = s ∧ ¬ guard s := by
  obtain rfl : s = t := h.rounds
  exact ⟨rfl, h.stop⟩

theorem Ends.succ (h : Ends guard body s (n + 1) t) :
    guard s ∧ Ends guard body (body s) n t :=
  ⟨h.going 0 (Nat.succ_pos n),
    ⟨h.rounds, fun k hk => h.going (k + 1) (Nat.succ_lt_succ hk), h.stop⟩⟩

/-- **Termination:** a function that unfolds to the loop is its end state, within as many rounds as the
measure allows. -/
theorem ends_of_unfold [DecidablePred guard] {f : α → α}
    (unfolds : ∀ x, f x = if guard x then f (body x) else x) (measure : α → ℕ)
    (less : ∀ x, guard x → measure (body x) < measure x) (s : α) :
    ∃ n ≤ measure s, Ends guard body s n (f s) := by
  generalize bound : measure s = m
  induction m using Nat.strongRecOn generalizing s with
  | _ m ih =>
    subst bound
    by_cases goes : guard s
    · rw [unfolds, if_pos goes]
      obtain ⟨n, le, rest⟩ := ih _ (less s goes) (body s) rfl
      exact ⟨n + 1, Nat.lt_of_le_of_lt le (less s goes), rest.next goes⟩
    · rw [unfolds, if_neg goes]
      exact ⟨0, Nat.zero_le _, .here goes⟩

/-- A function that collects the states its loop goes through has collected the history. -/
theorem Ends.history [DecidablePred guard] {collect : α → List α}
    (unfolds : ∀ x, collect x = if guard x then x :: collect (body x) else [])
    (h : Ends guard body s n t) : collect s = visited body n s := by
  induction n generalizing s with
  | zero =>
    rw [unfolds, if_neg h.zero.2]
    rfl
  | succ n ih =>
    rw [unfolds, if_pos h.succ.1, ih h.succ.2]
    rfl

/-- **Loop rule with history.** -/
theorem Ends.induction {P : List α → α → Prop} (h : Ends guard body s n t) (start : P [] s)
    (round : ∀ past x, P past x → guard x → P (past ++ [x]) (body x)) :
    P (visited body n s) t := by
  have onwards : ∀ {n s} (past : List α), Ends guard body s n t → P past s →
      P (past ++ visited body n s) t := by
    intro n
    induction n with
    | zero =>
      intro s past h so_far
      rw [h.zero.1]
      simpa [visited] using so_far
    | succ n ih =>
      intro s past h so_far
      have rest := ih (past ++ [s]) h.succ.2 (round past s so_far h.succ.1)
      simpa [visited] using rest
  simpa using onwards [] h start

/-- **Loop rule.** -/
theorem Ends.invariant {P : α → Prop} (h : Ends guard body s n t) (start : P s)
    (round : ∀ x, P x → guard x → P (body x)) : P t :=
  h.induction (P := fun _ x => P x) start fun _ x hx goes => round x hx goes

/-- **Simulation:** what relates two loops before every round, and lets them go on together, relates
the states in which they end. -/
theorem Ends.simulation {R : α → β → Prop} {guard' : β → Prop} {body' : β → β} {u v : β}
    (h : Ends guard body s n t) (h' : Ends guard' body' u n' v) (start : R s u)
    (together : ∀ x y, R x y → (guard x ↔ guard' y))
    (round : ∀ x y, R x y → guard x → R (body x) (body' y)) : R t v := by
  induction n generalizing s u n' with
  | zero =>
    obtain ⟨rfl, stop⟩ := h.zero
    cases n' with
    | zero =>
      obtain ⟨rfl, -⟩ := h'.zero
      exact start
    | succ n' => exact absurd ((together _ _ start).2 h'.succ.1) stop
  | succ n ih =>
    obtain ⟨goes, rest⟩ := h.succ
    cases n' with
    | zero => exact absurd ((together _ _ start).1 goes) h'.zero.2
    | succ n' => exact ih rest h'.succ.2 (round _ _ start goes)

end Infra.Loop
