import Mathlib.Data.List.Induction

/-!
# Runs of a fallible step function

A machine is a step function `σ → α → Except ε σ`. A failing action leaves the state as it was;
`run` is the state after a list of actions and `trace` the list of its successful steps, each with
the states before and after it.

* `trace_induction` — a property of (history, state) that every successful step extends
* `run_induction` — the same for a property of the state alone
* `always_of_steps`, `Always.around` — a property of every state of a run, from its steps and back
* `trace_split` — where in the run a step of the trace stands
* `serves_of_countdown` — a machine that serves so many actions and refuses the rest
* `run_refusing` — a run from the image of a state, where some actions are refused
-/

namespace Infra.Machine

variable {σ α ε : Type}

/-- A successful step: the action with the states around it. -/
structure Done (σ α : Type) where
  before : σ
  act : α
  after : σ

/-- One action. A failing one reverts. -/
def exec (step : σ → α → Except ε σ) (s : σ) (a : α) : σ :=
  match step s a with
  | .ok s' => s'
  | .error _ => s

/-- One action after the other. -/
def run (step : σ → α → Except ε σ) (s : σ) (as : List α) : σ :=
  as.foldl (exec step) s

/-- The successful steps of a run, in order. -/
def trace (step : σ → α → Except ε σ) : σ → List α → List (Done σ α)
  | _, [] => []
  | s, a :: as =>
    match step s a with
    | .ok s' => ⟨s, a, s'⟩ :: trace step s' as
    | .error _ => trace step s as

section

variable {step : σ → α → Except ε σ} {s s' : σ} {a : α} {as bs : List α}

/-- A successful action takes effect. -/
theorem exec_ok (h : step s a = .ok s') : exec step s a = s' := by
  simp [exec, h]

/-- A failed one does not. -/
theorem exec_error {e : ε} (h : step s a = .error e) : exec step s a = s := by
  simp [exec, h]

/-- An action that does not fail steps to what `exec` says. -/
theorem step_exec (h : (step s a).isOk) : step s a = .ok (exec step s a) := by
  cases hs : step s a with
  | ok s' => rw [exec_ok hs]
  | error e => rw [hs] at h; cases h

@[simp] theorem run_nil : run step s [] = s := rfl

@[simp] theorem run_cons : run step s (a :: as) = run step (exec step s a) as := rfl

/-- Runs are composed. -/
theorem run_append : run step s (as ++ bs) = run step (run step s as) bs :=
  List.foldl_append

theorem run_concat : run step s (as ++ [a]) = exec step (run step s as) a := by
  rw [run_append]; rfl

@[simp] theorem trace_nil : trace step s [] = [] := rfl

theorem trace_cons_ok (h : step s a = .ok s') :
    trace step s (a :: as) = ⟨s, a, s'⟩ :: trace step s' as := by
  simp [trace, h]

theorem trace_cons_error {e : ε} (h : step s a = .error e) :
    trace step s (a :: as) = trace step s as := by
  simp [trace, h]

/-- So are their traces. -/
theorem trace_append :
    ∀ {s : σ} {as : List α}, trace step s (as ++ bs) = trace step s as ++ trace step (run step s as) bs := by
  intro s as
  induction as generalizing s with
  | nil => rfl
  | cons a as ih =>
    cases h : step s a with
    | ok s' => simp [trace_cons_ok h, exec_ok h, ih]
    | error e => simp [trace_cons_error h, exec_error h, ih]

/-- The last action of a run, where it does not fail, is the last step of the trace. -/
theorem mem_trace_concat (h : (step (run step s as) a).isOk) :
    ⟨run step s as, a, run step s (as ++ [a])⟩ ∈ trace step s (as ++ [a]) := by
  rw [trace_append, run_concat, trace_cons_ok (step_exec h)]
  simp

end

/-! ## Induction along a run -/

variable (step : σ → α → Except ε σ) {s : σ}

/-- **Induction along a run.** The property speaks of the steps so far and the state they led to. -/
theorem trace_induction {P : List (Done σ α) → σ → Prop} (start : P [] s)
    (hstep : ∀ t s a s', P t s → step s a = .ok s' → P (t ++ [⟨s, a, s'⟩]) s') :
    ∀ as, P (trace step s as) (run step s as) := by
  intro as
  induction as using List.reverseRecOn with
  | nil => exact start
  | append_singleton as a ih =>
    rw [run_concat, trace_append]
    cases h : step (run step s as) a with
    | ok s' =>
      rw [exec_ok h, trace_cons_ok h]
      exact hstep _ _ a s' ih h
    | error e =>
      rw [exec_error h, trace_cons_error h]
      simpa using ih

/-- An invariant of the step function holds after every run. -/
theorem run_induction {P : σ → Prop} (start : P s)
    (hstep : ∀ s a s', P s → step s a = .ok s' → P s') (as : List α) : P (run step s as) :=
  trace_induction step (P := fun _ s => P s) start (fun _ s a s' hp h => hstep s a s' hp h) as

/-- An invariant that only steps meeting `C` keep holds after every run made of such steps. -/
theorem run_induction_of {P : σ → Prop} {C : Done σ α → Prop} (start : P s)
    (hstep : ∀ s a s', P s → C ⟨s, a, s'⟩ → step s a = .ok s' → P s') (as : List α)
    (hC : ∀ d ∈ trace step s as, C d) : P (run step s as) := by
  refine trace_induction step (P := fun t s => (∀ d ∈ t, C d) → P s) (fun _ => start) ?_ as hC
  intro t s a s' ih h hall
  refine hstep s a s' (ih fun d hd => hall d (by simp [hd])) (hall _ (by simp)) h

/-- A step of the trace is a step of the machine. -/
theorem step_of_mem_trace {as : List α} {d : Done σ α} (h : d ∈ trace step s as) :
    step d.before d.act = .ok d.after := by
  refine trace_induction step (P := fun t _ => ∀ d ∈ t, step d.before d.act = .ok d.after)
    (by simp) ?_ as d h
  intro t s a s' ih h d hd
  rcases List.mem_append.mp hd with hd | hd
  · exact ih d hd
  · rw [List.mem_singleton] at hd
    rw [hd]; exact h

/-- Its action is one of those that were run. -/
theorem act_mem_of_mem_trace {as : List α} {d : Done σ α} (h : d ∈ trace step s as) :
    d.act ∈ as := by
  induction as generalizing s with
  | nil => cases h
  | cons a as ih =>
    cases hs : step s a with
    | error e =>
      rw [trace_cons_error hs] at h
      exact List.mem_cons_of_mem _ (ih h)
    | ok s' =>
      rw [trace_cons_ok hs] at h
      rcases List.mem_cons.mp h with rfl | h
      · exact List.mem_cons_self
      · exact List.mem_cons_of_mem _ (ih h)

/-- The steps before a step of the trace are the trace of a shorter run, which ends where the step
begins. -/
theorem trace_split {t₁ t₂ : List (Done σ α)} {d : Done σ α} :
    ∀ {s : σ} {as : List α}, trace step s as = t₁ ++ d :: t₂ →
      ∃ pre, run step s pre = d.before ∧ trace step s pre = t₁ := by
  intro s as
  induction as generalizing s t₁ with
  | nil => intro h; simp at h
  | cons a as ih =>
    intro h
    cases hs : step s a with
    | error e =>
      rw [trace_cons_error hs] at h
      obtain ⟨pre, hr, ht⟩ := ih h
      exact ⟨a :: pre, by rw [run_cons, exec_error hs]; exact hr, by rw [trace_cons_error hs]; exact ht⟩
    | ok s' =>
      rw [trace_cons_ok hs] at h
      cases t₁ with
      | nil =>
        simp only [List.nil_append, List.cons.injEq] at h
        exact ⟨[], by rw [run_nil, ← h.1], rfl⟩
      | cons d' t₁ =>
        simp only [List.cons_append, List.cons.injEq] at h
        obtain ⟨pre, hr, ht⟩ := ih h.2
        exact ⟨a :: pre, by rw [run_cons, exec_ok hs]; exact hr, by rw [trace_cons_ok hs, ht, ← h.1]⟩

/-- The state before a step of the trace is reached by a shorter run. -/
theorem exists_run_of_mem_trace {as : List α} {d : Done σ α} (h : d ∈ trace step s as) :
    ∃ pre, run step s pre = d.before := by
  obtain ⟨t₁, t₂, ht⟩ := List.append_of_mem h
  obtain ⟨pre, hr, -⟩ := trace_split step ht
  exact ⟨pre, hr⟩

/-- So an invariant also holds before every step of the trace. -/
theorem before_of_mem_trace {P : σ → Prop} (start : P s)
    (hstep : ∀ s a s', P s → step s a = .ok s' → P s') {as : List α} {d : Done σ α}
    (h : d ∈ trace step s as) : P d.before := by
  obtain ⟨pre, hr⟩ := exists_run_of_mem_trace step h
  rw [← hr]
  exact run_induction step start hstep pre

/-! ## Every state of a run -/

/-- `P` holds in every state that a run passes through, its start and its end included. -/
def Always (s : σ) (as : List α) (P : σ → Prop) : Prop :=
  ∀ pre, pre <+: as → P (run step s pre)

/-- What steps meeting `C` keep holds in every state of a run made of such steps. -/
theorem always_of_steps {P : σ → Prop} {C : Done σ α → Prop} {as : List α} (start : P s)
    (hstep : ∀ s a s', P s → C ⟨s, a, s'⟩ → step s a = .ok s' → P s')
    (hC : ∀ d ∈ trace step s as, C d) : Always step s as P := by
  rintro pre ⟨post, rfl⟩
  refine run_induction_of step start hstep pre fun d hd => hC d ?_
  rw [trace_append]
  exact List.mem_append_left _ hd

/-- What holds in every state of a run holds before and after each of its steps. -/
theorem Always.around {P : σ → Prop} {d : Done σ α} :
    ∀ {s : σ} {as : List α}, Always step s as P → d ∈ trace step s as → P d.before ∧ P d.after := by
  intro s as
  induction as generalizing s with
  | nil => intro _ hd; cases hd
  | cons a as ih =>
    intro h hd
    have htail : Always step (exec step s a) as P := by
      intro pre hpre
      have := h (a :: pre) (by simpa using hpre)
      rwa [run_cons] at this
    cases hs : step s a with
    | error e =>
      rw [trace_cons_error hs] at hd
      rw [exec_error hs] at htail
      exact ih htail hd
    | ok s' =>
      rw [trace_cons_ok hs] at hd
      rw [exec_ok hs] at htail
      rcases List.mem_cons.mp hd with rfl | hd
      · exact ⟨h [] List.nil_prefix, htail [] List.nil_prefix⟩
      · exact ih htail hd

/-! ## Serving so many -/

/-- `P` holds of every action of a run and the state it meets. -/
def AtEach (s : σ) (as : List α) (P : σ → α → Prop) : Prop :=
  ∀ pre a post, as = pre ++ a :: post → P (run step s pre) a

/-- The first `n` actions of a run succeed; every later one fails with `e` and changes nothing. -/
def Serves (e : ε) (s : σ) (n : ℕ) (as : List α) : Prop :=
  ∀ pre a post, as = pre ++ a :: post →
    (pre.length < n → (step (run step s pre) a).isOk) ∧
    (n ≤ pre.length →
      step (run step s pre) a = .error e ∧ run step s (pre ++ [a]) = run step s pre)

section

variable {step} {P : σ → α → Prop} {s' : σ} {a : α} {as : List α} {e : ε} {n : ℕ}

theorem AtEach.head (h : AtEach step s (a :: as) P) : P s a := h [] a as rfl

theorem AtEach.tail (h : AtEach step s (a :: as) P) : AtEach step (exec step s a) as P := by
  rintro pre b post rfl
  exact h (a :: pre) b post rfl

theorem Serves.nil : Serves step e s n [] := by
  intro pre a post split
  simp at split

theorem Serves.cons_ok (ok : step s a = .ok s') (rest : Serves step e s' n as) :
    Serves step e s (n + 1) (a :: as) := by
  rintro (_ | ⟨b, pre⟩) c post split
  · simp only [List.nil_append, List.cons.injEq] at split
    obtain ⟨rfl, rfl⟩ := split
    refine ⟨fun _ => ?_, fun above => absurd above (Nat.not_succ_le_zero n)⟩
    show (step s a).isOk
    rw [ok]
    rfl
  · simp only [List.cons_append, List.cons.injEq] at split
    obtain ⟨rfl, rfl⟩ := split
    have later := rest pre c post rfl
    simp only [List.cons_append, run_cons, exec_ok ok, List.length_cons]
    exact ⟨fun below => later.1 (Nat.lt_of_succ_lt_succ below),
      fun above => later.2 (Nat.le_of_succ_le_succ above)⟩

theorem Serves.cons_refused (refused : step s a = .error e) (rest : Serves step e s 0 as) :
    Serves step e s 0 (a :: as) := by
  rintro (_ | ⟨b, pre⟩) c post split
  · simp only [List.nil_append, List.cons.injEq] at split
    obtain ⟨rfl, rfl⟩ := split
    exact ⟨fun below => absurd below (Nat.not_lt_zero _), fun _ => ⟨refused, exec_error refused⟩⟩
  · simp only [List.cons_append, List.cons.injEq] at split
    obtain ⟨rfl, rfl⟩ := split
    have later := rest pre c post rfl
    simp only [List.cons_append, run_cons, exec_error refused, List.length_cons]
    exact ⟨fun below => absurd below (Nat.not_lt_zero _), fun _ => later.2 (Nat.zero_le _)⟩

/-- **A countdown.** While the invariant has a positive number left an action succeeds and takes one;
with none left it is refused. -/
theorem serves_of_countdown {I : ℕ → σ → Prop}
    (serve : ∀ n s a, I (n + 1) s → P s a → ∃ s', step s a = .ok s' ∧ I n s')
    (refuse : ∀ s a, I 0 s → P s a → step s a = .error e) (start : I n s)
    (each : AtEach step s as P) : Serves step e s n as := by
  induction as generalizing n s with
  | nil => exact .nil
  | cons a as ih =>
    have rest := each.tail
    cases n with
    | zero =>
      have refused := refuse s a start each.head
      rw [exec_error refused] at rest
      exact .cons_refused refused (ih start rest)
    | succ n =>
      obtain ⟨s', ok, left⟩ := serve n s a start each.head
      rw [exec_ok ok] at rest
      exact .cons_ok ok (ih left rest)

end

/-! ## Refused actions -/

section

variable {step : σ → α → Except ε σ} {s : σ} {as : List α} {f : σ → σ} {I : σ → Prop} {C : α → Prop}

/-- From the image of a state under `f` the actions that do not pass are refused, and the others step as
from the state itself. **A run then goes as if those had never been submitted.** -/
theorem run_refusing {passes : α → Bool}
    (keep : ∀ s a s', I s → C a → step s a = .ok s' → I s')
    (go : ∀ s a, I s → C a → passes a = true → step (f s) a = (step s a).map f)
    (refuse : ∀ s a, I s → C a → passes a = false → ∃ e, step (f s) a = .error e)
    (start : I s) (each : ∀ a ∈ as, C a) :
    run step (f s) as = f (run step s (as.filter passes)) ∧
      trace step (f s) as =
        (trace step s (as.filter passes)).map fun d => ⟨f d.before, d.act, f d.after⟩ := by
  induction as generalizing s with
  | nil => exact ⟨rfl, rfl⟩
  | cons a as ih =>
    have kind := each a List.mem_cons_self
    have rest : ∀ b ∈ as, C b := fun b hb => each b (List.mem_cons_of_mem _ hb)
    cases hp : passes a with
    | false =>
      obtain ⟨e, he⟩ := refuse s a start kind hp
      rw [List.filter_cons_of_neg (by simp [hp]), run_cons, exec_error he, trace_cons_error he]
      exact ih start rest
    | true =>
      have same := go s a start kind hp
      rw [List.filter_cons_of_pos hp, run_cons, run_cons]
      cases hs : step s a with
      | error e =>
        rw [hs] at same
        rw [exec_error same, exec_error hs, trace_cons_error same, trace_cons_error hs]
        exact ih start rest
      | ok s' =>
        rw [hs] at same
        obtain ⟨hrun, htrace⟩ := ih (keep s a s' start kind hs) rest
        rw [exec_ok same, exec_ok hs, trace_cons_ok same, trace_cons_ok hs, List.map_cons, htrace]
        exact ⟨hrun, rfl⟩

end

end Infra.Machine
