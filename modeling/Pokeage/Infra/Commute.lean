import Mathlib.Data.List.Perm.Basic
import Mathlib.Data.List.Pairwise

/-!
# Steps that commute

A list of actions of a fallible machine, none of which fails (`Steps`). Where the actions of a `kind`
can be swapped if they are independent, and what is not compared (`same`) they do not read either,
pairwise independent ones can be run in any order: all of them succeed again, and they lead to the same
state (`Steps.perm`).
-/

namespace Infra.Commute

variable {σ α ε : Type}

/-- All actions of the list succeed, one after the other. -/
inductive Steps (step : σ → α → Except ε σ) : σ → List α → σ → Prop
  | nil (s : σ) : Steps step s [] s
  | cons {s s₁ s' : σ} {a : α} {as : List α} (first : step s a = .ok s₁) (rest : Steps step s₁ as s') :
      Steps step s (a :: as) s'

/-- What it takes for independent actions to commute up to `same`. -/
structure Commuting (step : σ → α → Except ε σ) (kind : α → Prop) (same : σ → σ → Prop)
    (indep : α → α → Prop) : Prop where
  refl : ∀ s, same s s
  trans : ∀ s t u, same s t → same t u → same s u
  symm : ∀ a b, indep a b → indep b a
  congr : ∀ s t a s', kind a → same s t → step s a = .ok s' → ∃ t', step t a = .ok t' ∧ same s' t'
  swap : ∀ s a b s₁ s₂, indep a b → step s a = .ok s₁ → step s₁ b = .ok s₂ →
    ∃ t₁ t₂, step s b = .ok t₁ ∧ step t₁ a = .ok t₂ ∧ same s₂ t₂

section

variable {step : σ → α → Except ε σ} {kind : α → Prop} {same : σ → σ → Prop} {indep : α → α → Prop} {s s' t : σ}
  {as bs : List α}

/-- The same actions lead from the same states to the same states. -/
theorem Steps.congr (rules : Commuting step kind same indep) (kinds : ∀ a ∈ as, kind a)
    (steps : Steps step s as s') (eq : same s t) : ∃ t', Steps step t as t' ∧ same s' t' := by
  induction steps generalizing t with
  | nil s => exact ⟨t, .nil t, eq⟩
  | cons first rest ih =>
    obtain ⟨t₁, first', eq₁⟩ := rules.congr _ _ _ _ (kinds _ List.mem_cons_self) eq first
    obtain ⟨t', rest', eq'⟩ := ih (fun a ha => kinds a (List.mem_cons_of_mem _ ha)) eq₁
    exact ⟨t', .cons first' rest', eq'⟩

/-- **Any order will do.** -/
theorem Steps.perm (rules : Commuting step kind same indep) (perm : as.Perm bs)
    (kinds : ∀ a ∈ as, kind a) (pairs : as.Pairwise indep) (steps : Steps step s as s') :
    ∃ t', Steps step s bs t' ∧ same s' t' := by
  induction perm generalizing s s' with
  | nil =>
    cases steps
    exact ⟨s, .nil s, rules.refl s⟩
  | cons a perm ih =>
    cases steps with
    | cons first rest =>
      obtain ⟨t', rest', eq⟩ := ih (fun b hb => kinds b (List.mem_cons_of_mem _ hb)) pairs.of_cons rest
      exact ⟨t', .cons first rest', eq⟩
  | swap a b as =>
    -- `b` came first: swap the two, then run the rest from where they lead
    cases steps with
    | cons first rest =>
      cases rest with
      | cons second rest =>
        have apart : indep b a := List.rel_of_pairwise_cons pairs List.mem_cons_self
        obtain ⟨t₁, t₂, first', second', eq⟩ := rules.swap _ _ _ _ _ apart first second
        have others : ∀ x ∈ as, kind x := fun x hx =>
          kinds x (List.mem_cons_of_mem _ (List.mem_cons_of_mem _ hx))
        obtain ⟨t', rest', eq'⟩ := rest.congr rules others eq
        exact ⟨t', .cons first' (.cons second' rest'), eq'⟩
  | trans perm₁ perm₂ ih₁ ih₂ =>
    obtain ⟨t, steps₁, eq₁⟩ := ih₁ kinds pairs steps
    obtain ⟨u, steps₂, eq₂⟩ := ih₂ (fun a ha => kinds a (perm₁.mem_iff.2 ha))
      (perm₁.pairwise pairs (fun h => rules.symm _ _ h)) steps₁
    exact ⟨u, steps₂, rules.trans _ _ _ eq₁ eq₂⟩

end

end Infra.Commute
