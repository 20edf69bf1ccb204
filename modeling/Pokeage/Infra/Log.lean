import Mathlib.Data.List.Basic

/-!
# Logs

A log is a list that grows at its end. `AtEach P log` says that `P` held of each entry and of the log
before it, when it was written; `atEach_concat` is what one more entry adds. `lastOf` finds the last
entry with a key.
-/

namespace Infra.Log

variable {β κ : Type}

/-- The property holds of every entry and the entries before it. -/
def AtEach (P : List β → β → Prop) (log : List β) : Prop :=
  ∀ past b later, log = past ++ b :: later → P past b

variable {P : List β → β → Prop} {log : List β} {b : β}

theorem atEach_nil : AtEach P [] := by
  intro past b later split
  cases past <;> cases split

/-- A new entry has to meet the property after those before it. -/
theorem atEach_concat : AtEach P (log ++ [b]) ↔ AtEach P log ∧ P log b := by
  constructor
  · intro h
    refine ⟨?_, h log b [] rfl⟩
    intro past a later split
    exact h past a (later ++ [b]) (by simp [split])
  · rintro ⟨before, last⟩ past a later split
    rcases List.eq_nil_or_concat later with rfl | ⟨later, c, rfl⟩
    · obtain ⟨rfl, same⟩ := List.append_inj' split rfl
      obtain rfl : b = a := List.singleton_inj.1 same
      exact last
    · have longer : log ++ [b] = (past ++ a :: later) ++ [c] := by simpa using split
      exact before past a later (List.append_inj' longer rfl).1

/-- By place: the log before an entry is what was taken until then. -/
theorem atEach_iff_getElem? : AtEach P log ↔ ∀ i b, log[i]? = some b → P (log.take i) b := by
  constructor
  · intro h i b here
    obtain ⟨inside, rfl⟩ := List.getElem?_eq_some_iff.1 here
    refine h (log.take i) log[i] (log.drop (i + 1)) ?_
    rw [List.getElem_cons_drop, List.take_append_drop]
  · rintro h past b later rfl
    have here := h past.length b (by simp)
    rwa [List.take_left] at here

variable [DecidableEq κ] (key : β → κ)

/-- The last entry with this key. -/
def lastOf (k : κ) (log : List β) : Option β := (log.filter fun b => key b = k).getLast?

variable {key} {k : κ}

/-- A new entry is the last of its key. -/
theorem lastOf_concat : lastOf key k (log ++ [b]) = if key b = k then some b else lastOf key k log := by
  unfold lastOf
  rw [List.filter_append]
  by_cases same : key b = k <;> simp [same]

theorem lastOf_eq_some {a : β} (h : lastOf key k log = some a) : a ∈ log ∧ key a = k := by
  have found := List.mem_of_getLast? h
  rw [List.mem_filter, decide_eq_true_iff] at found
  exact found

end Infra.Log
