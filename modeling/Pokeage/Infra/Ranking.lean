import Mathlib.Data.List.Sort

/-!
# Ranking a list

Sorting by a key is stable: whoever ties keeps the order of the list. `pairwise_ranked` states both at
once, with `before` for the order of the list.
-/

namespace Infra.Ranking

variable {α : Type} {r before : α → α → Prop} [DecidableRel r] {a : α} {l : List α}

/-- `a` is ranked above `b`, and a tie is decided by who came before. -/
def Above (r before : α → α → Prop) (a b : α) : Prop := r a b ∧ (r b a → before a b)

/-- Inserting someone who came before all the others ranks it above whoever it ties with. -/
theorem pairwise_orderedInsert [Std.Total r] [IsTrans α r] (first : ∀ b ∈ l, before a b)
    (ranked : l.Pairwise (Above r before)) : (l.orderedInsert r a).Pairwise (Above r before) := by
  induction l with
  | nil => exact List.pairwise_singleton _ a
  | cons b l ih =>
    obtain ⟨top, rest⟩ := List.pairwise_cons.1 ranked
    by_cases h : r a b
    · rw [List.orderedInsert_cons, if_pos h]
      refine List.pairwise_cons.2 ⟨?_, ranked⟩
      intro c hc
      refine ⟨?_, fun _ => first c hc⟩
      rcases List.mem_cons.1 hc with rfl | hc
      · exact h
      · exact IsTrans.trans _ _ _ h (top c hc).1
    · rw [List.orderedInsert_cons, if_neg h]
      refine List.pairwise_cons.2 ⟨?_, ih (fun c hc => first c (List.mem_cons_of_mem b hc)) rest⟩
      intro c hc
      rcases List.mem_cons.1 ((List.perm_orderedInsert r a l).mem_iff.1 hc) with rfl | hc
      · exact ⟨(Std.Total.total b c).resolve_right h, fun tie => absurd tie h⟩
      · exact top c hc

/-- Who a member of the second list goes with. -/
theorem exists_of_mem {β : Type} {R : α → β → Prop} {l : List α} {l' : List β}
    (h : List.Forall₂ R l l') {b : β} (hb : b ∈ l') : ∃ a ∈ l, R a b := by
  induction h with
  | nil => cases hb
  | cons head _ ih =>
    rcases List.mem_cons.1 hb with rfl | hb
    · exact ⟨_, List.mem_cons_self, head⟩
    · obtain ⟨a, ha, rel⟩ := ih hb
      exact ⟨a, List.mem_cons_of_mem _ ha, rel⟩

/-- **A sorted list is ranked, ties in the order of the list.** -/
theorem pairwise_ranked [Std.Total r] [IsTrans α r] (order : l.Pairwise before) :
    (l.insertionSort r).Pairwise (Above r before) := by
  induction l with
  | nil => exact List.Pairwise.nil
  | cons a l ih =>
    obtain ⟨first, rest⟩ := List.pairwise_cons.1 order
    rw [List.insertionSort_cons]
    exact pairwise_orderedInsert (fun b hb => first b ((List.mem_insertionSort r).1 hb)) (ih rest)

end Infra.Ranking
