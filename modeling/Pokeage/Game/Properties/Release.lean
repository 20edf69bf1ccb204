import Pokeage.Game.Properties.Tally

/-!
# Nobody gets lost

A newcomer joins the end of one list, and only the weakest of a full roster ever has to go. Everybody
else stays in the list and the order they were in.
-/

namespace Pokeage.Game

/-- `l'` is what stays of `l` when `gone` leaves it, if anybody does. -/
inductive Stays (l : List MonsterInstance) : Option MonsterInstance → List MonsterInstance → Prop
  | all : Stays l none l
  | without {ahead behind : List MonsterInstance} {old : MonsterInstance}
      (there : l = ahead ++ old :: behind) : Stays l (some old) (ahead ++ behind)

theorem Stays.eraseIdx {l : List MonsterInstance} {i : ℕ} {old : MonsterInstance}
    (here : l[i]? = some old) : Stays l (some old) (l.eraseIdx i) := by
  obtain ⟨inside, rfl⟩ := List.getElem?_eq_some_iff.1 here
  rw [List.eraseIdx_eq_take_drop_succ]
  have split : l = l.take i ++ l[i] :: l.drop (i + 1) := by
    rw [List.getElem_cons_drop, List.take_append_drop]
  exact .without split

/-- Who stays and who goes make the list. -/
theorem Stays.perm {l l' : List MonsterInstance} {gone : Option MonsterInstance}
    (h : Stays l gone l') : (l' ++ gone.toList).Perm l := by
  cases h with
  | all => simp
  | @without ahead behind old there =>
    rw [there]
    exact (List.perm_append_singleton old _).trans List.perm_middle.symm

/-- Who joins `list` when the newcomer is placed at `place`. -/
def joining (newMon : MonsterInstance) (list place : Placement) : List MonsterInstance :=
  if list = place then [newMon] else []

/-- Who leaves `list`: only the list that is joined can lose somebody. -/
def leaving (result : PlacementResult) (list : Placement) : Option MonsterInstance :=
  if list = result.place then result.released else none

/-- Every list keeps all that do not leave it, in their order, before the newcomer. -/
structure KeepsOthers (t : Trainer) (newMon : MonsterInstance) (result : PlacementResult)
    (t' : Trainer) (team box : List MonsterInstance) : Prop where
  fromTeam : Stays t.team (leaving result .party) team
  fromBox : Stays t.box (leaving result .box) box
  lists : t' = { t with
    team := team ++ joining newMon .party result.place
    box := box ++ joining newMon .box result.place }

section

variable {t t' : Trainer} {newMon : MonsterInstance} {res : PlacementResult}

/-- A placement keeps the others, in their order. -/
theorem Placed.keepsOthers (h : Placed t newMon (res, t')) :
    ∃ team box, KeepsOthers t newMon res t' team box := by
  cases h with
  | party => exact ⟨t.team, t.box, .all, .all, by simp [joining]⟩
  | box => exact ⟨t.team, t.box, .all, .all, by simp [joining]⟩
  | declined => exact ⟨t.team, t.box, .all, .all, by simp [joining]⟩
  | @inParty i _ _ here =>
    exact ⟨t.team.eraseIdx i, t.box, .eraseIdx here, .all, by simp [joining]⟩
  | @inBox i _ _ here =>
    exact ⟨t.team, t.box.eraseIdx i, .all, .eraseIdx here, by simp [joining]⟩

/-- Who was not placed changed nothing. -/
theorem Placed.unplaced (h : Placed t newMon (res, t')) (out : res.placed = false) :
    t' = t ∧ res.released = none := by
  cases h with
  | declined => exact ⟨rfl, rfl⟩
  | party => cases out
  | box => cases out
  | inParty => cases out
  | inBox => cases out

/-- Who is released was the weakest, and the roster full. -/
theorem Placed.released (h : Placed t newMon (res, t')) {old : MonsterInstance}
    (gone : res.released = some old) : Full t ∧ old ∈ t.roster ∧ GivesWay t newMon old := by
  cases h with
  | party => cases gone
  | box => cases gone
  | declined => cases gone
  | inParty full here gives =>
    obtain rfl := Option.some.inj gone
    exact ⟨full, List.mem_append_left _ (List.mem_of_getElem? here), gives⟩
  | inBox full here gives =>
    obtain rfl := Option.some.inj gone
    exact ⟨full, List.mem_append_right _ (List.mem_of_getElem? here), gives⟩

/-- The new roster with whoever was released is the old one with the newcomer. -/
theorem Placed.perm (h : Placed t newMon (res, t')) (placed : res.placed = true) :
    (t'.roster ++ res.released.toList).Perm (newMon :: t.roster) := by
  cases h with
  | party =>
    simp only [Option.toList_none, List.append_nil]
    exact perm_joinTeam t.team t.box
  | box =>
    simp only [Option.toList_none, List.append_nil]
    exact perm_joinBox t.team t.box
  | declined => cases placed
  | @inParty i old _ here =>
    have joined : (t.team.eraseIdx i ++ [newMon] ++ t.box ++ [old]).Perm
        (newMon :: (t.team.eraseIdx i ++ t.box ++ [old])) :=
      (perm_joinTeam _ _).append_right [old]
    refine joined.trans (List.Perm.cons newMon ?_)
    have swap : (t.team.eraseIdx i ++ (t.box ++ [old])).Perm (t.team.eraseIdx i ++ ([old] ++ t.box)) :=
      List.perm_append_comm.append_left _
    rw [← List.append_assoc, ← List.append_assoc] at swap
    exact swap.trans ((Stays.eraseIdx here).perm.append_right t.box)
  | @inBox i old _ here =>
    have joined : (t.team ++ (t.box.eraseIdx i ++ [newMon]) ++ [old]).Perm
        (newMon :: (t.team ++ t.box.eraseIdx i ++ [old])) :=
      (perm_joinBox _ _).append_right [old]
    refine joined.trans (List.Perm.cons newMon ?_)
    have back : (t.team ++ (t.box.eraseIdx i ++ [old])).Perm t.roster :=
      (Stays.eraseIdx here).perm.append_left t.team
    rw [← List.append_assoc] at back
    exact back

end

/-- **Placement.** What is worth a ball is placed; the roster loses nobody but the weakest of a full
one, to a stronger newcomer. -/
theorem placeNewMonster_loses_nothing (t : Trainer) (newMon : MonsterInstance) :
    (shouldCatch t newMon = true → (placeNewMonster t newMon).1.placed = true) ∧
    ((placeNewMonster t newMon).1.placed = true →
      ((placeNewMonster t newMon).2.roster ++ (placeNewMonster t newMon).1.released.toList).Perm
        (newMon :: t.roster)) ∧
    ((placeNewMonster t newMon).1.placed = false →
      (placeNewMonster t newMon).2 = t ∧ (placeNewMonster t newMon).1.released = none) ∧
    (∀ old, (placeNewMonster t newMon).1.released = some old →
      Full t ∧ old ∈ t.roster ∧ GivesWay t newMon old) ∧
    ∃ team box, KeepsOthers t newMon (placeNewMonster t newMon).1 (placeNewMonster t newMon).2
      team box := by
  have placed := placeNewMonster_placed t newMon
  refine ⟨?_, placed.perm, placed.unplaced, fun _ => placed.released, placed.keepsOthers⟩
  intro wanted
  exact (placed.of_wanted (shouldCatch_wanted wanted).worth).1

end Pokeage.Game
