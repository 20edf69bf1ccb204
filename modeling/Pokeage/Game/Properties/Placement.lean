import Pokeage.Game.Factory
import Pokeage.Game.Properties.Outcome

/-!
# The roster

`Placed` and `Wanted` say what `placeNewMonster` and `shouldCatch` can do. A run keeps the roster
within its caps and free of duplicates because a wanted monster is new to it and a placed one takes a
free place or that of somebody else.
-/

namespace Pokeage.Game

/-- Team and box together. -/
def Trainer.roster (t : Trainer) : List MonsterInstance := t.team ++ t.box

/-! ## The weakest -/

/-- What the scan for the weakest has found: an index of the list with its power. -/
def PowerAt (all : List MonsterInstance) (w : ℕ × ℤ) : Prop :=
  ∃ m, all[w.1]? = some m ∧ getMonsterPower m = w.2

/-- The scan keeps the weakest of those it has seen. -/
theorem weakest_scan {all : List MonsterInstance} {seen : List (MonsterInstance × ℕ)}
    (inside : ∀ p ∈ seen, all[p.2]? = some p.1) {w : ℕ × ℤ} (found : PowerAt all w) :
    let w' := seen.foldl
      (fun weak m => if getMonsterPower m.1 < weak.2 then (m.2, getMonsterPower m.1) else weak) w
    PowerAt all w' ∧ w'.2 ≤ w.2 ∧ ∀ p ∈ seen, w'.2 ≤ getMonsterPower p.1 := by
  induction seen generalizing w with
  | nil => exact ⟨found, le_rfl, by simp⟩
  | cons p seen ih =>
    have rest : ∀ p ∈ seen, all[p.2]? = some p.1 := fun p hp => inside p (List.mem_cons_of_mem _ hp)
    simp only [List.foldl_cons, List.forall_mem_cons]
    by_cases weaker : getMonsterPower p.1 < w.2
    · rw [if_pos weaker]
      obtain ⟨at_, le, all_le⟩ := ih (w := (p.2, getMonsterPower p.1)) rest
        ⟨p.1, inside p List.mem_cons_self, rfl⟩
      exact ⟨at_, le.trans weaker.le, le, all_le⟩
    · rw [if_neg weaker]
      obtain ⟨at_, le, all_le⟩ := ih rest found
      exact ⟨at_, le, le.trans (not_lt.1 weaker), all_le⟩

/-- It ends at the weakest of all. -/
theorem weakestIdx_spec {all : List MonsterInstance} (nonempty : all ≠ []) :
    PowerAt all (weakestIdx all) ∧ ∀ m ∈ all, (weakestIdx all).2 ≤ getMonsterPower m := by
  cases all with
  | nil => exact absurd rfl nonempty
  | cons first rest =>
    have inside : ∀ p ∈ (first :: rest).zipIdx, (first :: rest)[p.2]? = some p.1 :=
      fun p hp => List.mem_zipIdx_iff_getElem?.1 hp
    obtain ⟨at_, -, all_le⟩ :=
      weakest_scan inside (w := (0, getMonsterPower first)) ⟨first, rfl, rfl⟩
    refine ⟨at_, fun m hm => ?_⟩
    obtain ⟨i, hi⟩ := List.mem_iff_getElem?.1 hm
    exact all_le (m, i) (List.mem_zipIdx_iff_getElem?.2 hi)

/-! ## Placing -/

/-- Both lists are at their caps. -/
structure Full (t : Trainer) : Prop where
  team : partySize ≤ t.team.length
  box : boxSize ≤ t.box.length

/-- Somebody who gives way to a newcomer: nobody is weaker, and the newcomer is stronger. -/
structure GivesWay (t : Trainer) (newMon old : MonsterInstance) : Prop where
  weakest : ∀ m ∈ t.roster, getMonsterPower old ≤ getMonsterPower m
  stronger : getMonsterPower old < getMonsterPower newMon

/-- What placing can come to. -/
inductive Placed (t : Trainer) (newMon : MonsterInstance) : PlacementResult × Trainer → Prop
  | party (room : t.team.length < partySize) :
      Placed t newMon (⟨true, .party, none⟩, { t with team := t.team ++ [newMon] })
  | box (full : partySize ≤ t.team.length) (room : t.box.length < boxSize) :
      Placed t newMon (⟨true, .box, none⟩, { t with box := t.box ++ [newMon] })
  | declined (full : Full t) (weak : ∀ m ∈ t.roster, getMonsterPower newMon ≤ getMonsterPower m) :
      Placed t newMon (⟨false, .none, none⟩, t)
  | inParty {i : ℕ} {old : MonsterInstance} (full : Full t) (here : t.team[i]? = some old)
      (gives : GivesWay t newMon old) :
      Placed t newMon
        (⟨true, .party, some old⟩, { t with team := t.team.eraseIdx i ++ [newMon] })
  | inBox {i : ℕ} {old : MonsterInstance} (full : Full t) (here : t.box[i]? = some old)
      (gives : GivesWay t newMon old) :
      Placed t newMon (⟨true, .box, some old⟩, { t with box := t.box.eraseIdx i ++ [newMon] })

/-- `placeNewMonster` does one of four things. -/
theorem placeNewMonster_placed (t : Trainer) (newMon : MonsterInstance) :
    Placed t newMon (placeNewMonster t newMon) := by
  unfold placeNewMonster
  by_cases room : t.team.length < partySize
  · rw [if_pos room]
    exact .party room
  rw [if_neg room]
  by_cases boxRoom : t.box.length < boxSize
  · rw [if_pos boxRoom]
    exact .box (not_lt.1 room) boxRoom
  rw [if_neg boxRoom]
  have full : Full t := ⟨not_lt.1 room, not_lt.1 boxRoom⟩
  have nonempty : t.team ++ t.box ≠ [] := by
    intro none
    have empty : t.team = [] := (List.append_eq_nil_iff.1 none).1
    rw [empty] at room
    exact room (by decide)
  obtain ⟨⟨old, here, power⟩, weakest⟩ := weakestIdx_spec nonempty
  dsimp only
  split
  · next weak => exact .declined full fun m hm => weak.trans (weakest m hm)
  · next stronger =>
    have gives : GivesWay t newMon old :=
      ⟨fun m hm => power.le.trans (weakest m hm), power.trans_lt (not_le.1 stronger)⟩
    split
    · next inTeam =>
      rw [List.getElem?_append_left inTeam] at here
      rw [here]
      exact .inParty full here gives
    · next inTeam =>
      rw [List.getElem?_append_right (not_lt.1 inTeam)] at here
      rw [here]
      exact .inBox full here gives

section

variable {t t' : Trainer} {newMon : MonsterInstance} {res : PlacementResult}

theorem perm_joinTeam (team box : List MonsterInstance) :
    (team ++ [newMon] ++ box).Perm (newMon :: (team ++ box)) := by
  rw [List.append_assoc]
  exact List.perm_middle

theorem perm_joinBox (team box : List MonsterInstance) :
    (team ++ (box ++ [newMon])).Perm (newMon :: (team ++ box)) := by
  rw [← List.append_assoc]
  exact List.perm_append_singleton newMon (team ++ box)

/-- Nobody joins but the newcomer. -/
theorem Placed.subperm (h : Placed t newMon (res, t')) :
    List.Subperm t'.roster (newMon :: t.roster) := by
  cases h with
  | party => exact (perm_joinTeam t.team t.box).subperm
  | box => exact (perm_joinBox t.team t.box).subperm
  | declined => exact (List.sublist_cons_self _ _).subperm
  | @inParty i =>
    have fewer : (t.team.eraseIdx i ++ t.box).Sublist t.roster :=
      (List.eraseIdx_sublist t.team i).append_right t.box
    exact (perm_joinTeam (t.team.eraseIdx i) t.box).subperm.trans (fewer.cons_cons newMon).subperm
  | @inBox i =>
    have fewer : (t.team ++ t.box.eraseIdx i).Sublist t.roster :=
      (List.eraseIdx_sublist t.box i).append_left t.team
    exact (perm_joinBox t.team (t.box.eraseIdx i)).subperm.trans (fewer.cons_cons newMon).subperm

/-- Nobody appears in the roster but the new one. -/
theorem Placed.mem (h : Placed t newMon (res, t')) {m : MonsterInstance} (hm : m ∈ t'.roster) :
    m = newMon ∨ m ∈ t.roster :=
  List.mem_cons.1 (h.subperm.subset hm)

/-- The team is what it was, or less somebody and with the newcomer. -/
theorem Placed.mem_team (h : Placed t newMon (res, t')) {m : MonsterInstance} (hm : m ∈ t'.team) :
    m = newMon ∨ m ∈ t.team := by
  have joined {team : List MonsterInstance} (fewer : team ⊆ t.team) (hm : m ∈ team ++ [newMon]) :
      m = newMon ∨ m ∈ t.team := by
    rcases List.mem_append.1 hm with hm | hm
    · exact .inr (fewer hm)
    · exact .inl (List.mem_singleton.1 hm)
  cases h with
  | party => exact joined (List.Subset.refl _) hm
  | inParty => exact joined List.eraseIdx_subset hm
  | box => exact .inr hm
  | declined => exact .inr hm
  | inBox => exact .inr hm

end

/-! ## Choosing -/

/-- What a positive answer of `shouldCatch` says. -/
structure Wanted (t : Trainer) (wild : MonsterInstance) : Prop where
  enabled : t.strat.catchEnabled ≠ some false
  balls : 0 < t.items.ball
  fresh : ∀ m ∈ t.roster, m.templateId ≠ wild.templateId
  slot : t.strat.prioritizeRare = some false →
    (t.team.filter fun m => m.type = wild.type).length < sameTypeLimit
  worth : t.roster.length < partySize + boxSize ∨ isUpgrade t.roster wild = true

/-- What the engine throws a ball for. -/
theorem shouldCatch_wanted {t : Trainer} {wild : MonsterInstance}
    (h : shouldCatch t wild = true) : Wanted t wild := by
  unfold shouldCatch at h
  dsimp only at h
  split_ifs at h with enabled balls dup slot
  refine ⟨enabled, not_le.1 balls, ?_, ?_, ?_⟩
  · intro m hm same
    rcases List.mem_append.1 hm with hm | hm
    · exact dup (Bool.or_eq_true_iff.2 (.inl (List.any_eq_true.2 ⟨m, hm, by simpa using same⟩)))
    · exact dup (Bool.or_eq_true_iff.2 (.inr (List.any_eq_true.2 ⟨m, hm, by simpa using same⟩)))
  · intro plain
    simp only [plain, ne_eq, not_true_eq_false, decide_false, Bool.and_false, Bool.false_or,
      Bool.not_eq_true', Bool.not_eq_false, Bool.and_eq_true, decide_eq_true_eq] at slot
    exact slot.2
  · rcases Bool.or_eq_true_iff.1 h with room | upgrade
    · exact .inl (of_decide_eq_true room)
    · exact .inr upgrade

/-! ## The caps -/

/-- Team and box are within their caps, and no species is there twice. -/
structure RosterOk (t : Trainer) : Prop where
  team : t.team.length ≤ partySize
  box : t.box.length ≤ boxSize
  distinct : (t.roster.map (·.templateId)).Nodup

/-- No type takes up more than its share of the team. -/
def TypesShared (t : Trainer) : Prop :=
  ∀ type, (t.team.filter fun m => m.type = type).length ≤ sameTypeLimit

/-- Neither list is shorter than it was. -/
structure NoShorter (t t' : Trainer) : Prop where
  team : t.team.length ≤ t'.team.length
  box : t.box.length ≤ t'.box.length

theorem NoShorter.refl (t : Trainer) : NoShorter t t := ⟨le_rfl, le_rfl⟩

theorem NoShorter.trans {t t' t'' : Trainer} (h : NoShorter t t') (h' : NoShorter t' t'') :
    NoShorter t t'' :=
  ⟨h.team.trans h'.team, h.box.trans h'.box⟩

section

variable {t t' : Trainer} {newMon : MonsterInstance} {res : PlacementResult}

theorem length_eraseIdx_append {l : List MonsterInstance} {i : ℕ} {old : MonsterInstance}
    (here : l[i]? = some old) : (l.eraseIdx i ++ [newMon]).length = l.length := by
  obtain ⟨inside, -⟩ := List.getElem?_eq_some_iff.1 here
  rw [List.length_append, List.length_singleton]
  exact List.length_eraseIdx_add_one inside

/-- A placement makes neither list shorter. -/
theorem Placed.noShorter (h : Placed t newMon (res, t')) : NoShorter t t' := by
  cases h with
  | party => exact ⟨by simp, le_rfl⟩
  | box => exact ⟨le_rfl, by simp⟩
  | declined => exact .refl t
  | inParty _ here => exact ⟨(length_eraseIdx_append here).ge, le_rfl⟩
  | inBox _ here => exact ⟨le_rfl, (length_eraseIdx_append here).ge⟩

/-- Placing touches nothing but team and box. -/
theorem Placed.same {α : Type} {f : Trainer → α}
    (lists : ∀ (t : Trainer) (team box : List MonsterInstance), f { t with team, box } = f t)
    (h : Placed t newMon (res, t')) : f t' = f t := by
  cases h with
  | party => exact lists t _ t.box
  | box => exact lists t t.team _
  | declined => rfl
  | inParty => exact lists t _ t.box
  | inBox => exact lists t t.team _

/-- A newcomer of a new species is placed within the caps. -/
theorem Placed.rosterOk (h : Placed t newMon (res, t')) (ok : RosterOk t)
    (fresh : ∀ m ∈ t.roster, m.templateId ≠ newMon.templateId) : RosterOk t' := by
  have distinct : (t'.roster.map (·.templateId)).Nodup := by
    obtain ⟨l, perm, sub⟩ := h.subperm
    have new : ((newMon :: t.roster).map (·.templateId)).Nodup := by
      rw [List.map_cons, List.nodup_cons]
      refine ⟨?_, ok.distinct⟩
      intro dup
      obtain ⟨m, hm, same⟩ := List.mem_map.1 dup
      exact fresh m hm same
    exact (perm.map _).nodup_iff.1 ((sub.map _).nodup new)
  cases h with
  | party room =>
    have grown : (t.team ++ [newMon]).length ≤ partySize := by
      rw [List.length_append]
      exact room
    exact ⟨grown, ok.box, distinct⟩
  | box _ room =>
    have grown : (t.box ++ [newMon]).length ≤ boxSize := by
      rw [List.length_append]
      exact room
    exact ⟨ok.team, grown, distinct⟩
  | declined => exact ok
  | inParty _ here => exact ⟨(length_eraseIdx_append here).trans_le ok.team, ok.box, distinct⟩
  | inBox _ here => exact ⟨ok.team, (length_eraseIdx_append here).trans_le ok.box, distinct⟩

theorem filter_append_le {l : List MonsterInstance} (p : MonsterInstance → Bool) {limit : ℕ}
    (le : (l.filter p).length ≤ limit) (slot : p newMon → (l.filter p).length < limit) :
    ((l ++ [newMon]).filter p).length ≤ limit := by
  rw [List.filter_append, List.length_append]
  by_cases hp : p newMon
  · rw [List.filter_cons_of_pos hp]
    exact slot hp
  · rw [List.filter_cons_of_neg hp]
    exact le

/-- With a slot open for its type, the newcomer does not crowd the team. -/
theorem Placed.typesShared (h : Placed t newMon (res, t')) (shared : TypesShared t)
    (slot : (t.team.filter fun m => m.type = newMon.type).length < sameTypeLimit) :
    TypesShared t' := by
  have slot' : ∀ {type}, decide (newMon.type = type) = true →
      (t.team.filter fun m => m.type = type).length < sameTypeLimit := by
    intro type same
    rw [← of_decide_eq_true same]
    exact slot
  cases h with
  | party => exact fun type => filter_append_le _ (shared type) slot'
  | box => exact shared
  | declined => exact shared
  | @inParty i =>
    intro type
    have fewer : ((t.team.eraseIdx i).filter fun m => m.type = type).length ≤
        (t.team.filter fun m => m.type = type).length :=
      ((List.eraseIdx_sublist t.team i).filter _).length_le
    exact filter_append_le _ (fewer.trans (shared type))
      fun same => fewer.trans_lt (slot' same)
  | inBox => exact shared

/-- The starter is the whole roster. -/
theorem mem_newTrainer_roster {fl : Floats} {id name : String} {registry : Registry}
    {opts : NewTrainerOptions} {m : MonsterInstance}
    (h : m ∈ (newTrainer fl id name registry opts).roster) :
    ∃ tpl, registry.getMonsterById (opts.starterId.getD 1) = some tpl ∧
      m = createMonsterInstance fl tpl (opts.starterLevel.getD 5) := by
  have h : m ∈ (newTrainer fl id name registry opts).team ++ [] := h
  rw [List.append_nil] at h
  exact mem_newTrainer_team h

/-- A new trainer has a roster as the engine keeps it. -/
theorem newTrainer_rosterOk {fl : Floats} {id name : String} {registry : Registry}
    {opts : NewTrainerOptions} : RosterOk (newTrainer fl id name registry opts) := by
  refine ⟨newTrainer_team_length.trans (by decide), Nat.zero_le _, ?_⟩
  unfold Trainer.roster newTrainer
  dsimp only
  split <;> simp

end

namespace Engine

variable {env : Env} {t t' : Trainer} {team : List MonsterInstance}

/-! ## Ticks -/

/-- A team that has changed is the old one in number and kind. -/
theorem TeamGrown.length_eq (h : TeamGrown env t.team team) : team.length = t.team.length :=
  (List.Forall₂.length_eq h).symm

/-- Growing keeps the species. -/
theorem TeamGrown.species (h : TeamGrown env t.team team) :
    team.map (·.templateId) = t.team.map (·.templateId) :=
  h.map_eq fun _ _ last => last.same fun _ _ _ _ _ _ _ => rfl

theorem TeamGrown.types (h : TeamGrown env t.team team) (type : MonsterType) :
    (team.filter fun m => m.type = type).length =
      (t.team.filter fun m => m.type = type).length := by
  have same : team.map (·.type) = t.team.map (·.type) :=
    h.map_eq fun _ _ last => last.same fun _ _ _ _ _ _ _ => rfl
  have count (l : List MonsterInstance) :
      (l.filter fun m => m.type = type).length = (l.map (·.type)).count type := by
    rw [List.count, List.countP_map, List.countP_eq_length_filter]
    rfl
  rw [count, count, same]

theorem TeamGrown.rosterOk (h : TeamGrown env t.team t'.team) (box : t'.box = t.box)
    (ok : RosterOk t) : RosterOk t' := by
  refine ⟨h.length_eq.trans_le ok.team, box ▸ ok.box, ?_⟩
  have distinct := ok.distinct
  unfold Trainer.roster at distinct ⊢
  rw [List.map_append] at distinct ⊢
  rw [h.species, box]
  exact distinct

/-- What a tick does to team and box: the team changes, and then a wild monster may join. -/
inductive RosterStep (env : Env) (t t' : Trainer) : Prop
  | same (grown : TeamGrown env t.team t'.team) (box : t'.box = t.box)
  | joined {t₁ t₂ : Trainer} {wild lead : MonsterInstance} {route : Route} {res : PlacementResult}
      (grown : TeamGrown env t.team t₁.team) (box : t₁.box = t.box)
      (strategy : t₁.strategy = t.strategy) (items : t₁.items = t.items)
      (spawned : Spawned env t wild lead route)
      (wanted : Wanted t₁ wild) (placed : Placed (thrown t₁) wild (res, t₂))
      (team' : t'.team = t₂.team) (box' : t'.box = t₂.box)

/-- What a tick does to the roster. -/
theorem Outcome.rosterStep (h : Outcome env t t') : RosterStep env t t' := by
  cases h with
  | kept => exact .same (List.forall₂_same.2 fun m _ => .refl m) rfl
  | healed => exact .same (teamGrown_heal t.team) rfl
  | moved => exact .same (teamGrown_heal t.team) rfl
  | gymWon _ _ grown => exact .same grown rfl
  | gymLost grown => exact .same grown rfl
  | fought grown => exact .same grown rfl
  | missed grown => exact .same grown rfl
  | @caught team wild lead route grown spawned wanted =>
    have grown' : TeamGrown env t.team (battled t team).team := grown
    exact .joined grown' rfl rfl rfl spawned (shouldCatch_wanted wanted)
      (placeNewMonster_placed (thrown (battled t team)) wild) rfl rfl

/-- No tick touches the strategy. -/
theorem Outcome.strat (h : Outcome env t t') : t'.strat = t.strat := by
  cases h with
  | @caught team wild =>
    have placed := placeNewMonster_placed (thrown (battled t team)) wild
    have same : (placeNewMonster (thrown (battled t team)) wild).2.strat =
        (thrown (battled t team)).strat := placed.same fun _ _ _ => rfl
    exact same
  | _ => rfl

/-- A tick keeps the caps and the species apart. -/
theorem RosterStep.rosterOk (h : RosterStep env t t') (ok : RosterOk t) : RosterOk t' := by
  cases h with
  | same grown box => exact grown.rosterOk box ok
  | @joined t₁ t₂ _ _ _ _ grown box _ _ _ wanted placed team' box' =>
    have before : RosterOk (thrown t₁) := TeamGrown.rosterOk grown box ok
    have after : RosterOk t₂ := placed.rosterOk before wanted.fresh
    refine ⟨team' ▸ after.team, box' ▸ after.box, ?_⟩
    have distinct := after.distinct
    unfold Trainer.roster at distinct ⊢
    rw [team', box']
    exact distinct

/-- A tick makes neither list shorter. -/
theorem RosterStep.noShorter (h : RosterStep env t t') : NoShorter t t' := by
  cases h with
  | same grown box => exact ⟨grown.length_eq.ge, box.symm ▸ le_rfl⟩
  | joined grown box _ _ _ _ placed team' box' =>
    have joined := placed.noShorter
    constructor
    · rw [team', ← grown.length_eq]
      exact joined.team
    · rw [box', ← box]
      exact joined.box

/-- A tick keeps to the type slots, unless rare ones override them. -/
theorem RosterStep.typesShared (h : RosterStep env t t')
    (plain : t.strat.prioritizeRare = some false) (shared : TypesShared t) : TypesShared t' := by
  cases h with
  | same grown =>
    intro type
    rw [grown.types]
    exact shared type
  | @joined t₁ t₂ _ _ _ _ grown _ strategy _ _ wanted placed team' =>
    have before : TypesShared (thrown t₁) := by
      intro type
      exact (grown.types type).trans_le (shared type)
    have slot := wanted.slot (by
      unfold Trainer.strat
      rw [strategy]
      exact plain)
    intro type
    rw [team']
    exact placed.typesShared before slot type

/-- What every change keeps and every wild monster that may be caught has, the whole roster keeps. -/
theorem RosterStep.all {P : MonsterInstance → Prop} (h : RosterStep env t t')
    (keep : ∀ m m', P m → Alters env m m' → P m')
    (wild : ∀ wild lead route, Spawned env t wild lead route → t.strat.catchEnabled ≠ some false →
      0 < t.items.ball → P wild)
    (all : ∀ m ∈ t.roster, P m) : ∀ m ∈ t'.roster, P m := by
  have team : ∀ m ∈ t.team, P m := fun m hm => all m (List.mem_append_left _ hm)
  have box : ∀ m ∈ t.box, P m := fun m hm => all m (List.mem_append_right _ hm)
  cases h with
  | same grown same =>
    intro m hm
    rcases List.mem_append.1 hm with hm | hm
    · exact grown.all keep team m hm
    · exact box m (same ▸ hm)
  | @joined t₁ t₂ newMon lead route res grown same strategy items spawned wanted placed team' box' =>
    have strat : t₁.strat = t.strat := congrArg (·.getD .empty) strategy
    intro m hm
    unfold Trainer.roster at hm
    rw [team', box'] at hm
    rcases placed.mem hm with rfl | hm
    · exact wild m lead route spawned (strat ▸ wanted.enabled) (items ▸ wanted.balls)
    · rcases List.mem_append.1 hm with hm | hm
      · exact grown.all keep team m hm
      · exact box m (same ▸ hm)

/-! ## Runs -/

/-- **Roster invariant.** -/
theorem roster_invariant (env : Env) (e : Engine)
    (start : (∃ id name registry opts, e.trainer = newTrainer env.fl id name registry opts) ∨
      RosterOk e.trainer) {n k : ℕ} (later : n ≤ k) :
    RosterOk (ticks env n e).trainer ∧
    NoShorter (ticks env n e).trainer (ticks env k e).trainer ∧
    (e.trainer.strat.prioritizeRare = some false → TypesShared e.trainer →
      TypesShared (ticks env n e).trainer) := by
  have ok : RosterOk e.trainer := by
    rcases start with ⟨id, name, registry, opts, new⟩ | ok
    · rw [new]
      exact newTrainer_rosterOk
    · exact ok
  refine ⟨?_, ?_, ?_⟩
  · exact ticks_induction (fun _ _ ok step => step.rosterStep.rosterOk ok) ok n
  · obtain ⟨d, rfl⟩ := Nat.exists_eq_add_of_le' later
    have split : ticks env (d + n) e = ticks env d (ticks env n e) :=
      Function.iterate_add_apply _ d n e
    rw [split]
    exact ticks_induction (P := NoShorter (ticks env n e).trainer)
      (fun _ _ so_far step => so_far.trans step.rosterStep.noShorter) (.refl _) d
  · intro plain shared
    have keep : ∀ t t', t.strat.prioritizeRare = some false ∧ TypesShared t → Outcome env t t' →
        t'.strat.prioritizeRare = some false ∧ TypesShared t' :=
      fun t t' h step => ⟨step.strat ▸ h.1, step.rosterStep.typesShared h.1 h.2⟩
    exact (ticks_induction keep ⟨plain, shared⟩ n).2

/-- The trainer of the tests, told not to bend the rules for rares. -/
def strictTrainer : Trainer :=
  { freshTrainer with strategy := some { Strategy.empty with prioritizeRare := some false } }

theorem roster_invariant_strictTrainer :
    RosterOk (ticks sampleEnv 1000 (Engine.new strictTrainer (Rng.new 9))).trainer ∧
    TypesShared (ticks sampleEnv 1000 (Engine.new strictTrainer (Rng.new 9))).trainer := by
  have one : freshTrainer.team.length ≤ 1 := newTrainer_team_length
  have start : RosterOk strictTrainer := by
    have ok : RosterOk freshTrainer := newTrainer_rosterOk
    exact ⟨ok.team, ok.box, ok.distinct⟩
  have shared : TypesShared strictTrainer :=
    fun type => (List.length_filter_le _ _).trans (one.trans (by decide))
  obtain ⟨ok, -, types⟩ := roster_invariant sampleEnv (Engine.new strictTrainer (Rng.new 9))
    (.inr start) (le_refl 1000)
  exact ⟨ok, types rfl shared⟩

end Engine

end Pokeage.Game
