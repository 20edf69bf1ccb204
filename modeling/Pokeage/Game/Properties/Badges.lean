import Pokeage.Game.Properties.Placement

/-!
# Badges

A challenge only asks for the badge of the gym before. With no gym twice, this is enough for the badges
of a run to be those of the first gyms in order: what is held is an initial part of the list, and the
gym that is won next is the one right after it.
-/

namespace Pokeage.Game

/-- An initial part of a list without repeats grows only at its end, if the element before a new one
has to be there already. -/
theorem prefix_grow {α : Type} {all held : List α} (distinct : all.Nodup) (start : held <+: all)
    {k : ℕ} {a : α} (at_ : all[k]? = some a) (new : a ∉ held)
    (before : ∀ j, k = j + 1 → ∀ b, all[j]? = some b → b ∈ held) : held ++ [a] <+: all := by
  obtain ⟨rest, rfl⟩ := start
  have outside : held.length ≤ k := by
    by_contra inside
    rw [List.getElem?_append_left (not_le.1 inside)] at at_
    exact new (List.mem_of_getElem? at_)
  have next : k = held.length := by
    by_contra later
    obtain ⟨j, rfl⟩ : ∃ j, k = j + 1 := ⟨k - 1, by omega⟩
    have behind : held.length ≤ j := by omega
    obtain ⟨reached, -⟩ := List.getElem?_eq_some_iff.1 at_
    obtain ⟨b, there⟩ : ∃ b, (held ++ rest)[j]? = some b :=
      ⟨_, List.getElem?_eq_getElem (Nat.lt_of_succ_lt reached)⟩
    have here : b ∈ held := before j rfl b there
    rw [List.getElem?_append_right behind] at there
    exact (List.nodup_append.1 distinct).2.2 b here b (List.mem_of_getElem? there) rfl
  subst next
  rw [List.getElem?_append_right (Nat.le_refl _), Nat.sub_self] at at_
  cases rest with
  | nil => cases at_
  | cons b rest =>
    obtain rfl : b = a := Option.some.inj at_
    exact ⟨rest, by simp⟩

/-- A town's badge, if it has a gym. -/
def Town.badge (town : Town) : Option String := town.gym.map (·.badge)

/-- No town and no badge is there twice. -/
structure World.Distinct (w : World) : Prop where
  ids : (w.towns.map (·.id)).Nodup
  badges : (w.towns.filterMap Town.badge).Nodup

namespace Engine

variable {env : Env}

/-! ## The order of the gyms -/

variable (env) in
/-- The badges of the gym towns, by the gyms' order. -/
def gymBadges : List String := (gymTowns env).filterMap Town.badge

variable (env) in
/-- Sorting loses no town and adds none. -/
theorem gymTowns_perm : (gymTowns env).Perm (env.world.towns.filter (·.gym.isSome)) :=
  List.perm_insertionSort _ _

/-- The gym towns are the towns with a gym. -/
theorem mem_gymTowns {town : Town} :
    town ∈ gymTowns env ↔ town ∈ env.world.towns ∧ town.gym.isSome := by
  rw [(gymTowns_perm env).mem_iff, List.mem_filter]

theorem gymTowns_ids (distinct : env.world.Distinct) : ((gymTowns env).map (·.id)).Nodup :=
  (((gymTowns_perm env).map _).nodup_iff).2 ((List.filter_sublist.map _).nodup distinct.ids)

theorem gymBadges_nodup (distinct : env.world.Distinct) : (gymBadges env).Nodup :=
  (((gymTowns_perm env).filterMap _).nodup_iff).2
    ((List.filter_sublist.filterMap _).nodup distinct.badges)

/-- Every gym town has a badge, so towns and badges have the same places. -/
theorem getElem?_gymBadges (k : ℕ) : (gymBadges env)[k]? = (gymTowns env)[k]?.bind Town.badge := by
  have full : ∀ town ∈ gymTowns env, town.badge.isSome := by
    intro town gymTown
    unfold Town.badge
    rw [Option.isSome_map]
    exact (mem_gymTowns.1 gymTown).2
  unfold gymBadges
  generalize gymTowns env = l at full ⊢
  induction l generalizing k with
  | nil => rfl
  | cons town l ih =>
    obtain ⟨badge, has⟩ := Option.isSome_iff_exists.1 (full town List.mem_cons_self)
    rw [List.filterMap_cons_some has]
    cases k with
    | zero => simpa using has.symm
    | succ k => exact ih k fun town h => full town (List.mem_cons_of_mem _ h)

/-- A gym town is found at its own place. -/
theorem gymTowns_at {town : Town} (distinct : env.world.Distinct) (gymTown : town ∈ gymTowns env) :
    ∃ k, (gymTowns env).findIdx? (fun t => t.id = town.id) = some k ∧
      (gymTowns env)[k]? = some town := by
  have found : ((gymTowns env).findIdx? fun t => t.id = town.id).isSome := by
    rw [List.findIdx?_isSome, List.any_eq_true]
    exact ⟨town, gymTown, decide_eq_true rfl⟩
  obtain ⟨k, hk⟩ := Option.isSome_iff_exists.1 found
  obtain ⟨inside, same, -⟩ := List.findIdx?_eq_some_iff_getElem.1 hk
  refine ⟨k, hk, ?_⟩
  rw [List.getElem?_eq_getElem inside]
  exact congrArg some (List.inj_on_of_nodup_map (gymTowns_ids distinct) (List.getElem_mem inside)
    gymTown (of_decide_eq_true same))

/-! ## One tick -/

/-- The badges held are those of the first gyms, and the gate of the town is open. An empty name is
no gate. -/
structure Gated (env : Env) (t : Trainer) : Prop where
  badges : t.badges <+: gymBadges env
  gate : ∃ town, currentTown env t = some town ∧
    ∀ badge, truthy town.requiredBadge = some badge → badge ∈ t.badges

/-- The gym that is won is the one after those of the badges. -/
theorem badges_grow (distinct : env.world.Distinct) {t : Trainer} {town : Town} {gym : Gym}
    (held : t.badges <+: gymBadges env) (asked : askedGym env t = some (town, gym))
    (ready : readyFor env t town gym = true) : t.badges ++ [gym.badge] <+: gymBadges env := by
  obtain ⟨at_, hgym, -, -, lacks⟩ := askedGym_eq_some env asked
  have gymTown : town ∈ gymTowns env :=
    mem_gymTowns.2 ⟨List.mem_of_find?_eq_some at_, by rw [hgym]; rfl⟩
  obtain ⟨k, idx, here⟩ := gymTowns_at distinct gymTown
  refine prefix_grow (gymBadges_nodup distinct) held (k := k) ?_ lacks ?_
  · rw [getElem?_gymBadges, here]
    exact congrArg (Option.map (·.badge)) hgym
  · intro j next b earlier
    have before : previousBadge env town = some b := by
      unfold previousBadge
      rw [idx, next]
      dsimp only
      rw [← earlier, getElem?_gymBadges]
      exact Option.map_bind
    unfold readyFor at ready
    rw [before] at ready
    simp only [Bool.and_eq_true, decide_eq_true_eq] at ready
    exact ready.1.1

/-- The town moved to lies behind an open gate. -/
theorem moveTarget_open {t : Trainer} {town next : Town} (target : moveTarget env t town = some next) :
    townById env next.id = some next ∧
      ∀ badge, truthy next.requiredBadge = some badge → badge ∈ t.badges := by
  unfold moveTarget at target
  split at target
  · split_ifs at target
    obtain ⟨found, opened⟩ := Option.filter_eq_some_iff.1 target
    constructor
    · have named := List.find?_some found
      rw [of_decide_eq_true named]
      exact found
    · intro badge required
      rw [required] at opened
      exact of_decide_eq_true opened
  · cases target

/-- No tick skips a badge or a gate. -/
theorem Outcome.gated (distinct : env.world.Distinct) {t t' : Trainer} (h : Outcome env t t')
    (gated : Gated env t) : Gated env t' := by
  obtain ⟨held, town, at_, opened⟩ := gated
  cases h with
  | moved _ target =>
    obtain ⟨found, opened'⟩ := moveTarget_open target
    exact ⟨held, _, found, opened'⟩
  | gymWon asked ready =>
    exact ⟨badges_grow distinct held asked ready, town, at_,
      fun badge required => List.mem_append_left _ (opened badge required)⟩
  | @caught team wild =>
    have placed := placeNewMonster_placed (thrown (battled t team)) wild
    have badges : (placeNewMonster (thrown (battled t team)) wild).2.badges =
        (thrown (battled t team)).badges := placed.same fun _ _ _ => rfl
    have location : (placeNewMonster (thrown (battled t team)) wild).2.location =
        (thrown (battled t team)).location := placed.same fun _ _ _ => rfl
    refine ⟨badges.symm ▸ held, town, ?_, fun badge required => ?_⟩
    · unfold currentTown
      rw [location]
      exact at_
    · rw [badges]
      exact opened badge required
  | _ => exact ⟨held, town, at_, opened⟩

/-! ## Runs -/

/-- **Gym progression.** A run that starts without badges behind no gate holds the badges of the first
gyms, each once, and is never behind a gate it has no badge for. -/
theorem badges_gated (env : Env) (distinct : env.world.Distinct) (e : Engine)
    (unbadged : e.trainer.badges = []) {start : Town} (at_ : currentTown env e.trainer = some start)
    (free : truthy start.requiredBadge = none) (n : ℕ) :
    (ticks env n e).trainer.badges <+: gymBadges env ∧ (ticks env n e).trainer.badges.Nodup ∧
    ∃ town, currentTown env (ticks env n e).trainer = some town ∧
      ∀ badge, truthy town.requiredBadge = some badge → badge ∈ (ticks env n e).trainer.badges := by
  have fresh : Gated env e.trainer := by
    refine ⟨unbadged ▸ List.nil_prefix, start, at_, ?_⟩
    intro badge required
    rw [free] at required
    cases required
  have gated := ticks_induction (fun _ _ gated step => step.gated distinct gated) fresh n
  exact ⟨gated.badges, gated.badges.sublist.nodup (gymBadges_nodup distinct), gated.gate⟩

theorem sampleEnv_distinct : sampleEnv.world.Distinct := ⟨by decide, by decide⟩

example : gymBadges sampleEnv =
    ["NORMAL", "INSECT", "BOULDER", "STREAM", "BOLT", "BLOOM", "MURK", "GHOST", "SAGE", "EMBER",
      "STEEL", "HORN"] := by decide

theorem badges_gated_freshEngine :
    (ticks sampleEnv 5000 (freshEngine 123)).trainer.badges <+: gymBadges sampleEnv :=
  (badges_gated sampleEnv sampleEnv_distinct (freshEngine 123) rfl rfl rfl 5000).1

end Engine

end Pokeage.Game
