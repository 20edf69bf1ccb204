import Pokeage.Game.Factory

/-!
# The odds of the rare pool

A pool that holds a legendary is to be rolled at the odds of a legendary zone. The roll looks at the
first of the pool only, so a pool of both kinds is rolled at odds that depend on its order.
-/

namespace Pokeage.Game

/-- The odds with a legendary. -/
def legendThreshold (fl : Floats) (buffs : EncounterBuffs) : ℚ :=
  fl (fl legendZoneChance * buffs.legend.getD 1)

/-- The odds without. -/
def rareThreshold (fl : Floats) (buffs : EncounterBuffs) : ℚ :=
  fl (fl rareZoneChance * buffs.rare.getD 1)

/-- What `generateWildMonster` rolls the rare pool against. -/
def poolChance (fl : Floats) (route : Route) (getTemplate : TemplateResolver)
    (buffs : EncounterBuffs) : ℚ :=
  if hasLegendary getTemplate route.rarePool then legendThreshold fl buffs else rareThreshold fl buffs

/-- Whether the rare pool is entered. -/
def entersRare (fl : Floats) (route : Route) (getTemplate : TemplateResolver) (r : Rng)
    (buffs : EncounterBuffs) : Bool :=
  (rollSpecies fl route getTemplate r buffs).2.1

/-- The species of the id is legendary. -/
def isLegendary (getTemplate : TemplateResolver) (id : ℕ) : Bool :=
  match getTemplate id with
  | some tpl => tpl.rarity = some .legendary
  | none => false

/-- The odds that the documentation gives: one legendary in the pool is enough. -/
def documentedChance (fl : Floats) (route : Route) (getTemplate : TemplateResolver)
    (buffs : EncounterBuffs) : ℚ :=
  if route.rarePool.any (isLegendary getTemplate) then legendThreshold fl buffs
  else rareThreshold fl buffs

variable {fl : Floats} {route : Route} {getTemplate : TemplateResolver} {r : Rng}
  {buffs : EncounterBuffs}

/-- The pool is entered by one roll. -/
theorem entersRare_eq (nonempty : route.rarePool ≠ []) :
    entersRare fl route getTemplate r buffs =
      (r.chance (poolChance fl route getTemplate buffs)).1 := by
  have at_ (p : ℚ) : (if (r.chance p).1 then
      (((r.chance p).2.pick fl route.rarePool).1, true, ((r.chance p).2.pick fl route.rarePool).2)
      else (((r.chance p).2.pick fl route.wildPool).1, false,
        ((r.chance p).2.pick fl route.wildPool).2)).2.1 = (r.chance p).1 := by
    by_cases enters : (r.chance p).1 = true
    · rw [if_pos enters, enters]
    · rw [if_neg enters, Bool.eq_false_of_not_eq_true enters]
  unfold entersRare rollSpecies
  rw [if_neg nonempty]
  exact at_ (poolChance fl route getTemplate buffs)

/-! ## The first of the pool -/

@[simp] theorem hasLegendary_cons (id : ℕ) (rest : List ℕ) :
    hasLegendary getTemplate (id :: rest) = isLegendary getTemplate id := rfl

theorem hasLegendary_any {pool : List ℕ} (first : hasLegendary getTemplate pool = true) :
    pool.any (isLegendary getTemplate) = true := by
  cases pool with
  | nil => cases first
  | cons id rest =>
    rw [hasLegendary_cons] at first
    rw [List.any_cons, first, Bool.true_or]

theorem hasLegendary_of_all {pool : List ℕ} (nonempty : pool ≠ [])
    (all : ∀ id ∈ pool, isLegendary getTemplate id = true) :
    hasLegendary getTemplate pool = true := by
  cases pool with
  | nil => exact absurd rfl nonempty
  | cons id rest => exact all id List.mem_cons_self

/-- Any of a pool comes first in some order of it. -/
theorem exists_order {pool : List ℕ} {id : ℕ} (h : id ∈ pool) :
    ∃ rest, (id :: rest).Perm pool :=
  ⟨pool.erase id, (List.perm_cons_erase h).symm⟩

/-- Whether the pool is entered is the same in every order of it. -/
def OrderFree (fl : Floats) (route : Route) (getTemplate : TemplateResolver) (r : Rng)
    (buffs : EncounterBuffs) : Prop :=
  ∀ pool, pool.Perm route.rarePool →
    entersRare fl { route with rarePool := pool } getTemplate r buffs =
      entersRare fl route getTemplate r buffs

/-- When the first of the pool stands for all of it: the pool is of one kind, or the odds make no
difference. -/
inductive FirstStands (fl : Floats) (route : Route) (getTemplate : TemplateResolver) (r : Rng)
    (buffs : EncounterBuffs) : Prop
  | sameOdds (same : legendThreshold fl buffs = rareThreshold fl buffs)
  | rares (all : ∀ id ∈ route.rarePool, isLegendary getTemplate id = false)
  | legends (all : ∀ id ∈ route.rarePool, isLegendary getTemplate id = true)
  | sameRoll (first : hasLegendary getTemplate route.rarePool = true)
      (same : (r.chance (legendThreshold fl buffs)).1 = (r.chance (rareThreshold fl buffs)).1)

theorem ne_nil_of_perm {pool pool' : List ℕ} (perm : pool.Perm pool') (nonempty : pool' ≠ []) :
    pool ≠ [] := by
  rintro rfl
  exact nonempty perm.symm.eq_nil

/-- In whichever order, the pool is rolled against one of the two. -/
theorem orderFree_of_chances (nonempty : route.rarePool ≠ [])
    (same : ∀ pool, pool.Perm route.rarePool →
      (r.chance (poolChance fl { route with rarePool := pool } getTemplate buffs)).1 =
        (r.chance (poolChance fl route getTemplate buffs)).1) :
    OrderFree fl route getTemplate r buffs := by
  intro pool perm
  have enters : entersRare fl { route with rarePool := pool } getTemplate r buffs =
      (r.chance (poolChance fl { route with rarePool := pool } getTemplate buffs)).1 :=
    entersRare_eq (ne_nil_of_perm perm nonempty)
  rw [entersRare_eq nonempty, enters]
  exact same pool perm

/-- If the first stands for the pool, its order does not matter. -/
theorem FirstStands.orderFree (nonempty : route.rarePool ≠ [])
    (h : FirstStands fl route getTemplate r buffs) : OrderFree fl route getTemplate r buffs := by
  apply orderFree_of_chances nonempty
  intro pool perm
  have nonempty' : pool ≠ [] := ne_nil_of_perm perm nonempty
  unfold poolChance
  cases h with
  | sameOdds same => simp [same]
  | sameRoll first same =>
    rw [if_pos first]
    split
    · rfl
    · exact same.symm
  | legends all =>
    rw [if_pos (hasLegendary_of_all nonempty all),
      if_pos (hasLegendary_of_all nonempty' fun id hid => all id (perm.subset hid))]
  | rares all =>
    have none {pool : List ℕ} (sub : pool ⊆ route.rarePool) :
        ¬ hasLegendary getTemplate pool = true := by
      intro first
      obtain ⟨id, hid, legend⟩ := List.any_eq_true.1 (hasLegendary_any first)
      rw [all id (sub hid)] at legend
      cases legend
    rw [if_neg (none perm.subset), if_neg (none (List.Subset.refl _))]

/-- And the odds are those of the documentation. -/
theorem FirstStands.documented (nonempty : route.rarePool ≠ [])
    (h : FirstStands fl route getTemplate r buffs) :
    poolChance fl route getTemplate buffs = documentedChance fl route getTemplate buffs := by
  unfold poolChance documentedChance
  cases h with
  | sameOdds same => simp [same]
  | sameRoll first => rw [if_pos first, if_pos (hasLegendary_any first)]
  | legends all =>
    have first := hasLegendary_of_all nonempty all
    rw [if_pos first, if_pos (hasLegendary_any first)]
  | rares all =>
    have none : ¬ route.rarePool.any (isLegendary getTemplate) = true := by
      intro some_
      obtain ⟨id, hid, legend⟩ := List.any_eq_true.1 some_
      rw [all id hid] at legend
      cases legend
    rw [if_neg none, if_neg fun first => none (hasLegendary_any first)]

/-- A pool of both kinds can be put in an order that starts with either. -/
theorem OrderFree.sameRoll (h : OrderFree fl route getTemplate r buffs) {legend rare : ℕ}
    (mem : legend ∈ route.rarePool) (isLegend : isLegendary getTemplate legend = true)
    (mem' : rare ∈ route.rarePool) (isRare : isLegendary getTemplate rare = false) :
    (r.chance (legendThreshold fl buffs)).1 = (r.chance (rareThreshold fl buffs)).1 := by
  obtain ⟨others, perm⟩ := exists_order mem
  obtain ⟨others', perm'⟩ := exists_order mem'
  have first := h _ perm
  have first' := h _ perm'
  rw [entersRare_eq (by simp)] at first first'
  simp only [poolChance, hasLegendary_cons, isLegend, isRare, if_true, Bool.false_eq_true,
    if_false] at first first'
  exact first.trans first'.symm

/-- Conversely, the first stands for the pool if both hold. -/
theorem firstStands_of
    (documented : poolChance fl route getTemplate buffs =
      documentedChance fl route getTemplate buffs)
    (free : OrderFree fl route getTemplate r buffs) :
    FirstStands fl route getTemplate r buffs := by
  by_cases rares : ∀ id ∈ route.rarePool, isLegendary getTemplate id = false
  · exact .rares rares
  by_cases legends : ∀ id ∈ route.rarePool, isLegendary getTemplate id = true
  · exact .legends legends
  push Not at rares legends
  obtain ⟨legend, mem, isLegend⟩ := rares
  obtain ⟨rare, mem', isRare⟩ := legends
  have isLegend : isLegendary getTemplate legend = true := Bool.eq_true_of_not_eq_false isLegend
  have same := free.sameRoll mem isLegend mem' (Bool.eq_false_of_not_eq_true isRare)
  by_cases first : hasLegendary getTemplate route.rarePool = true
  · exact .sameRoll first same
  · -- the odds of rares are taken for those of legends, which the documentation allows if they agree
    unfold poolChance documentedChance at documented
    rw [if_neg first, if_pos (List.any_eq_true.2 ⟨legend, mem, isLegend⟩)] at documented
    exact .sameOdds documented.symm

/-- **Odds of the rare pool.** They are as documented, and the order of the pool does not matter,
exactly when the first of it stands for all. -/
theorem rarePool_odds (fl : Floats) (route : Route) (getTemplate : TemplateResolver) (r : Rng)
    (buffs : EncounterBuffs) (nonempty : route.rarePool ≠ []) :
    entersRare fl route getTemplate r buffs =
        (r.chance (poolChance fl route getTemplate buffs)).1 ∧
    (poolChance fl route getTemplate buffs = documentedChance fl route getTemplate buffs ∧
        OrderFree fl route getTemplate r buffs ↔
      FirstStands fl route getTemplate r buffs) :=
  ⟨entersRare_eq nonempty, fun h => firstStands_of h.1 h.2,
    fun h => ⟨h.documented nonempty, h.orderFree nonempty⟩⟩

/-- A route whose rare pool holds a legendary behind one that is not. -/
def mixedRoute : Route := ⟨"route-13", "ROUTE 13", (46, 52), [4, 7], [14, 40], 0.05⟩

theorem rarePool_odds_legendFirst :
    entersRare exactFloats { mixedRoute with rarePool := [40, 14] } sampleRegistry.getMonsterById
        ⟨1⟩ ⟨none, none⟩ = (Rng.chance ⟨1⟩ 0.008).1 ∧
      OrderFree exactFloats { mixedRoute with rarePool := [40, 14] } sampleRegistry.getMonsterById
        ⟨1⟩ ⟨none, none⟩ := by
  obtain ⟨enters, exactly⟩ := rarePool_odds exactFloats { mixedRoute with rarePool := [40, 14] }
    sampleRegistry.getMonsterById ⟨1⟩ ⟨none, none⟩ (by decide)
  refine ⟨enters.trans (by decide +kernel), (exactly.2 ?_).2⟩
  exact .sameRoll (by decide) (by decide +kernel)

/-- The legendary is second: the odds are those of a rare zone, and a roll enters the pool that would
not with the legendary first. -/
theorem not_rarePool_odds_mixedRoute :
    mixedRoute.rarePool ≠ [] ∧
    poolChance exactFloats mixedRoute sampleRegistry.getMonsterById ⟨none, none⟩ ≠
      documentedChance exactFloats mixedRoute sampleRegistry.getMonsterById ⟨none, none⟩ ∧
    ¬ OrderFree exactFloats mixedRoute sampleRegistry.getMonsterById ⟨7⟩ ⟨none, none⟩ := by
  refine ⟨by decide, by decide +kernel, ?_⟩
  intro free
  have turned := free [40, 14] (by decide)
  have differ : entersRare exactFloats { mixedRoute with rarePool := [40, 14] }
      sampleRegistry.getMonsterById ⟨7⟩ ⟨none, none⟩ ≠
      entersRare exactFloats mixedRoute sampleRegistry.getMonsterById ⟨7⟩ ⟨none, none⟩ := by
    decide +kernel
  exact differ turned

end Pokeage.Game
