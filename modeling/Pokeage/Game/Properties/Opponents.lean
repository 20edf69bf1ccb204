import Pokeage.Infra.Ranking
import Pokeage.Game.Opponents
import Pokeage.Game.Properties.Stream
import Pokeage.Game.Properties.WellFormed

/-!
# Fields of opponents

A field is drawn without a throw, one trainer for each index, and ranked by power (`generateOpponents_field`).
A team is short of its size only if the guard ran out, and the number of draws tells which
(`Drafted`). As trainers of the engine, opponents with teams of at most four keep what the player's
trainer keeps (`opponents_run`).
-/

namespace Pokeage.Game

open Infra.Ranking

variable {fl : Floats}

/-! ## One team -/

/-- A draw from a pool gives one of it. -/
theorem Rng.pick_mem (parts : fl.Parts) {α : Type} {arr : List α} (nonempty : arr ≠ []) (r : Rng) :
    ∃ a ∈ arr, r.pick fl arr = (some a, r.after 1) := by
  have whole : (0 : ℤ) < arr.length := by
    exact_mod_cast List.length_pos_iff.2 nonempty
  obtain ⟨nonneg, below⟩ := parts r.next.1 arr.length r.next_nonneg r.next_le whole
  have low := Int.floor_nonneg.2 nonneg
  have high := Int.floor_lt.2 below
  have inside : ⌊fl (r.next.1 * (arr.length : ℤ))⌋.toNat < arr.length := by omega
  refine ⟨_, List.getElem_mem inside, ?_⟩
  have read : at? arr ⌊fl (r.next.1 * arr.length)⌋ =
      some (arr[⌊fl (r.next.1 * (arr.length : ℤ))⌋.toNat]) := by
    have cast : ((arr.length : ℤ) : ℚ) = arr.length := Int.cast_natCast _
    rw [← cast]
    unfold at?
    rw [if_pos low, List.getElem?_eq_getElem inside]
  unfold pick
  dsimp only
  rw [read]
  rfl

/-- The members come from the pool, at levels around the target, and no two are of one species. -/
structure Members (fl : Floats) (pool : List MonsterTemplate) (level spread : ℤ)
    (team : List MonsterInstance) : Prop where
  species : (team.map (·.templateId)).Nodup
  drawn : ∀ m ∈ team, ∃ tpl ∈ pool, ∃ off, |off| ≤ |spread| ∧
    m = createMonsterInstance fl tpl (max 2 (level + off))

/-- A fresh species from the pool may join. -/
theorem Members.append {pool : List MonsterTemplate} {level spread off : ℤ} {team : List MonsterInstance}
    {tpl : MonsterTemplate} (h : Members fl pool level spread team) (mem : tpl ∈ pool)
    (fresh : tpl.id ∉ team.map (·.templateId)) (near : |off| ≤ |spread|) :
    Members fl pool level spread (team ++ [createMonsterInstance fl tpl (max 2 (level + off))]) := by
  constructor
  · rw [List.map_append, List.nodup_append]
    refine ⟨h.species, List.nodup_singleton _, ?_⟩
    rintro id known _ new rfl
    rw [List.mem_singleton.1 new] at known
    exact fresh known
  · intro m hm
    rcases List.mem_append.1 hm with hm | hm
    · exact h.drawn m hm
    · exact ⟨tpl, mem, off, near, List.mem_singleton.1 hm⟩

/-- A team drawn from a pool by generator `r`, which is `r'` afterwards: it has its size, or all rounds
were used up, or there was nobody to draw. Every round draws a species, and one that joins a level. -/
structure Drafted (fl : Floats) (pool : List MonsterTemplate) (size level spread : ℤ) (r : Rng)
    (team : List MonsterInstance) (r' : Rng) : Prop extends Members fl pool level spread team where
  length_le : (team.length : ℤ) ≤ max 0 size
  rounds : ∃ n ≤ (size * 8).toNat, r' = r.after (n + team.length) ∧
    (size ≤ team.length ∨ n = (size * 8).toNat ∨ pool = [])

/-- The loop draws a team, and stops short of its size only with the guard used up. -/
theorem draftLoop_spec (parts : fl.Parts) {pool : List MonsterTemplate} (nonempty : pool ≠ [])
    {size level spread : ℤ} {rounds : ℕ} {team : List MonsterInstance} {used : List ℕ} {r : Rng}
    (same : used = team.map (·.templateId)) (members : Members fl pool level spread team)
    (length : (team.length : ℤ) ≤ max 0 size) :
    ∃ team' r', draftLoop fl pool size level spread rounds team used r = some (team', r') ∧
      Members fl pool level spread team' ∧ (team'.length : ℤ) ≤ max 0 size ∧
      ∃ n ≤ rounds, ∃ joined, team'.length = team.length + joined ∧ r' = r.after (n + joined) ∧
        (size ≤ team'.length ∨ n = rounds) := by
  induction rounds generalizing team used r with
  | zero => exact ⟨team, r, rfl, members, length, 0, le_rfl, 0, rfl, rfl, .inr rfl⟩
  | succ rounds ih =>
    unfold draftLoop
    by_cases short : (team.length : ℤ) < size
    · obtain ⟨tpl, mem, drawn⟩ := r.pick_mem parts nonempty
      rw [if_pos short, drawn]
      dsimp only
      by_cases dup : tpl.id ∈ used
      · rw [if_pos dup]
        obtain ⟨team', r', eq, members', length', n, le, joined, grown, rfl, stop⟩ :=
          ih (r := r.after 1) same members length
        refine ⟨team', _, eq, members', length', n + 1, by omega, joined, grown, ?_, ?_⟩
        · rw [← Rng.after_add]
          congr 1
          omega
        · exact stop.imp_right fun all => by omega
      · rw [if_neg dup]
        have near : |((r.after 1).int fl (-spread) spread).1| ≤ |spread| := by
          obtain ⟨low, high⟩ := (r.after 1).int_mem parts (-spread) spread
          rw [abs_le]
          rcases abs_cases spread with ⟨eq, _⟩ | ⟨eq, _⟩ <;> omega
        let mon := createMonsterInstance fl tpl
          (max 2 (level + ((r.after 1).int fl (-spread) spread).1))
        have same' : used ++ [tpl.id] = (team ++ [mon]).map (·.templateId) := by
          rw [same, List.map_append]
          rfl
        have length' : ((team ++ [mon]).length : ℤ) ≤ max 0 size := by
          rw [List.length_append, List.length_singleton]
          push_cast
          omega
        obtain ⟨team', r', eq, members', length', n, le, joined, grown, rfl, stop⟩ :=
          ih (r := (r.after 1).after 1) same' (members.append mem (same ▸ dup) near) length'
        rw [List.length_append, List.length_singleton] at grown
        refine ⟨team', _, eq, members', length', n + 1, by omega, joined + 1, by omega, ?_, ?_⟩
        · rw [← Rng.after_add, ← Rng.after_add]
          congr 1
          omega
        · exact stop.imp_right fun all => by omega
    · rw [if_neg short]
      exact ⟨team, r, rfl, members, length, 0, Nat.zero_le _, 0, rfl, rfl, .inl (not_lt.1 short)⟩

theorem members_nil (pool : List MonsterTemplate) (level spread : ℤ) : Members fl pool level spread [] :=
  ⟨List.nodup_nil, fun _ hm => nomatch hm⟩

/-- `buildTeam` draws a team, or none from an empty pool. -/
theorem buildTeam_drafted (parts : fl.Parts) (registry : Registry) (level : ℤ) (opts : OpponentOptions)
    (r : Rng) : ∃ team r', buildTeam fl registry level opts r = some (team, r') ∧
      Drafted fl (opts.pool registry) opts.size level opts.spread r team r' := by
  unfold buildTeam
  dsimp only
  split
  · next none =>
    exact ⟨[], r, rfl, members_nil _ _ _, le_max_left _ _, 0, Nat.zero_le _, rfl, .inr (.inr none)⟩
  · next some =>
    obtain ⟨team, r', eq, members, length, n, le, joined, grown, rfl, stop⟩ :=
      @draftLoop_spec fl parts _ some opts.size level opts.spread (opts.size * 8).toNat [] [] r rfl
        (members_nil (opts.pool registry) level opts.spread) (le_max_left 0 opts.size)
    rw [List.length_nil, Nat.zero_add] at grown
    exact ⟨team, _, eq, members, length, n, le, by rw [grown], stop.imp_right .inl⟩

/-! ## A field -/

/-- Trainer `i` of a field: a drawn team, and nothing else of its own. -/
structure Rival (fl : Floats) (registry : Registry) (level : ℤ) (opts : OpponentOptions) (i : ℕ)
    (t : Trainer) : Prop where
  fresh : t = { newTrainer fl (opponentId i) (opponentName i) registry with
    team := t.team, items := ⟨0, []⟩ }
  drafted : ∃ r r', Drafted fl (opts.pool registry) opts.size level opts.spread r t.team r'

/-- Each index gets its rival. -/
theorem generateOpponent_rival (parts : fl.Parts) (i : ℕ) (level : ℤ) (registry : Registry) (r : Rng)
    (opts : OpponentOptions) : ∃ t r', generateOpponent fl i level registry r opts = some (t, r') ∧
      Rival fl registry level opts i t := by
  obtain ⟨team, r', eq, drafted⟩ := buildTeam_drafted parts registry level opts r
  unfold generateOpponent
  rw [eq]
  exact ⟨_, r', rfl, rfl, r, r', drafted⟩

/-- So does every index of a field. -/
theorem draftField_rivals (parts : fl.Parts) (level : ℤ) (registry : Registry) (opts : OpponentOptions)
    (count i : ℕ) (r : Rng) : ∃ ts r', draftField fl level registry opts count i r = some (ts, r') ∧
      List.Forall₂ (Rival fl registry level opts) (List.range' i count) ts := by
  induction count generalizing i r with
  | zero => exact ⟨[], r, rfl, .nil⟩
  | succ count ih =>
    obtain ⟨t, r₁, eq, rival⟩ := generateOpponent_rival parts i level registry r opts
    obtain ⟨ts, r₂, eq', rivals⟩ := ih (i + 1) r₁
    refine ⟨t :: ts, r₂, ?_, .cons rival rivals⟩
    unfold draftField
    rw [eq]
    dsimp only
    rw [eq']
    rfl

/-- Of two trainers of a field, the one generated first. -/
def Earlier (a b : Trainer) : Prop := ∃ i j, i < j ∧ a.id = opponentId i ∧ b.id = opponentId j

/-- Rivals stand in the order of their indices. -/
theorem pairwise_earlier {registry : Registry} {level : ℤ} {opts : OpponentOptions} {is : List ℕ}
    {ts : List Trainer} (order : is.Pairwise (· < ·))
    (rivals : List.Forall₂ (Rival fl registry level opts) is ts) : ts.Pairwise Earlier := by
  induction rivals with
  | nil => exact .nil
  | @cons i t is ts rival rivals ih =>
    obtain ⟨first, rest⟩ := List.pairwise_cons.1 order
    refine List.pairwise_cons.2 ⟨?_, ih rest⟩
    intro u hu
    obtain ⟨j, hj, other⟩ := exists_of_mem rivals hu
    exact ⟨i, j, first j hj, congrArg Trainer.id rival.fresh, congrArg Trainer.id other.fresh⟩

/-- What is sorted is one rival for each index, in order. -/
theorem generateOpponents_eq (parts : fl.Parts) (count : ℕ) (level : ℤ) (registry : Registry) (r : Rng)
    (opts : OpponentOptions) :
    ∃ ts r', List.Forall₂ (Rival fl registry level opts) (List.range count) ts ∧
      generateOpponents fl count level registry r opts =
        some (ts.insertionSort fun a b => getTrainerPower b ≤ getTrainerPower a, r') := by
  obtain ⟨ts, r', eq, rivals⟩ := draftField_rivals parts level registry opts count 0 r
  rw [← List.range_eq_range'] at rivals
  refine ⟨ts, r', rivals, ?_⟩
  unfold generateOpponents
  rw [eq]
  rfl

/-- **A field.** Generating one never throws; it has one rival for each index, the most powerful first
and ties in the order of the indices. -/
theorem generateOpponents_field (parts : fl.Parts) (count : ℕ) (level : ℤ) (registry : Registry) (r : Rng)
    (opts : OpponentOptions) :
    ∃ field r', generateOpponents fl count level registry r opts = some (field, r') ∧
      (∃ order, List.Forall₂ (Rival fl registry level opts) order field ∧
        order.Perm (List.range count)) ∧
      field.Pairwise (Above (fun a b => getTrainerPower b ≤ getTrainerPower a) Earlier) := by
  obtain ⟨ts, r', rivals, eq⟩ := generateOpponents_eq parts count level registry r opts
  have total : Std.Total fun a b : Trainer => getTrainerPower b ≤ getTrainerPower a :=
    ⟨fun a b => le_total _ _⟩
  have trans : IsTrans Trainer fun a b => getTrainerPower b ≤ getTrainerPower a :=
    ⟨fun a b c ab bc => bc.trans ab⟩
  refine ⟨_, r', eq, ?_, pairwise_ranked (pairwise_earlier List.pairwise_lt_range rivals)⟩
  obtain ⟨order, ranked, perm⟩ := List.perm_comp_forall₂
    (List.perm_insertionSort (fun a b => getTrainerPower b ≤ getTrainerPower a) ts) rivals.flip
  exact ⟨order, ranked.flip, perm⟩

/-- The field of the tests has its eight rivals. -/
theorem generateOpponents_field_eight :
    (generateOpponents exactFloats 8 40 sampleRegistry (Rng.new 3) .empty).map (·.1.length) = some 8 := by
  obtain ⟨field, r', eq, ⟨order, rivals, perm⟩, -⟩ := generateOpponents_field exactFloats_exact.parts 8 40
    sampleRegistry (Rng.new 3) .empty
  rw [eq]
  show some field.length = some 8
  rw [← rivals.length_eq, perm.length_eq, List.length_range]

/-! ## Opponents as trainers of the engine -/

section

open Engine

variable {env : Env} {registry : Registry}

/-- A rival with a small team has a roster as the engine keeps it. -/
theorem Rival.rosterOk {level : ℤ} {opts : OpponentOptions} {i : ℕ} {t : Trainer}
    (rival : Rival fl registry level opts i t) (small : opts.size ≤ partySize) : RosterOk t := by
  obtain ⟨r, r', drafted⟩ := rival.drafted
  have length := drafted.length_le
  have box : t.box = [] := congrArg Trainer.box rival.fresh
  refine ⟨?_, ?_, ?_⟩
  · have cap : max 0 opts.size ≤ partySize := max_le (by decide) small
    exact_mod_cast length.trans cap
  · rw [box]
    exact Nat.zero_le _
  · unfold Trainer.roster
    rw [box, List.append_nil]
    exact drafted.species

/-- A rival's monsters are well-formed. -/
theorem Rival.wellFormed (sound : Sound env registry)
    (keyed : ∀ tpl ∈ registry.all, registry.getMonsterById tpl.id = some tpl) {level : ℤ}
    {opts : OpponentOptions} {i : ℕ} {t : Trainer} (rival : Rival env.fl registry level opts i t) :
    ∀ m ∈ t.roster, WellFormed env m := by
  obtain ⟨r, r', drafted⟩ := rival.drafted
  have box : t.box = [] := congrArg Trainer.box rival.fresh
  intro m hm
  unfold Trainer.roster at hm
  rw [box, List.append_nil] at hm
  obtain ⟨tpl, mem, off, -, rfl⟩ := drafted.drawn m hm
  have known := keyed tpl (List.mem_of_mem_filter mem)
  exact sound.wellFormed_create known (le_trans (by decide) (le_max_left 2 _)) _

/-- **Any opponent can be played on.** In exact arithmetic, over a registry that keeps every species under
its own id and with teams of at most four, every engine that runs an opponent keeps its roster within the
caps, without two of a species, and everybody in it well-formed. A larger team is drawn as asked. -/
theorem opponents_run (sound : Sound env registry)
    (keyed : ∀ tpl ∈ registry.all, registry.getMonsterById tpl.id = some tpl) {count : ℕ} {level : ℤ}
    {opts : OpponentOptions} (small : opts.size ≤ partySize) {r r' : Rng} {field : List Trainer}
    (generated : generateOpponents env.fl count level registry r opts = some (field, r')) (n : ℕ) :
    ∀ t ∈ field, ∀ seed, RosterOk (ticks env n (Engine.new t seed)).trainer ∧
      ∀ m ∈ (ticks env n (Engine.new t seed)).trainer.roster, WellFormed env m := by
  obtain ⟨ts, r'', rivals, eq⟩ := generateOpponents_eq sound.exact.parts count level registry r opts
  obtain ⟨rfl, -⟩ := Prod.mk.inj (Option.some.inj (generated.symm.trans eq))
  intro t ht seed
  obtain ⟨i, -, rival⟩ := exists_of_mem rivals ((List.mem_insertionSort _).1 ht)
  constructor
  · exact ticks_induction (e := Engine.new t seed) (fun _ _ ok step => step.rosterStep.rosterOk ok)
      (rival.rosterOk small) n
  · exact ticks_induction (e := Engine.new t seed) (fun _ _ all step => step.rosterStep.all
      (fun m m' ok change => ok.alters sound change)
      (fun _ _ _ spawned _ _ => spawned.wellFormed sound) all) (rival.wellFormed sound keyed) n

/-- The field of the tests, three hundred ticks on. -/
theorem opponents_run_eight :
    ∃ field r', generateOpponents sampleEnv.fl 8 40 sampleRegistry (Rng.new 3) .empty = some (field, r') ∧
      {t | t ∈ field} ⊆ {t | RosterOk (ticks sampleEnv 300 (Engine.new t (Rng.new 1))).trainer} := by
  obtain ⟨ts, r', -, eq⟩ := generateOpponents_eq exactFloats_exact.parts 8 40 sampleRegistry (Rng.new 3)
    .empty
  refine ⟨_, r', eq, fun t ht => ?_⟩
  exact (opponents_run sampleEnv_sound (by decide) (by decide) eq 300 t ht (Rng.new 1)).1

end

end Pokeage.Game
