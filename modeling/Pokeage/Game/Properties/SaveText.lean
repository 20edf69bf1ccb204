import Pokeage.Game.SaveText
import Pokeage.Game.Doubles
import Pokeage.Game.Factory
import Pokeage.Game.Properties.Placement

/-!
# Saves survive their text

At any time of a run in doubles the trainer is read back from the text of its save, with the state of the
generator beside it (`Engine.run_text`), and no two trainers are saved as one text
(`serializeTrainer_inj`). What it takes is what every trainer of a script has (`Trainer.Stored`): its
numbers are doubles, and no object has a key twice.
-/

namespace Pokeage.Game

open Infra (Json)
open Infra.Json (Ok)
open Infra.Rounding (roundTo)
open Text (field?)

/-! ## Numbers and keys of a trainer -/

/-- A number that a double stores with all its bits. -/
structure IsDouble (q : ℚ) : Prop where
  fixed : roundTo 53 q = q
  normal : Text.Normal q

/-- The numbers of a block of stats. -/
def Stats.integers (s : Stats) : List ℤ := [s.hp, s.atk, s.defense, s.spd]

/-- The numbers of a monster but the affection. -/
def MonsterInstance.integers (m : MonsterInstance) : List ℤ :=
  [(m.templateId : ℤ), m.level, m.xp, m.stage, m.currentHP] ++
    (m.stats.integers ++ (m.targetStats.integers ++ (m.ev1.toList ++ m.ev2.toList)))

/-- All numbers of a trainer but the affections. -/
def Trainer.integers (t : Trainer) : List ℤ :=
  [t.items.ball, (t.totalBattles : ℤ), t.totalCaught] ++
    (t.items.others.map Prod.snd ++ t.roster.flatMap (·.integers))

/-- What scripts store of a trainer: its numbers are doubles, and no object has a key twice. -/
structure Trainer.Stored (t : Trainer) : Prop where
  affection : ∀ m ∈ t.roster, IsDouble m.affection
  items : ("ball" :: t.items.others.map Prod.fst).Nodup
  catchTypes : ∀ types ∈ t.strat.catchTypes, (types.map Prod.fst).Nodup
  integers : ∀ n ∈ t.integers, IsDouble n

/-- What a run keeps of that: its integers may grow out of the range, and affections that are not negative
stay so. -/
structure Trainer.Kept (t : Trainer) : Prop where
  affection : ∀ m ∈ t.roster, IsDouble m.affection ∧ 0 ≤ m.affection
  items : ("ball" :: t.items.others.map Prod.fst).Nodup
  catchTypes : ∀ types ∈ t.strat.catchTypes, (types.map Prod.fst).Nodup

theorem Trainer.Kept.stored {t : Trainer} (kept : t.Kept) (integers : ∀ n ∈ t.integers, IsDouble n) :
    t.Stored where
  affection m mem := (kept.affection m mem).1
  items := kept.items
  catchTypes := kept.catchTypes
  integers := integers

/-- Numbers below 2⁵³ are doubles. -/
theorem isDouble_of_lt {n : ℕ} (lt : n < 2 ^ 53) : IsDouble n where
  fixed := Infra.Rounding.roundTo_natCast n lt
  normal := by
    rcases Nat.eq_zero_or_pos n with rfl | pos
    · exact .inl Nat.cast_zero
    · have one : (1 : ℚ) ≤ n := Nat.one_le_cast.2 pos
      have small : (n : ℚ) < 2 ^ 53 := by exact_mod_cast lt
      refine .inr ⟨?_, ?_⟩
      · rw [Nat.abs_cast]
        exact ((div_le_one (by positivity)).2 (one_le_pow₀ (by norm_num))).trans one
      · rw [Nat.abs_cast]
        exact small.trans_le (pow_le_pow_right₀ (by norm_num) (by norm_num))

theorem IsDouble.neg {q : ℚ} (double : IsDouble q) : IsDouble (-q) where
  fixed := by rw [Infra.Rounding.roundTo_neg, double.fixed]
  normal := by
    have normal := double.normal
    unfold Text.Normal at normal ⊢
    rwa [abs_neg, neg_eq_zero]

theorem isDouble_of_abs_lt {n : ℤ} (lt : |n| < 2 ^ 53) : IsDouble n := by
  rw [Int.abs_eq_natAbs] at lt
  have double : IsDouble n.natAbs := isDouble_of_lt (by omega)
  rcases Int.natAbs_eq n with eq | eq
  · rw [eq]
    exact double
  · have opposite : (n : ℚ) = -(n.natAbs : ℚ) := by
      rw [← Int.cast_natCast, ← Int.cast_neg, ← eq]
    rw [opposite]
    exact double.neg

/-- A double is read as it was printed. -/
theorem keeps_of_isDouble {q : ℚ} (double : IsDouble q) : Text.numbers.Keeps q := by
  obtain ⟨head, read⟩ :=
    @Infra.Decimal.read_write 53 17 q (by decide) (by decide) (by decide) double.fixed
  refine ⟨head, ?_⟩
  intro rest stops
  show (Infra.Decimal.readNumber (roundTo 53) (Text.numbers.print q ++ rest) >>= _) = _
  rw [show Infra.Decimal.readNumber (roundTo 53) (Text.numbers.print q ++ rest) = _ from read rest stops]
  exact if_pos double.normal

theorem ok_num {q : ℚ} (double : IsDouble q) : Ok Text.numbers (.num q) :=
  .num (keeps_of_isDouble double)

theorem ok_field? {key : String} {value : Option Json} (ok : ∀ v ∈ value, Ok Text.numbers v) :
    ∀ f ∈ field? key value, Ok Text.numbers f.2 := by
  intro f mem
  cases value with
  | none => cases mem
  | some v =>
    rw [List.mem_singleton.1 mem]
    exact ok v rfl

theorem field?_keys (key : String) (value : Option Json) :
    ((field? key value).map Prod.fst).Sublist [key] := by
  cases value <;> simp [field?]

/-- No field of a monster stands twice. -/
theorem MonsterInstance.fields_nodup (m : MonsterInstance) : (m.fields.map Prod.fst).Nodup := by
  have names : ["templateId", "name", "type", "asset", "level", "xp", "stage", "stats", "currentHP",
      "targetStats", "ev1", "ev2", "rarity", "rarityTier", "affection", "moves"].Nodup := by decide
  refine names.sublist ?_
  unfold MonsterInstance.fields
  simp only [List.map_append, List.map_cons, List.cons_append, List.nil_append,
    List.cons_sublist_cons]
  exact (field?_keys ..).append ((field?_keys ..).append ((field?_keys ..).cons_cons "affection"))

theorem ok_stats {s : Stats} (double : ∀ n ∈ s.integers, IsDouble n) : Ok Text.numbers s.json := by
  have num {n : ℤ} (mem : n ∈ s.integers) := ok_num (double n mem)
  refine .obj (by simp) ?_
  intro f mem
  simp only [List.mem_cons, List.not_mem_nil, or_false] at mem
  rcases mem with rfl | rfl | rfl | rfl <;> exact num (by simp [Stats.integers])

theorem ok_orNull {x : Option ℤ} (double : ∀ n ∈ x, IsDouble n) : Ok Text.numbers (orNull x) := by
  cases x with
  | none => exact .null
  | some n => exact ok_num (double n rfl)

/-- A monster without cached moves. -/
theorem ok_monster {m : MonsterInstance} (moves : m.moves = none) (affection : IsDouble m.affection)
    (double : ∀ n ∈ m.integers, IsDouble n) : Ok Text.numbers m.json := by
  have num {n : ℤ} (mem : n ∈ m.integers) := ok_num (double n mem)
  have templateId := num (n := m.templateId) (by simp [MonsterInstance.integers])
  have stats : Ok Text.numbers m.stats.json :=
    ok_stats fun n mem => double n (by simp [MonsterInstance.integers, mem])
  have targets : Ok Text.numbers m.targetStats.json :=
    ok_stats fun n mem => double n (by simp [MonsterInstance.integers, mem])
  have ev1 : Ok Text.numbers (orNull m.ev1) := ok_orNull fun n mem => by
    rw [Option.mem_def] at mem
    exact double n (by simp [MonsterInstance.integers, mem])
  have ev2 : Ok Text.numbers (orNull m.ev2) := ok_orNull fun n mem => by
    rw [Option.mem_def] at mem
    exact double n (by simp [MonsterInstance.integers, mem])
  refine .obj m.fields_nodup ?_
  intro f mem
  simp only [MonsterInstance.fields, moves, List.mem_append, List.mem_cons, List.not_mem_nil, or_false] at mem
  rcases mem with
    (rfl | rfl | rfl | rfl | rfl | rfl | rfl | rfl | rfl | rfl | rfl | rfl) | mem | mem | rfl | mem
  · simpa using templateId
  · exact .str _
  · exact .str _
  · exact .str _
  · exact num (by simp [MonsterInstance.integers])
  · exact num (by simp [MonsterInstance.integers])
  · exact num (by simp [MonsterInstance.integers])
  · exact stats
  · exact num (by simp [MonsterInstance.integers])
  · exact targets
  · exact ev1
  · exact ev2
  · refine ok_field? ?_ f mem
    rintro v mem
    obtain ⟨r, -, rfl⟩ := Option.map_eq_some_iff.1 mem
    exact .str _
  · refine ok_field? ?_ f mem
    rintro v mem
    obtain ⟨r, -, rfl⟩ := Option.map_eq_some_iff.1 mem
    exact .str _
  · exact ok_num affection
  · cases mem

/-! ## Strategies -/

/-- The type of a key. -/
def MonsterType.ofKey (key : String) : Option MonsterType :=
  [.normal, .fire, .water, .grass, .electric, .ice, .fighting, .poison, .ground, .flying, .psychic, .bug,
    .rock, .ghost, .dragon, .dark, .steel].find? fun (type : MonsterType) => type.key = key

theorem MonsterType.ofKey_key (type : MonsterType) : MonsterType.ofKey type.key = some type := by
  cases type <;> rfl

theorem MonsterType.key_injective : Function.Injective MonsterType.key := by
  intro a b eq
  have read := MonsterType.ofKey_key a
  rw [eq, MonsterType.ofKey_key] at read
  exact (Option.some.inj read).symm

theorem ok_types {types : List (MonsterType × Bool)} (keys : (types.map Prod.fst).Nodup) :
    Ok Text.numbers (.obj (types.map fun entry => (entry.1.key, .bool entry.2))) := by
  refine .obj ?_ ?_
  · have names := keys.map MonsterType.key_injective
    rw [List.map_map] at names ⊢
    exact names
  · intro f mem
    obtain ⟨entry, -, rfl⟩ := List.mem_map.1 mem
    exact .bool _

theorem ok_flag {flag : Option Bool} : ∀ v ∈ flag.map Json.bool, Ok Text.numbers v := by
  intro v mem
  obtain ⟨b, -, rfl⟩ := Option.map_eq_some_iff.1 mem
  exact .bool b

theorem ok_strategy {s : Strategy} (keys : ∀ types ∈ s.catchTypes, (types.map Prod.fst).Nodup) :
    Ok Text.numbers s.json := by
  refine .obj ?_ ?_
  · have names : ["autoHeal", "autoGym", "autoMove", "catchEnabled", "prioritizeRare",
        "catchTypes"].Nodup := by decide
    refine names.sublist ?_
    simp only [List.map_append]
    exact (field?_keys ..).append ((field?_keys ..).append ((field?_keys ..).append
      ((field?_keys ..).append ((field?_keys ..).append (field?_keys ..)))))
  · intro f mem
    simp only [List.mem_append] at mem
    rcases mem with mem | mem | mem | mem | mem | mem
    · exact ok_field? ok_flag f mem
    · exact ok_field? ok_flag f mem
    · exact ok_field? ok_flag f mem
    · exact ok_field? ok_flag f mem
    · exact ok_field? ok_flag f mem
    · refine ok_field? ?_ f mem
      intro v mem
      obtain ⟨types, given, rfl⟩ := Option.map_eq_some_iff.1 mem
      exact ok_types (keys types given)

/-! ## Trainers -/

theorem ok_items {items : TrainerItems} (ball : IsDouble items.ball)
    (others : ∀ item ∈ items.others, IsDouble item.2)
    (keys : ("ball" :: items.others.map Prod.fst).Nodup) : Ok Text.numbers items.json := by
  refine .obj ?_ ?_
  · rw [List.map_cons, List.map_map]
    exact keys
  · intro f mem
    rcases List.mem_cons.1 mem with rfl | mem
    · exact ok_num ball
    · obtain ⟨item, given, rfl⟩ := List.mem_map.1 mem
      exact ok_num (others item given)

/-- Monsters without cached moves. -/
theorem ok_monsters {ms : List MonsterInstance} (affection : ∀ m ∈ ms, IsDouble m.affection)
    (double : ∀ m ∈ ms, ∀ n ∈ m.integers, IsDouble n) :
    Ok Text.numbers (.arr ((ms.map stripMon).map MonsterInstance.json)) := by
  refine .arr ?_
  intro v mem
  rw [List.map_map] at mem
  obtain ⟨m, given, rfl⟩ := List.mem_map.1 mem
  exact ok_monster rfl (affection m given) (double m given)

/-- A stored trainer can be printed. -/
theorem ok_trainer {t : Trainer} (stored : t.Stored) : Ok Text.numbers t.stripped.json := by
  have double {n : ℤ} (mem : n ∈ t.integers) := stored.integers n mem
  have roster : ∀ m ∈ t.roster, ∀ n ∈ m.integers, IsDouble n := by
    intro m mem n number
    exact double (List.mem_append_right _ (List.mem_append_right _ (List.mem_flatMap.2 ⟨m, mem, number⟩)))
  have ball : IsDouble t.items.ball := double (by simp [Trainer.integers])
  have battles : IsDouble t.totalBattles := by
    simpa using double (n := t.totalBattles) (by simp [Trainer.integers])
  have caught : IsDouble t.totalCaught := by
    simpa using double (n := t.totalCaught) (by simp [Trainer.integers])
  have team : ∀ m ∈ t.team, m ∈ t.roster := fun m mem => List.mem_append_left _ mem
  have box : ∀ m ∈ t.box, m ∈ t.roster := fun m mem => List.mem_append_right _ mem
  refine .obj ?_ ?_
  · have names : ["id", "name", "team", "box", "badges", "location", "items", "totalBattles",
        "totalCaught", "strategy"].Nodup := by decide
    refine names.sublist ?_
    simp only [List.map_cons, List.cons_append, List.nil_append, List.cons_sublist_cons]
    exact field?_keys ..
  · intro f mem
    simp only [List.mem_append, List.mem_cons, List.not_mem_nil, or_false] at mem
    rcases mem with (rfl | rfl | rfl | rfl | rfl | rfl | rfl | rfl | rfl) | mem
    · exact .str _
    · exact .str _
    · exact ok_monsters (fun m mem => stored.affection m (team m mem))
        fun m mem => roster m (team m mem)
    · exact ok_monsters (fun m mem => stored.affection m (box m mem))
        fun m mem => roster m (box m mem)
    · refine .arr ?_
      intro v mem
      obtain ⟨badge, -, rfl⟩ := List.mem_map.1 mem
      exact .str badge
    · exact .str _
    · refine ok_items ball ?_ stored.items
      intro item mem
      exact double (List.mem_append_right _ (List.mem_append_left _ (List.mem_map_of_mem mem)))
    · exact ok_num battles
    · exact ok_num caught
    · refine ok_field? ?_ f mem
      intro v mem
      obtain ⟨s, given, rfl⟩ := Option.map_eq_some_iff.1 mem
      have strat : t.strat = s := congrArg (·.getD .empty) given
      exact ok_strategy (strat ▸ stored.catchTypes)

/-- So can its save. -/
theorem ok_save {t : Trainer} (stored : t.Stored) (rngState : Option UInt32) :
    Ok Text.numbers (saveTrainer t rngState).json := by
  refine .obj ?_ ?_
  · have names : ["version", "rngState", "trainer"].Nodup := by decide
    refine names.sublist ?_
    simp only [List.map_append, List.map_cons, List.cons_sublist_cons]
    exact (field?_keys ..).append (.refl _)
  · intro f mem
    rw [List.mem_cons, List.mem_append, List.mem_singleton] at mem
    rcases mem with rfl | mem | rfl
    · exact ok_num (isDouble_of_lt (n := saveVersion) (by decide))
    · refine ok_field? ?_ f mem
      intro v mem
      obtain ⟨state, -, rfl⟩ := Option.map_eq_some_iff.1 mem
      exact ok_num (isDouble_of_lt (state.toNat_lt.trans (by decide)))
    · exact ok_trainer stored

/-! ## Loading what was saved -/

theorem get_monster (m : MonsterInstance) :
    m.json.get "xp" = some (.num m.xp) ∧ m.json.get "stage" = some (.num m.stage) ∧
      m.json.get "currentHP" = some (.num m.currentHP) := ⟨rfl, rfl, rfl⟩

theorem get_affection (m : MonsterInstance) : m.json.get "affection" = some (.num m.affection) := by
  cases rarity : m.rarity <;> cases tier : m.rarityTier <;>
    simp [MonsterInstance.json, MonsterInstance.fields, field?, Json.get, rarity, tier]

/-- `q || 0` on a number. -/
theorem orElse_num (q : ℚ) : Text.orElse (some (.num q)) (.num 0) = .num q := by
  unfold Text.orElse Text.truthy
  by_cases zero : q = 0 <;> simp [zero]

/-- A monster of the engine lacks no default. -/
theorem normalizeMon_json (m : MonsterInstance) : Text.normalizeMon m.json = .ok m.json := by
  have same {k : String} {v : Json} (h : m.json.get k = some v) :
      Infra.Json.put m.fields (k, v) = m.fields := Infra.Json.put_get m.fields_nodup h
  obtain ⟨xp, stage, hp⟩ := get_monster m
  have affection := get_affection m
  have prop_affection : Text.prop (some m.json) "affection" = .ok (some (.num m.affection)) :=
    congrArg Except.ok affection
  have hit_points : Text.currentHP m.json = .ok (some (.num m.currentHP)) := rfl
  unfold Text.normalizeMon
  rw [prop_affection, hit_points]
  show Except.ok (Json.obj (Infra.Json.put (Infra.Json.put (Infra.Json.put (Infra.Json.put m.fields
    ("xp", Text.orElse (some (.num m.xp)) (.num 0)))
    ("stage", Text.orElse (some (.num m.stage)) (.num 0)))
    ("affection", Text.orElse (some (.num m.affection)) (.num 0)))
    ("currentHP", .num m.currentHP))) = _
  rw [orElse_num, orElse_num, orElse_num, same xp, same stage, same affection, same hp]
  rfl

theorem mapMons_json (ms : List MonsterInstance) :
    Text.mapMons (some (.arr (ms.map MonsterInstance.json))) = .ok (.arr (ms.map MonsterInstance.json)) := by
  have each : (ms.map MonsterInstance.json).mapM Text.normalizeMon = .ok (ms.map MonsterInstance.json) := by
    induction ms with
    | nil => rfl
    | cons m ms ih =>
      rw [List.map_cons, List.mapM_cons, normalizeMon_json, ih]
      rfl
  show ((ms.map MonsterInstance.json).mapM Text.normalizeMon >>= _) = _
  rw [each]
  rfl

/-- What loading returns for a saved trainer is what `loadTrainer` says of its record. -/
theorem loadTrainer_json (t : Trainer) (rngState : Option UInt32) :
    Text.loadTrainer (saveTrainer t rngState).json =
      .ok { t.stripped with location := loadLocation t.location, strategy := some t.strat : Trainer }.json := by
  have version : Text.prop (some (saveTrainer t rngState).json) "version" = .ok (some (.num saveVersion)) := rfl
  have checked : Text.checkVersion (some (.num saveVersion)) = .ok () :=
    if_pos (by simp [Text.isVersion])
  have trainer : Text.prop (some (saveTrainer t rngState).json) "trainer" = .ok (some t.stripped.json) := by
    cases rngState <;> rfl
  have location : Text.orElse (t.stripped.json.get "location") (.str "seedling") =
      .str (loadLocation t.location) := by
    show Text.orElse (some (.str t.location)) (.str "seedling") = _
    unfold Text.orElse Text.truthy loadLocation
    by_cases blank : t.location = "" <;> simp [blank]
  have battles : Text.orElse (t.stripped.json.get "totalBattles") (.num 0) = .num t.totalBattles :=
    orElse_num _
  have caught : Text.orElse (t.stripped.json.get "totalCaught") (.num 0) = .num t.totalCaught :=
    orElse_num _
  have strategy : Text.prop (some t.stripped.json) "strategy" = .ok (t.strategy.map Strategy.json) := by
    have stays : t.stripped.strategy = t.strategy := rfl
    cases given : t.strategy <;> simp [Text.prop, Json.get, Trainer.json, field?, stays, given]
  have strat : Text.orElse (t.strategy.map Strategy.json) (.obj []) = t.strat.json := by
    unfold Trainer.strat
    cases t.strategy <;> rfl
  have team := mapMons_json t.stripped.team
  have box := mapMons_json t.stripped.box
  unfold Text.loadTrainer
  rw [version, trainer]
  show (Text.checkVersion (some (.num saveVersion)) >>= _) = _
  rw [checked]
  show (Text.mapMons (some (.arr (t.stripped.team.map MonsterInstance.json))) >>= _) = _
  rw [team]
  show (Text.mapMons (some (.arr (t.stripped.box.map MonsterInstance.json))) >>= _) = _
  rw [box, strategy]
  show Except.ok (Json.obj _) = _
  rw [strat, location, battles, caught]
  rfl

/-- Reading what was written gives the trainer that loading the save would give, as a value, and the
state of the generator stands beside it. -/
theorem deserialize_serialize {t : Trainer} (stored : t.Stored) (rngState : Option UInt32) :
    (∃ t', loadTrainer (saveTrainer t rngState) = .ok t' ∧
      Text.deserializeTrainer (serializeTrainer t rngState) = .ok t'.json) ∧
    ∃ save, Infra.Json.parse Text.numbers (serializeTrainer t rngState) = some save ∧
      save.get "rngState" = rngState.map fun state => .num state.toNat := by
  have parsed := Infra.Json.parse_stringify (ok_save stored rngState)
  constructor
  · refine ⟨_, loadTrainer_saveTrainer t rngState, ?_⟩
    unfold Text.deserializeTrainer serializeTrainer
    rw [parsed]
    exact loadTrainer_json t rngState
  · refine ⟨_, parsed, ?_⟩
    cases rngState <;> rfl

/-! ## Runs -/

namespace Engine

variable {env : Env}

/-- An affection that is raised is a sum that was rounded, or the cap. -/
theorem isDouble_addAffection {a gain : ℚ} (nonneg : 0 ≤ a) (least : 1 / 32 ≤ gain) :
    IsDouble (min affectionMax (roundTo 53 (a + gain))) ∧ 0 ≤ min affectionMax (roundTo 53 (a + gain)) := by
  have cap : IsDouble affectionMax := isDouble_of_lt (n := 100) (by decide)
  have half := Infra.Rounding.half_le_roundTo (p := 53) (q := a + gain) (by decide) (by linarith)
  rcases le_total affectionMax (roundTo 53 (a + gain)) with le | le
  · rw [min_eq_left le]
    exact ⟨cap, by norm_num [affectionMax]⟩
  · rw [min_eq_right le]
    have low : 1 / 64 ≤ roundTo 53 (a + gain) := by linarith
    have nonneg : 0 ≤ roundTo 53 (a + gain) := by linarith
    refine ⟨⟨Infra.Rounding.roundTo_roundTo (by decide) _, .inr ⟨?_, ?_⟩⟩, nonneg⟩
    · rw [abs_of_nonneg nonneg]
      refine le_trans ?_ low
      exact one_div_le_one_div_of_le (by norm_num)
        (le_trans (by norm_num) (pow_le_pow_right₀ (by norm_num) (by norm_num : 6 ≤ 1022)))
    · rw [abs_of_nonneg nonneg]
      refine le.trans_lt ?_
      exact lt_of_lt_of_le (by norm_num [affectionMax])
        (pow_le_pow_right₀ (by norm_num) (by norm_num : 7 ≤ 1024))

theorem affection_alters {pow : ℚ → ℚ → ℚ} (doubles : env.fl = doubleFloats pow) {m m' : MonsterInstance}
    (kept : IsDouble m.affection ∧ 0 ≤ m.affection) (change : Alters env m m') :
    IsDouble m'.affection ∧ 0 ≤ m'.affection := by
  have gained (amount : ℤ) : (gainXp env m amount).affection = m.affection := by
    unfold gainXp
    split
    · exact grantXp_same (fun _ _ _ _ _ _ => rfl) m amount
    · rfl
  cases change with
  | healed => exact kept
  | hit => exact kept
  | @bonded foeLevel =>
    rw [doubles]
    refine isDouble_addAffection kept.2 (le_min (by norm_num) (le_max_of_le_left ?_))
    have half := Infra.Rounding.half_le_roundTo (p := 53) (q := 0.1) (by decide) (by norm_num)
    exact le_trans (by norm_num) half
  | rewarded => exact (gained _).symm ▸ kept
  | trained => exact (gained _).symm ▸ kept

/-- No tick touches the other items. -/
theorem Outcome.others {t t' : Trainer} (h : Outcome env t t') : t'.items.others = t.items.others := by
  cases h with
  | @caught team wild =>
    have placed := placeNewMonster_placed (thrown (battled t team)) wild
    have same : (placeNewMonster (thrown (battled t team)) wild).2.items.others =
        (thrown (battled t team)).items.others :=
      placed.same (f := fun t => t.items.others) fun _ _ _ => rfl
    exact same
  | _ => rfl

/-- A tick in doubles keeps affections doubles. -/
theorem Outcome.keeps {pow : ℚ → ℚ → ℚ} (doubles : env.fl = doubleFloats pow) {t t' : Trainer}
    (h : Outcome env t t') (kept : t.Kept) : t'.Kept where
  affection := by
    refine h.rosterStep.all (fun _ _ kept change => affection_alters doubles kept change) ?_
      kept.affection
    intro wild lead route spawned _ _
    obtain ⟨r, rolled⟩ := spawned.rolled
    obtain ⟨id, tpl, level, rarity, -, -, rfl⟩ := generateWildMonster_spawn rolled
    exact ⟨isDouble_of_lt (n := 0) (by decide), le_rfl⟩
  items := h.others ▸ kept.items
  catchTypes := h.strat ▸ kept.catchTypes

/-- **A run survives its text.** However long a run in doubles has gone on, as long as its integers are in
the range where doubles tell them apart: reading the text of its save gives the trainer that loading the
save gives, and the state of its generator stands beside it. -/
theorem run_text {pow : ℚ → ℚ → ℚ} (doubles : env.fl = doubleFloats pow) (e : Engine)
    (kept : e.trainer.Kept) (n : ℕ)
    (range : ∀ i ∈ (ticks env n e).trainer.integers, |i| < 2 ^ 53) :
    (∃ t, loadTrainer (ticks env n e).save = .ok t ∧
      Text.deserializeTrainer (ticks env n e).saveText = .ok t.json) ∧
    ∃ save, Infra.Json.parse Text.numbers (ticks env n e).saveText = some save ∧
      save.get "rngState" = some (.num (ticks env n e).rng.snapshot.toNat) := by
  have later : (ticks env n e).trainer.Kept :=
    ticks_induction (fun _ _ kept step => step.keeps doubles kept) kept n
  exact deserialize_serialize (later.stored fun i mem => isDouble_of_abs_lt (range i mem)) _

end Engine

/-- The sample world in doubles. -/
def scriptEnv : Env := { sampleEnv with fl := doubleFloats exactFloats.pow }

theorem newTrainer_kept {fl : Floats} {id name : String} {registry : Registry} {opts : NewTrainerOptions} :
    (newTrainer fl id name registry opts).Kept where
  affection := by
    intro m mem
    obtain ⟨tpl, -, rfl⟩ := mem_newTrainer_roster mem
    exact ⟨isDouble_of_lt (n := 0) (by decide), le_rfl⟩
  items := by simp [newTrainer]
  catchTypes := by
    intro types mem
    cases mem

theorem freshTrainer_kept : freshTrainer.Kept := newTrainer_kept

theorem run_text_fresh :
    (∃ t, loadTrainer (Engine.ticks scriptEnv 8 (freshEngine 7)).save = .ok t ∧
      Text.deserializeTrainer (Engine.ticks scriptEnv 8 (freshEngine 7)).saveText = .ok t.json) ∧
    ∃ save, Infra.Json.parse Text.numbers (Engine.ticks scriptEnv 8 (freshEngine 7)).saveText = some save ∧
      save.get "rngState" =
        some (.num (Engine.ticks scriptEnv 8 (freshEngine 7)).rng.snapshot.toNat) :=
  Engine.run_text rfl (freshEngine 7) freshTrainer_kept 8 (by decide +kernel)

/-! ## One text, one trainer -/

theorem Rarity.key_injective : Function.Injective Rarity.key := by
  intro a b eq
  cases a <;> cases b <;> first | rfl | exact absurd eq (by decide)

theorem RarityTier.key_injective : Function.Injective RarityTier.key := by
  intro a b eq
  cases a <;> cases b <;> first | rfl | exact absurd eq (by decide)

theorem num_injective : Function.Injective fun (n : ℤ) => Json.num n := by
  intro a b eq
  exact Int.cast_injective (Infra.Json.num.inj eq)

theorem orNull_injective : Function.Injective orNull := by
  intro a b eq
  cases a with
  | none =>
    cases b with
    | none => rfl
    | some n => cases eq
  | some m =>
    cases b with
    | none => cases eq
    | some n => exact congrArg some (num_injective eq)

theorem Stats.json_injective : Function.Injective Stats.json := by
  intro a b eq
  simp [Stats.json] at eq
  cases a
  cases b
  simp_all

theorem Move.json_injective : Function.Injective Move.json := by
  intro a b eq
  simp [Move.json] at eq
  obtain ⟨id, name, type, power, acc, pp, status, effChance, crit, multi⟩ := eq
  have type := MonsterType.key_injective type
  have status : a.status = b.status := by
    cases given : a.status <;> cases given' : b.status <;> simp_all
  cases a
  cases b
  simp_all

theorem get_field? (k key : String) (value : Option Json) (rest : List (String × Json)) :
    Json.get k (.obj (field? key value ++ rest)) =
      if key = k then value.or (Json.get k (.obj rest)) else Json.get k (.obj rest) := by
  cases value <;> by_cases same : key = k <;> simp [field?, Json.get, same]

theorem get_last (k key : String) (value : Option Json) :
    Json.get k (.obj (field? key value)) = if key = k then value else none := by
  cases value <;> by_cases same : key = k <;> simp [field?, Json.get, same]

/-- The fields after those that every monster has. -/
theorem get_optional (m : MonsterInstance) :
    m.json.get "rarity" = m.rarity.map (fun r => .str r.key) ∧
      m.json.get "rarityTier" = m.rarityTier.map (fun r => .str r.key) ∧
      m.json.get "moves" = m.moves.map fun mvs => .arr (mvs.map Move.json) := by
  cases rarity : m.rarity <;> cases tier : m.rarityTier <;> cases moves : m.moves <;>
    simp [MonsterInstance.json, MonsterInstance.fields, field?, Json.get, rarity, tier, moves]

theorem str_injective {α : Type} {key : α → String} (inj : Function.Injective key) :
    Function.Injective fun a => Json.str (key a) := by
  intro a b eq
  exact inj (Infra.Json.str.inj eq)

theorem arr_injective {α : Type} {f : α → Json} (inj : Function.Injective f) :
    Function.Injective fun (l : List α) => Json.arr (l.map f) := by
  intro a b eq
  exact List.map_injective_iff.2 inj (Infra.Json.arr.inj eq)

/-- A monster can be told from its value. -/
theorem MonsterInstance.json_injective : Function.Injective MonsterInstance.json := by
  intro a b eq
  have rarity : a.rarity = b.rarity := by
    have get := congrArg (Json.get "rarity") eq
    rw [(get_optional a).1, (get_optional b).1] at get
    exact Option.map_injective (str_injective Rarity.key_injective) get
  have tier : a.rarityTier = b.rarityTier := by
    have get := congrArg (Json.get "rarityTier") eq
    rw [(get_optional a).2.1, (get_optional b).2.1] at get
    exact Option.map_injective (str_injective RarityTier.key_injective) get
  have moves : a.moves = b.moves := by
    have get := congrArg (Json.get "moves") eq
    rw [(get_optional a).2.2, (get_optional b).2.2] at get
    exact Option.map_injective (arr_injective Move.json_injective) get
  have affection : a.affection = b.affection := by
    have get := congrArg (Json.get "affection") eq
    rw [get_affection, get_affection] at get
    exact Infra.Json.num.inj (Option.some.inj get)
  simp [MonsterInstance.json, MonsterInstance.fields] at eq
  obtain ⟨templateId, name, type, asset, level, xp, stage, stats, hp, targets, ev1, ev2, -⟩ := eq
  have type := MonsterType.key_injective type
  have stats := Stats.json_injective stats
  have targets := Stats.json_injective targets
  have ev1 := orNull_injective ev1
  have ev2 := orNull_injective ev2
  cases a
  cases b
  simp_all

theorem TrainerItems.json_injective : Function.Injective TrainerItems.json := by
  have entry : Function.Injective fun (item : String × ℤ) => (item.1, Json.num item.2) := by
    intro a b eq
    obtain ⟨name, count⟩ := Prod.mk.inj eq
    exact Prod.ext name (num_injective count)
  intro a b eq
  simp [TrainerItems.json] at eq
  obtain ⟨ball, others⟩ := eq
  have others := List.map_injective_iff.2 entry others
  cases a
  cases b
  simp_all

/-- Each flag of a strategy is a field of its own. -/
theorem get_strategy (s : Strategy) :
    s.json.get "autoHeal" = s.autoHeal.map .bool ∧ s.json.get "autoGym" = s.autoGym.map .bool ∧
      s.json.get "autoMove" = s.autoMove.map .bool ∧
      s.json.get "catchEnabled" = s.catchEnabled.map .bool ∧
      s.json.get "prioritizeRare" = s.prioritizeRare.map .bool ∧
      s.json.get "catchTypes" = s.catchTypes.map fun types =>
        .obj (types.map fun entry => (entry.1.key, .bool entry.2)) := by
  simp [Strategy.json, get_field?, get_last]

theorem Strategy.json_injective : Function.Injective Strategy.json := by
  have flag : Function.Injective Json.bool := fun _ _ eq => Infra.Json.bool.inj eq
  have types : Function.Injective fun (types : List (MonsterType × Bool)) =>
      Json.obj (types.map fun entry => (entry.1.key, .bool entry.2)) := by
    intro a b eq
    refine List.map_injective_iff.2 ?_ (Infra.Json.obj.inj eq)
    intro x y eq
    obtain ⟨type, on⟩ := Prod.mk.inj eq
    exact Prod.ext (MonsterType.key_injective type) (flag on)
  intro a b eq
  obtain ⟨heal, gym, move, catches, rare, caught⟩ := get_strategy a
  obtain ⟨heal', gym', move', catches', rare', caught'⟩ := get_strategy b
  rw [eq] at heal gym move catches rare caught
  have heal := Option.map_injective flag (heal.symm.trans heal')
  have gym := Option.map_injective flag (gym.symm.trans gym')
  have move := Option.map_injective flag (move.symm.trans move')
  have catches := Option.map_injective flag (catches.symm.trans catches')
  have rare := Option.map_injective flag (rare.symm.trans rare')
  have caught := Option.map_injective types (caught.symm.trans caught')
  cases a
  cases b
  simp_all

/-- So can a trainer. -/
theorem Trainer.json_injective : Function.Injective Trainer.json := by
  intro a b eq
  simp [Trainer.json] at eq
  obtain ⟨id, name, team, box, badges, location, items, battles, caught, strategy⟩ := eq
  have team := List.map_injective_iff.2 MonsterInstance.json_injective team
  have box := List.map_injective_iff.2 MonsterInstance.json_injective box
  have badges := List.map_injective_iff.2 (fun _ _ eq => Infra.Json.str.inj eq) badges
  have items := TrainerItems.json_injective items
  have strategy : a.strategy = b.strategy := by
    have get := congrArg (fun fields => Json.get "strategy" (.obj fields)) strategy
    simp only [get_last, if_true] at get
    exact Option.map_injective Strategy.json_injective get
  cases a
  cases b
  simp_all

/-- **One text, one trainer.** Trainers that are saved as the same text, with the state of a generator
or without, are the same but for cached moves, and so is the state. -/
theorem serializeTrainer_inj {t t' : Trainer} (stored : t.Stored) (stored' : t'.Stored)
    {rngState rngState' : Option UInt32}
    (same : serializeTrainer t rngState = serializeTrainer t' rngState') :
    t.stripped = t'.stripped ∧ rngState = rngState' := by
  have parsed := Infra.Json.parse_stringify (ok_save stored rngState)
  have parsed' := Infra.Json.parse_stringify (ok_save stored' rngState')
  have saves : (saveTrainer t rngState).json = (saveTrainer t' rngState').json := by
    refine Option.some.inj (parsed.symm.trans ?_)
    rw [← parsed']
    exact congrArg (Infra.Json.parse Text.numbers) same
  have trainers := congrArg (Json.get "trainer") saves
  have states := congrArg (Json.get "rngState") saves
  constructor
  · refine Trainer.json_injective ?_
    cases rngState <;> cases rngState' <;> exact Option.some.inj trainers
  · have number : Function.Injective fun (state : UInt32) => Json.num state.toNat := by
      intro a b eq
      exact UInt32.toNat_inj.1 (Nat.cast_injective (Infra.Json.num.inj eq))
    refine Option.map_injective number ?_
    cases rngState <;> cases rngState' <;> exact states

theorem freshTrainer_stored : freshTrainer.Stored := by
  have range : ∀ n ∈ freshTrainer.integers, |n| < 2 ^ 53 := by decide +kernel
  exact freshTrainer_kept.stored fun n mem => isDouble_of_abs_lt (range n mem)

/-- `freshTrainer` with moves cached, as after a fight. -/
def fighter : Trainer :=
  { freshTrainer with team := freshTrainer.team.map fun m => { m with moves := some [] } }

theorem fighter_stored : fighter.Stored where
  affection := by
    intro m mem
    rcases List.mem_append.1 mem with mem | mem
    · obtain ⟨m, given, rfl⟩ := List.mem_map.1 mem
      exact freshTrainer_stored.affection m (List.mem_append_left _ given)
    · exact freshTrainer_stored.affection m (List.mem_append_right _ mem)
  items := freshTrainer_stored.items
  catchTypes := freshTrainer_stored.catchTypes
  integers := by
    have range : ∀ n ∈ fighter.integers, |n| < 2 ^ 53 := by decide +kernel
    exact fun n mem => isDouble_of_abs_lt (range n mem)

theorem fighter_text : serializeTrainer fighter (some 321) = serializeTrainer freshTrainer (some 321) := by
  have stripped : fighter.stripped = freshTrainer.stripped := by
    unfold Trainer.stripped fighter
    rw [List.map_map]
    rfl
  unfold serializeTrainer saveTrainer
  rw [stripped]

theorem serializeTrainer_inj_fighter :
    fighter.stripped = freshTrainer.stripped ∧ some (321 : UInt32) = some 321 :=
  serializeTrainer_inj fighter_stored freshTrainer_stored fighter_text

end Pokeage.Game
