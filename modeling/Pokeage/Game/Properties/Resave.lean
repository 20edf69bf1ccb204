import Pokeage.Game.Properties.SaveText

/-!
# Loaded and saved again

Whatever text was loaded, what came of it can be saved, and from then on loading and saving give the same text
over and over (`resave_stable`): the defaults that loading puts are there the next time.
-/

namespace Pokeage.Game.Text

open Infra (Json bind_eq_ok)
open Infra.Json (Ok Numbers put get_put_self get_put_ne get_erase put_get nodup_put ok_put ok_get ok_filter
  filter_of_get_eq_none)

/-- The fields of an object. -/
abbrev Fields := List (String × Json)

/-- A number that was read is a double. -/
theorem keeps_of_read (cs : List Char) (q : ℚ) (rest : List Char)
    (read : numbers.read cs = some (q, rest)) : numbers.Keeps q := by
  obtain ⟨⟨r, after⟩, number, h⟩ := Option.bind_eq_some_iff.1 read
  dsimp only at h
  split_ifs at h with normal
  obtain ⟨rfl, -⟩ := Prod.mk.inj (Option.some.inj h)
  exact keeps_of_isDouble ⟨Infra.Decimal.readNumber_fixed (by decide) number, normal⟩

/-! ## Monsters -/

/-- A monster as loading leaves it: nothing that has a default is missing. -/
structure Loaded (fields : Fields) : Prop where
  ok : Ok numbers (.obj fields)
  xp : ∃ v, (Json.obj fields).get "xp" = some v ∧ orElse (some v) (.num 0) = v
  stage : ∃ v, (Json.obj fields).get "stage" = some v ∧ orElse (some v) (.num 0) = v
  affection : ∃ v, (Json.obj fields).get "affection" = some v ∧ orElse (some v) (.num 0) = v
  hp : currentHP (.obj fields) = .ok ((Json.obj fields).get "currentHP")

/-- A default put twice. -/
theorem orElse_orElse (v : Option Json) (d : Json) : orElse (some (orElse v d)) d = orElse v d := by
  unfold orElse
  cases v with
  | none => simp
  | some v => by_cases there : truthy v = true <;> simp [there]

/-- A field that was set reads as set. -/
theorem get_set_self (fields : Fields) (k : String) (value : Option Json) :
    (Json.obj (set fields k value)).get k = value := by
  cases value with
  | some v => exact get_put_self fields k v
  | none =>
    show (Json.obj (fields.filter (·.1 ≠ k))).get k = none
    rw [Infra.Json.get_obj, Option.map_eq_none_iff, List.find?_eq_none]
    intro f mem
    simpa using (List.mem_filter.1 mem).2

/-- The others read as before. -/
theorem get_set_ne {k j : String} (ne : k ≠ j) (fields : Fields) (value : Option Json) :
    (Json.obj (set fields j value)).get k = (Json.obj fields).get k := by
  cases value with
  | some v => exact get_put_ne ne fields v
  | none => exact get_erase ne fields

theorem ok_set {fields : Fields} (ok : Ok numbers (.obj fields)) (k : String) {value : Option Json}
    (each : ∀ v ∈ value, Ok numbers v) : Ok numbers (.obj (set fields k value)) := by
  cases value with
  | some v => exact ok_put ok (each v rfl)
  | none => exact ok_filter ok _

theorem ok_orElse {v : Option Json} {d : Json} (each : ∀ w ∈ v, Ok numbers w) (default : Ok numbers d) :
    Ok numbers (orElse v d) := by
  unfold orElse
  cases v with
  | none => exact default
  | some v =>
    dsimp only
    split_ifs
    · exact each v rfl
    · exact default

/-- Only objects are loaded as monsters: anything else has no `stats`. -/
theorem normalizeMon_obj {m m' : Json} (h : normalizeMon m = .ok m') : ∃ fields, m = .obj fields := by
  cases m with
  | obj fields => exact ⟨fields, rfl⟩
  | _ => cases h

/-- Hit points that are there, and those that are not. -/
theorem currentHP_of_some {fields : Fields} {hp : Json} (there : (Json.obj fields).get "currentHP" = some hp)
    (solid : hp ≠ .null) : currentHP (.obj fields) = .ok (some hp) := by
  have read : prop (some (.obj fields)) "currentHP" = .ok (some hp) := congrArg Except.ok there
  unfold currentHP
  rw [read]
  cases hp with
  | null => exact absurd rfl solid
  | _ => rfl

theorem currentHP_of_blank {fields : Fields} (blank : (Json.obj fields).get "currentHP" = none ∨
    (Json.obj fields).get "currentHP" = some .null) :
    currentHP (.obj fields) = prop ((Json.obj fields).get "stats") "hp" := by
  have read : prop (some (.obj fields)) "currentHP" = .ok ((Json.obj fields).get "currentHP") := rfl
  unfold currentHP
  rw [read]
  rcases blank with blank | blank <;> rw [blank] <;> rfl

/-- The fields that the hit points are read from say all about them. -/
theorem currentHP_congr {fields fields' : Fields}
    (hp : (Json.obj fields').get "currentHP" = (Json.obj fields).get "currentHP")
    (stats : (Json.obj fields').get "stats" = (Json.obj fields).get "stats") :
    currentHP (.obj fields') = currentHP (.obj fields) := by
  have read (k : String) : prop (some (.obj fields)) k = .ok ((Json.obj fields).get k) := rfl
  have read' (k : String) : prop (some (.obj fields')) k = .ok ((Json.obj fields').get k) := rfl
  unfold currentHP
  rw [read, read', read, read', hp, stats]

/-- What loading makes of an object. -/
theorem normalizeMon_fields {fields : Fields} {hp : Option Json} (found : currentHP (.obj fields) = .ok hp) :
    normalizeMon (.obj fields) = .ok (.obj (set (put (put (put fields
      ("xp", orElse ((Json.obj fields).get "xp") (.num 0)))
      ("stage", orElse ((Json.obj fields).get "stage") (.num 0)))
      ("affection", orElse ((Json.obj fields).get "affection") (.num 0))) "currentHP" hp)) := by
  unfold normalizeMon
  rw [found]
  rfl

theorem ok_zero : Ok numbers (.num 0) := ok_num (isDouble_of_lt (n := 0) (by decide))

/-- Hit points are there, or they are those of the stats. -/
theorem currentHP_cases {fields : Fields} {hp : Option Json} (found : currentHP (.obj fields) = .ok hp) :
    (∃ v, hp = some v ∧ v ≠ .null ∧ (Json.obj fields).get "currentHP" = some v) ∨
      prop ((Json.obj fields).get "stats") "hp" = .ok hp := by
  cases there : (Json.obj fields).get "currentHP" with
  | none =>
    rw [currentHP_of_blank (.inl there)] at found
    exact .inr found
  | some v =>
    by_cases blank : v = .null
    · rw [currentHP_of_blank (.inr (blank ▸ there))] at found
      exact .inr found
    · rw [currentHP_of_some there blank] at found
      exact .inl ⟨v, (Except.ok.inj found).symm, blank, rfl⟩

theorem ok_currentHP {fields : Fields} (ok : Ok numbers (.obj fields)) {hp : Option Json}
    (found : currentHP (.obj fields) = .ok hp) : ∀ v ∈ hp, Ok numbers v := by
  intro v given
  rcases currentHP_cases found with ⟨w, rfl, -, there⟩ | stats
  · obtain rfl := Option.some.inj given
    exact ok_get ok there
  · rw [Option.mem_def.1 given] at stats
    cases there : (Json.obj fields).get "stats" with
    | none =>
      rw [there] at stats
      cases stats
    | some w =>
      rw [there] at stats
      cases w with
      | obj inner => exact ok_get (ok_get ok there) (Except.ok.inj stats)
      | _ => cases stats

/-- Once the hit points found are put, they are found again. -/
theorem currentHP_set {fields fields' : Fields} {hp : Option Json}
    (found : currentHP (.obj fields) = .ok hp)
    (stats : (Json.obj fields').get "stats" = (Json.obj fields).get "stats") :
    currentHP (.obj (set fields' "currentHP" hp)) = .ok hp := by
  have there := get_set_self fields' "currentHP" hp
  have same : (Json.obj (set fields' "currentHP" hp)).get "stats" = (Json.obj fields).get "stats" :=
    (get_set_ne (by decide) fields' hp).trans stats
  rcases currentHP_cases found with ⟨v, rfl, solid, -⟩ | read
  · exact currentHP_of_some there solid
  · cases hp with
    | none => rw [currentHP_of_blank (.inl there), same, read]
    | some v =>
      by_cases blank : v = .null
      · rw [currentHP_of_blank (.inr (blank ▸ there)), same, read]
      · exact currentHP_of_some there blank

/-- What `normalizeMon` returns has its defaults. -/
theorem loaded_of_normalizeMon {m m' : Json} (ok : Ok numbers m) (h : normalizeMon m = .ok m') :
    ∃ fields, m' = .obj fields ∧ Loaded fields := by
  obtain ⟨fields, rfl⟩ := normalizeMon_obj h
  cases found : currentHP (.obj fields) with
  | error e =>
    unfold normalizeMon at h
    rw [found] at h
    cases h
  | ok hp =>
    rw [normalizeMon_fields found] at h
    have default (k : String) : Ok numbers (orElse ((Json.obj fields).get k) (.num 0)) :=
      ok_orElse (fun v given => ok_get ok given) ok_zero
    have twice (k : String) := orElse_orElse ((Json.obj fields).get k) (.num 0)
    refine ⟨_, (Except.ok.inj h).symm, ?_, ⟨_, ?_, twice "xp"⟩, ⟨_, ?_, twice "stage"⟩,
      ⟨_, ?_, twice "affection"⟩, ?_⟩
    · exact ok_set (ok_put (ok_put (ok_put ok (default _)) (default _)) (default _)) _
        (ok_currentHP ok found)
    · rw [get_set_ne (by decide), get_put_ne (by decide), get_put_ne (by decide), get_put_self]
    · rw [get_set_ne (by decide), get_put_ne (by decide), get_put_self]
    · rw [get_set_ne (by decide), get_put_self]
    · rw [get_set_self]
      refine currentHP_set found ?_
      rw [get_put_ne (by decide), get_put_ne (by decide), get_put_ne (by decide)]

/-- A loaded monster is loaded as it is. -/
theorem Loaded.normal {fields : Fields} (loaded : Loaded fields) :
    normalizeMon (.obj fields) = .ok (.obj fields) := by
  have keys : (fields.map Prod.fst).Nodup := by
    cases loaded.ok with
    | obj keys each => exact keys
  obtain ⟨xp, xp_there, xp_solid⟩ := loaded.xp
  obtain ⟨stage, stage_there, stage_solid⟩ := loaded.stage
  obtain ⟨affection, affection_there, affection_solid⟩ := loaded.affection
  rw [normalizeMon_fields loaded.hp, xp_there, stage_there, affection_there, xp_solid, stage_solid,
    affection_solid, put_get keys xp_there, put_get keys stage_there, put_get keys affection_there]
  cases there : (Json.obj fields).get "currentHP" with
  | none => exact congrArg (fun f => Except.ok (Json.obj f)) (filter_of_get_eq_none there)
  | some hp => exact congrArg (fun f => Except.ok (Json.obj f)) (put_get keys there)

/-- Without its cached moves it is one still. -/
theorem Loaded.strip {fields : Fields} (loaded : Loaded fields) :
    Loaded (fields.filter (·.1 ≠ "moves")) := by
  have kept {k : String} (ne : k ≠ "moves") :
      (Json.obj (fields.filter (·.1 ≠ "moves"))).get k = (Json.obj fields).get k := get_erase ne fields
  refine ⟨ok_filter loaded.ok _, ?_, ?_, ?_, ?_⟩
  · rw [kept (by decide)]
    exact loaded.xp
  · rw [kept (by decide)]
    exact loaded.stage
  · rw [kept (by decide)]
    exact loaded.affection
  · rw [currentHP_congr (kept (by decide)) (kept (by decide)), kept (by decide)]
    exact loaded.hp

theorem mapM_loaded {items ms : List Json} (ok : ∀ v ∈ items, Ok numbers v)
    (h : items.mapM normalizeMon = .ok ms) :
    ∃ team : List Fields, ms = team.map .obj ∧ ∀ m ∈ team, Loaded m := by
  induction items generalizing ms with
  | nil =>
    obtain rfl := Except.ok.inj h
    exact ⟨[], rfl, fun _ mem => nomatch mem⟩
  | cons v vs ih =>
    rw [List.mapM_cons] at h
    obtain ⟨m, first, h⟩ := bind_eq_ok.1 h
    obtain ⟨ms', rest, h⟩ := bind_eq_ok.1 h
    obtain rfl := Except.ok.inj h
    obtain ⟨fields, rfl, loaded⟩ := loaded_of_normalizeMon (ok v List.mem_cons_self) first
    obtain ⟨team, rfl, all⟩ := ih (fun w mem => ok w (List.mem_cons_of_mem v mem)) rest
    exact ⟨fields :: team, rfl, List.forall_mem_cons.2 ⟨loaded, all⟩⟩

/-- So has every monster of a loaded list. -/
theorem mapMons_loaded {v : Option Json} {w : Json} (ok : ∀ x ∈ v, Ok numbers x)
    (h : mapMons v = .ok w) : ∃ team : List Fields, w = .arr (team.map .obj) ∧ ∀ m ∈ team, Loaded m := by
  have whole : Ok numbers (orElse v (.arr [])) := ok_orElse ok (.arr fun _ mem => nomatch mem)
  unfold mapMons at h
  split at h
  · next items eq =>
    obtain ⟨ms, mapped, h⟩ := bind_eq_ok.1 h
    obtain rfl := Except.ok.inj h
    rw [eq] at whole
    cases whole with
    | arr each =>
      obtain ⟨team, rfl, all⟩ := mapM_loaded each mapped
      exact ⟨team, rfl, all⟩
  · cases h

/-- Loading a loaded list changes nothing. -/
theorem mapMons_normal {team : List Fields} (all : ∀ m ∈ team, Loaded m) :
    mapMons (some (.arr (team.map .obj))) = .ok (.arr (team.map .obj)) := by
  have each : (team.map Json.obj).mapM normalizeMon = .ok (team.map .obj) := by
    induction team with
    | nil => rfl
    | cons m ms ih =>
      obtain ⟨first, rest⟩ := List.forall_mem_cons.1 all
      rw [List.map_cons, List.mapM_cons, first.normal, ih rest]
      rfl
  show ((team.map Json.obj).mapM normalizeMon >>= _) = _
  rw [each]
  rfl

/-! ## Trainers -/

/-- A trainer as loading leaves it, in its parts. -/
structure Parts where
  id : Option Json
  name : Option Json
  team : List Fields
  box : List Fields
  badges : Json
  location : Json
  items : Json
  totalBattles : Json
  totalCaught : Json
  strategy : Json

namespace Parts

/-- The parts as the fields of a value. -/
def fields (t : Parts) : Fields :=
  field? "id" t.id ++ field? "name" t.name ++
    [("team", .arr (t.team.map .obj)), ("box", .arr (t.box.map .obj)), ("badges", t.badges),
      ("location", t.location), ("items", t.items), ("totalBattles", t.totalBattles),
      ("totalCaught", t.totalCaught), ("strategy", t.strategy)]

/-- The save that holds it. -/
def saved (t : Parts) (rngState : Option UInt32) : Json :=
  .obj (("version", .num saveVersion) ::
    (field? "rngState" (rngState.map fun state => .num state.toNat) ++ [("trainer", .obj t.fields)]))

/-- No monster has moves cached. -/
def stripped (t : Parts) : Parts :=
  { t with
    team := t.team.map (·.filter (·.1 ≠ "moves"))
    box := t.box.map (·.filter (·.1 ≠ "moves")) }

/-- All defaults are put. -/
structure Good (t : Parts) : Prop where
  id : ∀ v ∈ t.id, Ok numbers v
  name : ∀ v ∈ t.name, Ok numbers v
  team : ∀ m ∈ t.team, Loaded m
  box : ∀ m ∈ t.box, Loaded m
  badges : Ok numbers t.badges ∧ orElse (some t.badges) (.arr []) = t.badges
  location : Ok numbers t.location ∧ orElse (some t.location) (.str "seedling") = t.location
  items : Ok numbers t.items ∧ orElse (some t.items) (.obj [("ball", .num 0)]) = t.items
  totalBattles : Ok numbers t.totalBattles ∧ orElse (some t.totalBattles) (.num 0) = t.totalBattles
  totalCaught : Ok numbers t.totalCaught ∧ orElse (some t.totalCaught) (.num 0) = t.totalCaught
  strategy : Ok numbers t.strategy ∧ orElse (some t.strategy) (.obj []) = t.strategy

theorem get_fields (t : Parts) :
    (Json.obj t.fields).get "id" = t.id ∧ (Json.obj t.fields).get "name" = t.name ∧
      (Json.obj t.fields).get "team" = some (.arr (t.team.map .obj)) ∧
      (Json.obj t.fields).get "box" = some (.arr (t.box.map .obj)) ∧
      (Json.obj t.fields).get "badges" = some t.badges ∧
      (Json.obj t.fields).get "location" = some t.location ∧
      (Json.obj t.fields).get "items" = some t.items ∧
      (Json.obj t.fields).get "totalBattles" = some t.totalBattles ∧
      (Json.obj t.fields).get "totalCaught" = some t.totalCaught ∧
      (Json.obj t.fields).get "strategy" = some t.strategy := by
  simp [fields, List.append_assoc, get_field?, Infra.Json.get_cons]
  simp [Infra.Json.get]

theorem Good.stripped {t : Parts} (good : t.Good) : t.stripped.Good where
  __ := good
  team := by
    intro m mem
    obtain ⟨f, given, rfl⟩ := List.mem_map.1 mem
    exact (good.team f given).strip
  box := by
    intro m mem
    obtain ⟨f, given, rfl⟩ := List.mem_map.1 mem
    exact (good.box f given).strip

theorem stripped_stripped (t : Parts) : t.stripped.stripped = t.stripped := by
  simp [Parts.stripped, Function.comp_def]

theorem ok_team {team : List Fields} (all : ∀ m ∈ team, Loaded m) :
    Ok numbers (.arr (team.map .obj)) := by
  refine .arr ?_
  intro v mem
  obtain ⟨m, given, rfl⟩ := List.mem_map.1 mem
  exact (all m given).ok

/-- A loaded trainer can be printed. -/
theorem Good.ok {t : Parts} (good : t.Good) : Ok numbers (.obj t.fields) := by
  refine .obj ?_ ?_
  · have names : ["id", "name", "team", "box", "badges", "location", "items", "totalBattles",
        "totalCaught", "strategy"].Nodup := by decide
    refine names.sublist ?_
    unfold fields
    rw [List.map_append, List.map_append]
    exact ((field?_keys ..).append (field?_keys ..)).append (.refl _)
  · intro f mem
    unfold fields at mem
    simp only [List.mem_append, List.mem_cons, List.not_mem_nil, or_false] at mem
    rcases mem with (mem | mem) | rfl | rfl | rfl | rfl | rfl | rfl | rfl | rfl
    · exact ok_field? good.id f mem
    · exact ok_field? good.name f mem
    · exact ok_team good.team
    · exact ok_team good.box
    · exact good.badges.1
    · exact good.location.1
    · exact good.items.1
    · exact good.totalBattles.1
    · exact good.totalCaught.1
    · exact good.strategy.1

/-- So can its save. -/
theorem Good.ok_saved {t : Parts} (good : t.Good) (rngState : Option UInt32) :
    Ok numbers (t.saved rngState) := by
  refine .obj ?_ ?_
  · have names : ["version", "rngState", "trainer"].Nodup := by decide
    refine names.sublist ?_
    simp only [List.map_append, List.map_cons, List.cons_sublist_cons]
    exact (field?_keys ..).append (.refl _)
  · intro f mem
    rw [List.mem_cons, List.mem_append, List.mem_singleton] at mem
    rcases mem with rfl | mem | rfl
    · exact ok_num (isDouble_of_lt (n := saveVersion) (by decide))
    · refine ok_field? ?_ f mem
      intro v mem
      obtain ⟨state, -, rfl⟩ := Option.map_eq_some_iff.1 mem
      exact ok_num (isDouble_of_lt (state.toNat_lt.trans (by decide)))
    · exact good.ok

/-- What was loaded and saved is loaded as it was. -/
theorem Good.load {t : Parts} (good : t.Good) (rngState : Option UInt32) :
    loadTrainer (t.saved rngState) = .ok (.obj t.fields) := by
  obtain ⟨id, name, team, box, badges, location, items, battles, caught, strategy⟩ := t.get_fields
  have read (k : String) : prop (some (.obj t.fields)) k = .ok ((Json.obj t.fields).get k) := rfl
  have version : prop (some (t.saved rngState)) "version" = .ok (some (.num saveVersion)) := rfl
  have trainer : prop (some (t.saved rngState)) "trainer" = .ok (some (.obj t.fields)) := by
    cases rngState <;> rfl
  have checked : checkVersion (some (.num saveVersion)) = .ok () := if_pos (by simp [isVersion])
  unfold loadTrainer
  rw [version, trainer]
  show (checkVersion (some (.num saveVersion)) >>= _) = _
  rw [checked]
  simp only [read, id, name, team, box, badges, location, items, battles, caught, strategy,
    Infra.ok_bind, mapMons_normal good.team, mapMons_normal good.box, good.badges.2, good.location.2,
    good.items.2, good.totalBattles.2, good.totalCaught.2, good.strategy.2]
  rfl

theorem put_stripped (t : Parts) :
    put (put t.fields ("team", .arr (t.stripped.team.map .obj))) ("box", .arr (t.stripped.box.map .obj)) =
      t.stripped.fields := by
  cases id : t.id <;> cases name : t.name <;> simp [put, fields, field?, Parts.stripped, id, name]

/-- What was loaded can be saved. -/
theorem save_fields (t : Parts) (rngState : Option UInt32) :
    saveTrainer (.obj t.fields) rngState = .ok (t.stripped.saved rngState) := by
  have strip (team : List Fields) : stripMons (some (.arr (team.map .obj))) =
      .ok (.arr ((team.map (·.filter (·.1 ≠ "moves"))).map .obj)) := by
    have each : (team.map Json.obj).mapM stripMon =
        .ok ((team.map (·.filter (·.1 ≠ "moves"))).map .obj) := by
      induction team with
      | nil => rfl
      | cons m ms ih =>
        rw [List.map_cons, List.mapM_cons, ih]
        rfl
    show ((team.map Json.obj).mapM stripMon >>= _) = _
    rw [each]
    rfl
  obtain ⟨-, -, team, box, -⟩ := t.get_fields
  have read (k : String) : prop (some (.obj t.fields)) k = .ok ((Json.obj t.fields).get k) := rfl
  have whole : orElse (some (.arr (t.box.map .obj))) (.arr []) = .arr (t.box.map .obj) := rfl
  unfold saveTrainer
  rw [read, read, team, box]
  simp only [Infra.ok_bind, whole, strip]
  unfold saved
  rw [← put_stripped]
  rfl

theorem ok_prop {v w : Option Json} {k : String} (ok : ∀ x ∈ v, Ok numbers x) (h : prop v k = .ok w) :
    ∀ x ∈ w, Ok numbers x := by
  intro x given
  cases v with
  | none => cases h
  | some v =>
    have whole := ok v rfl
    rw [Option.mem_def.1 given] at h
    cases v with
    | obj fields => exact ok_get whole (Except.ok.inj h)
    | _ => cases h

/-- Loading puts all defaults. -/
theorem load_good {save v : Json} (ok : Ok numbers save) (h : loadTrainer save = .ok v) :
    ∃ t : Parts, v = .obj t.fields ∧ t.Good := by
  unfold loadTrainer at h
  obtain ⟨-, -, h⟩ := bind_eq_ok.1 h
  obtain ⟨version, -, h⟩ := bind_eq_ok.1 h
  obtain ⟨-, -, h⟩ := bind_eq_ok.1 h
  obtain ⟨t, trainer, h⟩ := bind_eq_ok.1 h
  have ok_t := ok_prop (v := some save) (by rintro x ⟨⟩; exact ok) trainer
  obtain ⟨id, read_id, h⟩ := bind_eq_ok.1 h
  obtain ⟨name, read_name, h⟩ := bind_eq_ok.1 h
  obtain ⟨team, read_team, h⟩ := bind_eq_ok.1 h
  obtain ⟨mons, map_team, h⟩ := bind_eq_ok.1 h
  obtain ⟨box, read_box, h⟩ := bind_eq_ok.1 h
  obtain ⟨boxed, map_box, h⟩ := bind_eq_ok.1 h
  obtain ⟨badges, read_badges, h⟩ := bind_eq_ok.1 h
  obtain ⟨location, read_location, h⟩ := bind_eq_ok.1 h
  obtain ⟨items, read_items, h⟩ := bind_eq_ok.1 h
  obtain ⟨battles, read_battles, h⟩ := bind_eq_ok.1 h
  obtain ⟨caught, read_caught, h⟩ := bind_eq_ok.1 h
  obtain ⟨strategy, read_strategy, h⟩ := bind_eq_ok.1 h
  obtain ⟨team, rfl, all⟩ := mapMons_loaded (ok_prop ok_t read_team) map_team
  obtain ⟨box, rfl, boxed⟩ := mapMons_loaded (ok_prop ok_t read_box) map_box
  have good {w : Option Json} {k : String} {d : Json} (read : prop t k = .ok w) (default : Ok numbers d) :
      Ok numbers (orElse w d) ∧ orElse (some (orElse w d)) d = orElse w d :=
    ⟨ok_orElse (ok_prop ok_t read) default, orElse_orElse w d⟩
  have none_ : ∀ v ∈ ([] : List Json), Ok numbers v := fun v mem => nomatch mem
  have no_field : ∀ f ∈ ([] : Fields), Ok numbers f.2 := fun f mem => nomatch mem
  have ball : ∀ f ∈ [("ball", Json.num 0)], Ok numbers f.2 := by
    intro f mem
    rw [List.mem_singleton.1 mem]
    exact ok_zero
  refine ⟨⟨id, name, team, box, _, _, _, _, _, _⟩, (Except.ok.inj h).symm, ok_prop ok_t read_id,
    ok_prop ok_t read_name, all, boxed, good read_badges (.arr none_), good read_location (.str _),
    good read_items (.obj (by decide) ball), good read_battles ok_zero, good read_caught ok_zero,
    good read_strategy (.obj List.nodup_nil no_field)⟩

end Parts

/-- **Loaded and saved, a text stays.** Whatever text is loaded, what came of it can be saved with any
generator state, and the text of that save is loaded again, to be saved as the same text. -/
theorem resave_stable {s : String} {v : Json} (loaded : deserializeTrainer s = .ok v)
    (rngState : Option UInt32) :
    ∃ text w, serializeTrainer v rngState = .ok text ∧ deserializeTrainer text = .ok w ∧
      serializeTrainer w rngState = .ok text := by
  unfold deserializeTrainer at loaded
  split at loaded
  · next save parsed =>
    obtain ⟨t, rfl, good⟩ := Parts.load_good (Infra.Json.ok_parse keeps_of_read parsed) loaded
    have back := Infra.Json.parse_stringify (good.stripped.ok_saved rngState)
    have first : serializeTrainer (.obj t.fields) rngState =
        .ok (Infra.Json.stringify numbers (t.stripped.saved rngState)) := by
      unfold serializeTrainer
      rw [Parts.save_fields]
      rfl
    have again : serializeTrainer (.obj t.stripped.fields) rngState =
        .ok (Infra.Json.stringify numbers (t.stripped.saved rngState)) := by
      unfold serializeTrainer
      rw [Parts.save_fields, Parts.stripped_stripped]
      rfl
    refine ⟨_, _, first, ?_, again⟩
    unfold deserializeTrainer
    rw [back]
    exact good.stripped.load rngState
  · cases loaded

theorem resave_stable_fresh : ∃ v text w,
    deserializeTrainer (Game.serializeTrainer freshTrainer none) = .ok v ∧
      serializeTrainer v (some 321) = .ok text ∧ deserializeTrainer text = .ok w ∧
      serializeTrainer w (some 321) = .ok text := by
  obtain ⟨⟨t, -, loaded⟩, -⟩ := deserialize_serialize freshTrainer_stored none
  obtain ⟨text, w, saved, back, again⟩ := resave_stable loaded (some 321)
  exact ⟨_, text, w, loaded, saved, back, again⟩

/-! ## Trainers of the engine -/

theorem stripMon_json (m : MonsterInstance) : stripMon m.json = .ok (Game.stripMon m).json := by
  show Except.ok (Json.obj (m.fields.filter (·.1 ≠ "moves"))) = .ok (.obj (Game.stripMon m).fields)
  cases rarity : m.rarity <;> cases tier : m.rarityTier <;> cases moves : m.moves <;>
    simp [MonsterInstance.fields, field?, Game.stripMon, rarity, tier, moves]

theorem stripMons_json (ms : List MonsterInstance) :
    stripMons (some (.arr (ms.map MonsterInstance.json))) =
      .ok (.arr ((ms.map Game.stripMon).map MonsterInstance.json)) := by
  have each : (ms.map MonsterInstance.json).mapM stripMon =
      .ok ((ms.map Game.stripMon).map MonsterInstance.json) := by
    induction ms with
    | nil => rfl
    | cons m ms ih =>
      rw [List.map_cons, List.mapM_cons, stripMon_json, ih]
      rfl
  show ((ms.map MonsterInstance.json).mapM stripMon >>= _) = _
  rw [each]
  rfl

/-- Saving a trainer of the engine as a value is saving it as a record. -/
theorem saveTrainer_json (t : Trainer) (rngState : Option UInt32) :
    saveTrainer t.json rngState = .ok (Game.saveTrainer t rngState).json := by
  have team := stripMons_json t.team
  have box := stripMons_json t.box
  unfold saveTrainer
  show (stripMons (some (.arr (t.team.map MonsterInstance.json))) >>= _) = _
  rw [team]
  show (stripMons (some (.arr (t.box.map MonsterInstance.json))) >>= _) = _
  rw [box]
  show Except.ok _ = _
  cases strategy : t.strategy <;>
    simp [SavedGame.json, Game.saveTrainer, Trainer.stripped, Trainer.json, spread, put, field?, strategy]

end Pokeage.Game.Text
