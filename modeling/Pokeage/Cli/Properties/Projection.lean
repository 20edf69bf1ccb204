import Pokeage.Cli.Economy

/-!
# The projection

Every day accrues the same. So after `k` days the loop holds `k` times a day's burn and pool, which fit as
long as the total does, and only the first and the last check of `project` can fail.
-/

namespace Pokeage.Cli.Economy

open Infra

/-- The row of the `k`-th day, counted from zero. -/
def rowAt (dailySink dailyBurn dailyPool k : ℕ) : ProjectionDay where
  day := k + 1
  dailySink := dailySink
  dailyBurn := dailyBurn
  dailyPool := dailyPool
  cumBurn := (k + 1) * dailyBurn
  cumPool := (k + 1) * dailyPool

/-- What has been accrued after so many days. -/
def accruedAfter (dailySink dailyBurn dailyPool days : ℕ) : Accrued where
  cumBurn := days * dailyBurn
  cumPool := days * dailyPool
  rows := (List.range days).map (rowAt dailySink dailyBurn dailyPool)

section

variable {dailySink dailyBurn dailyPool days : ℕ}

/-- One day more than after so many days. -/
theorem accruedAfter_succ : accruedAfter dailySink dailyBurn dailyPool (days + 1) =
    ⟨days * dailyBurn + dailyBurn, days * dailyPool + dailyPool,
      (accruedAfter dailySink dailyBurn dailyPool days).rows ++
        [⟨days + 1, dailySink, dailyBurn, dailyPool, days * dailyBurn + dailyBurn,
          days * dailyPool + dailyPool⟩]⟩ := by
  simp [accruedAfter, List.range_succ, rowAt, Nat.succ_mul]

/-- One more day, if it fits. -/
theorem accrueDay_ok (burn : (days + 1) * dailyBurn < 2 ^ 64)
    (pool : (days + 1) * dailyPool < 2 ^ 64) :
    accrueDay dailySink dailyBurn dailyPool (accruedAfter dailySink dailyBurn dailyPool days)
        (1 + days) = .ok (accruedAfter dailySink dailyBurn dailyPool (days + 1)) := by
  rw [Nat.succ_mul] at burn pool
  rw [accruedAfter_succ, Nat.add_comm 1 days]
  simp only [accrueDay, bind_eq_ok, checkedAdd_eq_ok, pure_eq_ok]
  exact ⟨_, ⟨burn, rfl⟩, _, ⟨pool, rfl⟩, rfl⟩

/-- The loop accrues the days as long as both sums fit. -/
theorem accrue_ok (burn : days * dailyBurn < 2 ^ 64) (pool : days * dailyPool < 2 ^ 64) :
    accrue dailySink dailyBurn dailyPool days =
      .ok (accruedAfter dailySink dailyBurn dailyPool days) := by
  induction days with
  | zero => simp [accrue, accruedAfter]
  | succ days ih =>
    have burn' : days * dailyBurn < 2 ^ 64 :=
      Nat.lt_of_le_of_lt (Nat.mul_le_mul_right _ (Nat.le_succ days)) burn
    have pool' : days * dailyPool < 2 ^ 64 :=
      Nat.lt_of_le_of_lt (Nat.mul_le_mul_right _ (Nat.le_succ days)) pool
    have earlier := ih burn' pool'
    unfold accrue at earlier ⊢
    rw [List.range'_concat, List.foldlM_append, earlier, ok_bind, Nat.one_mul]
    exact (bind_pure _).trans (accrueDay_ok burn pool)

end

/-! ## All or error -/

/-- The projection of this daily sink per user. -/
def projection (perUser : ℕ) (days : UInt32) (users : UInt64) : Projection :=
  let dailySink := perUser * users.toNat
  let dailyBurn := dailySink * 7 / 10
  let acc := accruedAfter dailySink dailyBurn (dailySink - dailyBurn) days.toNat
  ⟨days, users, acc.rows, dailySink * days.toNat, acc.cumBurn, acc.cumPool⟩

section

variable {F64 : Type} {deployUnits : F64 → UInt64} {profile : DailyProfile F64} {perUser : ℕ}
  {days : UInt32} {users : UInt64}

theorem project_of_fits (sink : dailySinkPerUser deployUnits profile = .ok perUser)
    (some_ : 1 ≤ days.toNat) (fits : perUser * users.toNat * days.toNat < 2 ^ 64) :
    project deployUnits days users profile = .ok (projection perUser days users) := by
  have nonzero : days ≠ 0 := by
    rintro rfl
    exact absurd some_ (by decide)
  have daily : perUser * users.toNat < 2 ^ 64 :=
    Nat.lt_of_le_of_lt (Nat.le_mul_of_pos_right _ some_) fits
  have part {x : ℕ} (le : x ≤ perUser * users.toNat) : days.toNat * x < 2 ^ 64 := by
    rw [Nat.mul_comm]
    exact Nat.lt_of_le_of_lt (Nat.mul_le_mul_right _ le) fits
  have split := splitSink_ok daily
  have accrued : accrue (perUser * users.toNat) (perUser * users.toNat * 7 / 10)
      (perUser * users.toNat - perUser * users.toNat * 7 / 10) days.toNat =
      .ok (accruedAfter _ _ _ days.toNat) :=
    accrue_ok (part (by omega)) (part (Nat.sub_le _ _))
  simp only [project, bind_eq_ok, require_eq_ok, checkedMul_eq_ok, pure_eq_ok]
  exact ⟨(), nonzero, perUser, sink, _, ⟨daily, rfl⟩, _, split, _, accrued, _, ⟨fits, rfl⟩, rfl⟩

/-- A projection that succeeds fits. -/
theorem fits_of_project (sink : dailySinkPerUser deployUnits profile = .ok perUser) {p : Projection}
    (h : project deployUnits days users profile = .ok p) :
    1 ≤ days.toNat ∧ perUser * users.toNat * days.toNat < 2 ^ 64 := by
  simp only [project, bind_eq_ok, require_eq_ok, checkedMul_eq_ok, pure_eq_ok] at h
  obtain ⟨-, nonzero, perUser', sink', _, ⟨-, rfl⟩, _, -, _, -, _, ⟨fits, -⟩, -⟩ := h
  obtain rfl : perUser = perUser' := Except.ok.inj (sink.symm.trans sink')
  refine ⟨Nat.pos_of_ne_zero fun zero => nonzero ?_, fits⟩
  exact UInt32.toNat_inj.1 zero

/-- **Projection.** It succeeds exactly when the total fits into a `u64`, and then every row and total is
a multiple of a day's. -/
theorem project_exact (sink : dailySinkPerUser deployUnits profile = .ok perUser) (days : UInt32)
    (users : UInt64) :
    ((∃ p, project deployUnits days users profile = .ok p) ↔
      1 ≤ days.toNat ∧ perUser * users.toNat * days.toNat ≤ 2 ^ 64 - 1) ∧
    ∀ p, project deployUnits days users profile = .ok p →
      p.rows.length = days.toNat ∧
      (∀ k row, p.rows[k]? = some row →
        row.day = k + 1 ∧ row.dailySink = perUser * users.toNat ∧
        row.dailyBurn = row.dailySink * 7 / 10 ∧
        row.dailyPool = row.dailySink - row.dailyBurn ∧
        row.cumBurn = (k + 1) * row.dailyBurn ∧ row.cumPool = (k + 1) * row.dailyPool) ∧
      p.totalSink = perUser * users.toNat * days.toNat ∧
      p.totalBurn + p.totalPool = p.totalSink := by
  refine ⟨⟨?_, ?_⟩, ?_⟩
  · rintro ⟨p, h⟩
    obtain ⟨some_, fits⟩ := fits_of_project sink h
    exact ⟨some_, Nat.le_pred_of_lt fits⟩
  · rintro ⟨some_, le⟩
    exact ⟨_, project_of_fits sink some_ (Nat.lt_of_le_pred (by decide) le)⟩
  · intro p h
    obtain ⟨some_, fits⟩ := fits_of_project sink h
    obtain rfl : projection perUser days users = p :=
      Except.ok.inj ((project_of_fits sink some_ fits).symm.trans h)
    refine ⟨by simp [projection, accruedAfter], ?_, rfl, ?_⟩
    · intro k row there
      simp only [projection, accruedAfter, List.getElem?_map, Option.map_eq_some_iff] at there
      obtain ⟨k', inside, rfl⟩ := there
      obtain ⟨lt, rfl⟩ := List.getElem?_eq_some_iff.1 inside
      simp [rowAt]
    · have parts : perUser * users.toNat * 7 / 10 +
          (perUser * users.toNat - perUser * users.toNat * 7 / 10) = perUser * users.toNat := by
        omega
      show days.toNat * _ + days.toNat * _ = perUser * users.toNat * days.toNat
      rw [← Nat.mul_add, parts, Nat.mul_comm]

end

/-- The default profile, of which a twentieth of the users deploys. -/
def defaultProfile : DailyProfile Unit := ⟨(), 8, 2, 0, 1, 3⟩

/-- A year of a thousand users: each spends six hundred and five tokens a day. -/
theorem project_exact_defaultProfile :
    ∃ p, project (fun _ => 50000000) 365 1000 defaultProfile = .ok p ∧ p.rows.length = 365 ∧
      p.totalBurn + p.totalPool = p.totalSink := by
  have sink : dailySinkPerUser (fun _ => 50000000) defaultProfile = .ok 605000000 := by
    decide
  obtain ⟨succeeds, then_⟩ := project_exact sink 365 1000
  obtain ⟨p, h⟩ := succeeds.2 (by decide)
  obtain ⟨rows, -, -, total⟩ := then_ p h
  exact ⟨p, h, rows, total⟩

end Pokeage.Cli.Economy
