import Pokeage.Infra.Codec

/-!
# Borsh

The Borsh format of fixed-width values: what a value is written as, and what reads it back. A struct is
its fields one after the other.
-/

namespace Infra.Borsh

/-- Why a byte string is not read. -/
inductive BorshError where
  | unexpectedLength
  | invalidBool (b : UInt8)
  | notAllRead
  deriving DecidableEq, Repr

/-! ## Writing -/

/-- Numbers are written in the bytes of their width, the lowest first. -/
def putU8 (x : UInt8) : Bytes := le 1 x.toNat
def putU16 (x : UInt16) : Bytes := le 2 x.toNat
def putU32 (x : UInt32) : Bytes := le 4 x.toNat
def putU64 (x : UInt64) : Bytes := le 8 x.toNat
def putI64 (x : Int64) : Bytes := le 8 x.toUInt64.toNat
/-- A boolean is a byte. -/
def putBool (x : Bool) : Bytes := putU8 (if x then 1 else 0)

@[simp] theorem length_putU8 (x : UInt8) : (putU8 x).length = 1 := length_le 1 _
@[simp] theorem length_putU16 (x : UInt16) : (putU16 x).length = 2 := length_le 2 _
@[simp] theorem length_putU32 (x : UInt32) : (putU32 x).length = 4 := length_le 4 _
@[simp] theorem length_putU64 (x : UInt64) : (putU64 x).length = 8 := length_le 8 _
@[simp] theorem length_putI64 (x : Int64) : (putI64 x).length = 8 := length_le 8 _
@[simp] theorem length_putBool (x : Bool) : (putBool x).length = 1 := length_le 1 _

/-! ## Reading -/

/-- A number of `w` bytes. -/
def getLe (w : ℕ) : Parser BorshError ℕ := do return ofLe (← Parser.take .unexpectedLength w)

/-- Numbers of each width. -/
def getU8 : Parser BorshError UInt8 := do return UInt8.ofNat (← getLe 1)
def getU16 : Parser BorshError UInt16 := do return UInt16.ofNat (← getLe 2)
def getU32 : Parser BorshError UInt32 := do return UInt32.ofNat (← getLe 4)
def getU64 : Parser BorshError UInt64 := do return UInt64.ofNat (← getLe 8)
def getI64 : Parser BorshError Int64 := do return (← getU64).toInt64

/-- Zero and one stand for a boolean, nothing else does. -/
def boolOf (b : UInt8) : Parser BorshError Bool :=
  if b = 0 then return false
  else if b = 1 then return true
  else throw (.invalidBool b)

/-- A byte that stands for a boolean. -/
def getBool : Parser BorshError Bool := do boolOf (← getU8)

/-- The next `n` bytes, with their number. -/
def fixed (n : ℕ) : Parser BorshError (Fixed n) := fun bytes =>
  if h : bytes.length < n then .error .unexpectedLength
  else .ok (⟨bytes.take n, by rw [List.length_take]; omega⟩, bytes.drop n)

/-- `try_from_slice`. -/
def tryFromSlice {α : Type} (p : Parser BorshError α) (bytes : Bytes) : Except BorshError α :=
  p.whole .notAllRead bytes

/-! ## Round trips and widths -/

/-- A number is read back from its bytes. -/
theorem parses_getLe {w n : ℕ} (h : n < 256 ^ w) : Parses (getLe w) (le w n) n := by
  have read : Parses (getLe w) (le w n) (ofLe (le w n)) := (Parses.take (length_le w n)).map ofLe
  rw [ofLe_le h] at read
  exact read

theorem consumes_getLe (w : ℕ) : Consumes (getLe w) w := (Consumes.take _ w).map ofLe

theorem parses_getU8 (x : UInt8) : Parses getU8 (putU8 x) x := by
  have read := (parses_getLe (w := 1) x.toNat_lt).map UInt8.ofNat
  rwa [UInt8.ofNat_toNat] at read

theorem parses_getU16 (x : UInt16) : Parses getU16 (putU16 x) x := by
  have read := (parses_getLe (w := 2) x.toNat_lt).map UInt16.ofNat
  rwa [UInt16.ofNat_toNat] at read

theorem parses_getU32 (x : UInt32) : Parses getU32 (putU32 x) x := by
  have read := (parses_getLe (w := 4) x.toNat_lt).map UInt32.ofNat
  rwa [UInt32.ofNat_toNat] at read

theorem parses_getU64 (x : UInt64) : Parses getU64 (putU64 x) x := by
  have read := (parses_getLe (w := 8) x.toNat_lt).map UInt64.ofNat
  rwa [UInt64.ofNat_toNat] at read

theorem parses_getI64 (x : Int64) : Parses getI64 (putI64 x) x :=
  (parses_getU64 x.toUInt64).map UInt64.toInt64

/-- A boolean is read back. -/
theorem parses_getBool (x : Bool) : Parses getBool (putBool x) x := by
  have value : Parses (boolOf (if x then 1 else 0)) [] x := by
    cases x <;> exact Parses.pure _
  have read : Parses getBool (putBool x ++ []) x := (parses_getU8 _).bind value
  rwa [List.append_nil] at read

/-- A fixed byte string is read back. -/
theorem parses_fixed {n : ℕ} (x : Fixed n) : Parses (fixed n) x.bytes x := by
  intro rest
  unfold fixed
  rw [dif_neg (by simp [x.length_eq])]
  obtain ⟨bytes, rfl⟩ := x
  simp

theorem consumes_getU8 : Consumes getU8 1 := (consumes_getLe 1).map _
theorem consumes_getU16 : Consumes getU16 2 := (consumes_getLe 2).map _
theorem consumes_getU32 : Consumes getU32 4 := (consumes_getLe 4).map _
theorem consumes_getU64 : Consumes getU64 8 := (consumes_getLe 8).map _
theorem consumes_getI64 : Consumes getI64 8 := consumes_getU64.map _

theorem consumes_getBool : Consumes getBool 1 := by
  refine consumes_getU8.bind (n := 0) fun b => ?_
  unfold boolOf
  split_ifs
  · exact Consumes.pure _
  · exact Consumes.pure _
  · intro _ _ _ h
    cases h

theorem consumes_fixed (n : ℕ) : Consumes (fixed n) n := by
  intro bytes x rest h
  unfold fixed at h
  split_ifs at h with short
  obtain ⟨rfl, rfl⟩ := Prod.mk.inj (Except.ok.inj h)
  rw [List.length_drop]
  omega

end Infra.Borsh
