import Pokeage.Infra.Borsh
import Pokeage.Sdk.Web3

/-!
# The SDK's codec

`borsh.ts`. A reader moves an offset over a buffer: a number past the end throws, while a key past the
end is cut short in silence.
-/

namespace Pokeage.Sdk

open Infra Infra.Borsh

/-! ## Writing -/

/-- The parts that `build` joins. -/
structure BorshWriter where
  parts : List Bytes
  deriving DecidableEq, Repr

namespace BorshWriter

/-- `new BorshWriter()`. -/
def new : BorshWriter := ⟨[]⟩

/-- `this.parts.push(b)`. -/
def push (b : BorshWriter) (part : Bytes) : BorshWriter := ⟨b.parts ++ [part]⟩

/-- `v & 0xff`, and so on: the low bits of a number. -/
def low (w : ℕ) (v : ℤ) : Bytes := le w (v % (256 ^ w : ℕ)).toNat

/-- One byte; a larger number is cut. -/
def u8 (b : BorshWriter) (v : ℤ) : BorshWriter := b.push (low 1 v)
/-- Two bytes, the lower first. -/
def u16 (b : BorshWriter) (v : ℤ) : BorshWriter := b.push (low 2 v)
/-- Four bytes. `v >>> 0` is the number modulo 2³². -/
def u32 (b : BorshWriter) (v : ℤ) : BorshWriter := b.push (low 4 v)

/-- A bigint that does not fit throws. -/
def u64 (b : BorshWriter) (v : ℤ) : Except JsError BorshWriter :=
  if 0 ≤ v ∧ v < 2 ^ 64 then .ok (b.push (low 8 v)) else .error .outOfRange

/-- A signed bigint, in two's complement. -/
def i64 (b : BorshWriter) (v : ℤ) : Except JsError BorshWriter :=
  if -2 ^ 63 ≤ v ∧ v < 2 ^ 63 then .ok (b.push (low 8 v)) else .error .outOfRange

/-- One byte, 1 or 0. -/
def bool (b : BorshWriter) (v : Bool) : BorshWriter := b.u8 (if v then 1 else 0)

/-- The bytes of a key as they are, however many. -/
def pubkey (b : BorshWriter) (bytes : Bytes) : BorshWriter := b.push bytes

/-- The discriminator goes before everything written so far. -/
def disc (b : BorshWriter) (d : Bytes) : BorshWriter := ⟨d :: b.parts⟩

/-- `Buffer.concat(this.parts)`. -/
def build (b : BorshWriter) : Bytes := b.parts.flatten

/-! ### What a number in range is written as -/

/-- A number in range loses no bits. -/
theorem low_natCast {w n : ℕ} (fits : n < 256 ^ w) : low w n = le w n := by
  unfold low
  rw [← Int.natCast_emod, Int.toNat_natCast, Nat.mod_eq_of_lt fits]

@[simp] theorem u8_toNat (b : BorshWriter) (x : UInt8) : b.u8 x.toNat = b.push (putU8 x) :=
  congrArg b.push (low_natCast x.toNat_lt)

@[simp] theorem u16_toNat (b : BorshWriter) (x : UInt16) : b.u16 x.toNat = b.push (putU16 x) :=
  congrArg b.push (low_natCast x.toNat_lt)

@[simp] theorem u32_toNat (b : BorshWriter) (x : UInt32) : b.u32 x.toNat = b.push (putU32 x) :=
  congrArg b.push (low_natCast x.toNat_lt)

@[simp] theorem u64_toNat (b : BorshWriter) (x : UInt64) :
    b.u64 x.toNat = .ok (b.push (putU64 x)) := by
  have fits : (x.toNat : ℤ) < 2 ^ 64 := by exact_mod_cast x.toNat_lt
  unfold u64
  rw [if_pos ⟨Int.natCast_nonneg _, fits⟩, low_natCast (w := 8) x.toNat_lt]
  rfl

/-- Two's complement: the low bits of a number are those of its bit vector. -/
theorem low_toInt (x : Int64) : low 8 x.toInt = putI64 x := by
  have bits : (BitVec.ofInt 64 x.toBitVec.toInt).toNat = (x.toInt % (256 ^ 8 : ℕ)).toNat :=
    BitVec.toNat_ofInt x.toInt
  rw [BitVec.ofInt_toInt] at bits
  exact congrArg (le 8) bits.symm

@[simp] theorem i64_toInt (b : BorshWriter) (x : Int64) :
    b.i64 x.toInt = .ok (b.push (putI64 x)) := by
  unfold i64
  rw [if_pos ⟨x.le_toInt, x.toInt_lt⟩, low_toInt]

/-- Of a boolean the writer and the codec write the same byte. -/
@[simp] theorem bool_eq (b : BorshWriter) (x : Bool) : b.bool x = b.push (putBool x) := by
  cases x with
  | false => exact u8_toNat b 0
  | true => exact u8_toNat b 1

/-- What is pushed last stands last. -/
@[simp] theorem build_push (b : BorshWriter) (part : Bytes) :
    (b.push part).build = b.build ++ part := by
  simp [push, build]

@[simp] theorem build_new : new.build = [] := rfl

/-- The discriminator comes first whatever has been written. -/
@[simp] theorem build_disc (b : BorshWriter) (d : Bytes) : (b.disc d).build = d ++ b.build := rfl

end BorshWriter

/-! ## Reading -/

namespace BorshReader

/-- `buf.readUInt…LE(offset)` of `w` bytes, and the offset moved on. -/
def number (w : ℕ) : Reader JsError ℕ := fun c =>
  if c.buf.length < c.offset + w then .error .outOfRange
  else .ok (ofLe (c.ahead.take w), c.skip w)

/-- Move on without reading. Nothing checks that there is so much. -/
def skip (n : ℕ) : Reader JsError Unit := fun c => .ok ((), c.skip n)

/-- `readUInt8`. -/
def u8 : Reader JsError ℕ := number 1
/-- `readUInt16LE`. -/
def u16 : Reader JsError ℕ := number 2
/-- `readUInt32LE`. -/
def u32 : Reader JsError ℕ := number 4
/-- `readBigUInt64LE`, a bigint. -/
def u64 : Reader JsError ℤ := do return Int.ofNat (← number 8)
/-- `readBigInt64LE`, a bigint with its sign. -/
def i64 : Reader JsError ℤ := do return signed 8 (← number 8)
/-- Only a one is true. -/
def bool : Reader JsError Bool := do return decide ((← u8) = 1)

/-- `buf.subarray(offset, offset + 32)`, which stops at the end of the buffer. -/
def pubkey : Reader JsError Bytes := fun c => .ok (c.ahead.take 32, c.skip 32)

/-! ### What a reader returns -/

/-- Skipping passes over as many bytes. -/
theorem reads_skip {n : ℕ} {bytes : Bytes} (length : bytes.length = n) :
    Reads (skip n) bytes () := by
  intro c rest _
  rw [length]
  rfl

/-- A number is read from the bytes that it was written as. -/
theorem reads_number {w n : ℕ} (positive : 0 < w) (fits : n < 256 ^ w) :
    Reads (number w) (le w n) n := by
  intro c rest front
  have total := congrArg List.length front
  unfold Cursor.ahead at total
  rw [List.length_drop, List.length_append, length_le] at total
  have taken : c.ahead.take w = le w n := by
    rw [front]
    exact List.take_left' (length_le w n)
  unfold number
  rw [if_neg (by omega), taken, ofLe_le fits, length_le]

theorem reads_u8 (x : UInt8) : Reads u8 (putU8 x) x.toNat := reads_number (by decide) x.toNat_lt

theorem reads_u16 (x : UInt16) : Reads u16 (putU16 x) x.toNat := reads_number (by decide) x.toNat_lt

theorem reads_u32 (x : UInt32) : Reads u32 (putU32 x) x.toNat := reads_number (by decide) x.toNat_lt

theorem reads_u64 (x : UInt64) : Reads u64 (putU64 x) x.toNat :=
  (reads_number (by decide) x.toNat_lt).map Int.ofNat

/-- The sign comes back with the number. -/
theorem reads_i64 (x : Int64) : Reads i64 (putI64 x) x.toInt := by
  have read : Reads i64 (putI64 x) (signed 8 x.toUInt64.toNat) :=
    (reads_number (by decide) x.toUInt64.toNat_lt).map (signed 8)
  have value : signed 8 x.toUInt64.toNat = x.toInt :=
    (BitVec.toInt_eq_toNat_cond x.toBitVec).symm
  rwa [value] at read

/-- A boolean is read from its byte. -/
theorem reads_bool (x : Bool) : Reads bool (putBool x) x := by
  have read : Reads bool (putBool x) (decide ((if x then (1 : UInt8) else 0).toNat = 1)) :=
    (reads_u8 _).map fun v => decide (v = 1)
  have value : decide ((if x then (1 : UInt8) else 0).toNat = 1) = x := by cases x <;> rfl
  rwa [value] at read

/-- A key's bytes are read as they are. -/
theorem reads_pubkey (key : Fixed 32) : Reads pubkey key.bytes key.bytes := by
  intro c rest front
  have taken : c.ahead.take 32 = key.bytes := by
    rw [front]
    exact List.take_left' key.length_eq
  unfold pubkey
  rw [taken, key.length_eq]

/-! ### How far it moves -/

theorem advances_skip (n : ℕ) : Advances (skip n) n := by
  intro c a c' h
  cases h
  rfl

/-- A reader of a number moves on by its width. -/
theorem advances_number (w : ℕ) : Advances (number w) w := by
  intro c a c' h
  unfold number at h
  split_ifs at h
  exact (Prod.mk.inj (Except.ok.inj h)).2.symm

/-- A key is skipped whole, even past the end. -/
theorem advances_pubkey : Advances pubkey 32 := by
  intro c a c' h
  cases h
  rfl

theorem advances_u64 : Advances u64 8 := (advances_number 8).map Int.ofNat
theorem advances_i64 : Advances i64 8 := (advances_number 8).map (signed 8)
theorem advances_bool : Advances bool 1 := (advances_number 1).map fun v => decide (v = 1)

/-- A number is only read where all its bytes are there. -/
theorem needs_number (w : ℕ) : Needs (number w) w := by
  intro c a c' h
  unfold number at h
  split_ifs at h with short
  exact Nat.not_lt.1 short

end BorshReader

end Pokeage.Sdk
