import Pokeage.Sdk.Borsh

/-!
# Round trips of the codec

A record is any sequence of typed fields, and its discriminator may be put in front at any point of the
writing. Reading moves the offset by just what each field was written as, so it ends at the end, and the
values read tell two records apart.
-/

namespace Pokeage.Sdk

open Infra Infra.Borsh

/-! ## Fields -/

/-- The kinds of fields that the codec knows. -/
inductive FieldType where
  | u8
  | u16
  | u32
  | u64
  | i64
  | bool
  | pubkey
  deriving DecidableEq, Repr

/-- A value in range, with its type. -/
inductive Field where
  | u8 (v : UInt8)
  | u16 (v : UInt16)
  | u32 (v : UInt32)
  | u64 (v : UInt64)
  | i64 (v : Int64)
  | bool (v : Bool)
  | pubkey (v : Fixed 32)
  deriving DecidableEq

/-- What a reader hands to the caller. -/
inductive JsValue where
  | number (n : ℕ)
  | bigint (n : ℤ)
  | boolean (b : Bool)
  | buffer (bytes : Bytes)
  deriving DecidableEq, Repr

namespace Field

/-- The kind of a field. -/
def type : Field → FieldType
  | .u8 _ => .u8
  | .u16 _ => .u16
  | .u32 _ => .u32
  | .u64 _ => .u64
  | .i64 _ => .i64
  | .bool _ => .bool
  | .pubkey _ => .pubkey

/-- The value of a field, as the reader returns it. -/
def value : Field → JsValue
  | .u8 v => .number v.toNat
  | .u16 v => .number v.toNat
  | .u32 v => .number v.toNat
  | .u64 v => .bigint v.toNat
  | .i64 v => .bigint v.toInt
  | .bool v => .boolean v
  | .pubkey v => .buffer v.bytes

/-- The call of the writer for a field. -/
def write (b : BorshWriter) : Field → Except JsError BorshWriter
  | .u8 v => .ok (b.u8 v.toNat)
  | .u16 v => .ok (b.u16 v.toNat)
  | .u32 v => .ok (b.u32 v.toNat)
  | .u64 v => b.u64 v.toNat
  | .i64 v => b.i64 v.toInt
  | .bool v => .ok (b.bool v)
  | .pubkey v => .ok (b.pubkey v.bytes)

/-- What a field is written as. -/
def put : Field → Bytes
  | .u8 v => putU8 v
  | .u16 v => putU16 v
  | .u32 v => putU32 v
  | .u64 v => putU64 v
  | .i64 v => putI64 v
  | .bool v => putBool v
  | .pubkey v => v.bytes

theorem write_eq (b : BorshWriter) (field : Field) : field.write b = .ok (b.push field.put) := by
  cases field with
  | u8 v => exact congrArg Except.ok (b.u8_toNat v)
  | u16 v => exact congrArg Except.ok (b.u16_toNat v)
  | u32 v => exact congrArg Except.ok (b.u32_toNat v)
  | u64 v => exact b.u64_toNat v
  | i64 v => exact b.i64_toInt v
  | bool v => exact congrArg Except.ok (b.bool_eq v)
  | pubkey v => rfl

end Field

/-- The call of the reader for a type. -/
def FieldType.read : FieldType → Reader JsError JsValue
  | .u8 => do return .number (← BorshReader.u8)
  | .u16 => do return .number (← BorshReader.u16)
  | .u32 => do return .number (← BorshReader.u32)
  | .u64 => do return .bigint (← BorshReader.u64)
  | .i64 => do return .bigint (← BorshReader.i64)
  | .bool => do return .boolean (← BorshReader.bool)
  | .pubkey => do return .buffer (← BorshReader.pubkey)

/-- A field is read as the value it was written from. -/
theorem Field.reads (field : Field) : Reads field.type.read field.put field.value := by
  cases field with
  | u8 v => exact (BorshReader.reads_u8 v).map JsValue.number
  | u16 v => exact (BorshReader.reads_u16 v).map JsValue.number
  | u32 v => exact (BorshReader.reads_u32 v).map JsValue.number
  | u64 v => exact (BorshReader.reads_u64 v).map JsValue.bigint
  | i64 v => exact (BorshReader.reads_i64 v).map JsValue.bigint
  | bool v => exact (BorshReader.reads_bool v).map JsValue.boolean
  | pubkey v => exact (BorshReader.reads_pubkey v).map JsValue.buffer

/-! ## Records -/

/-- Some fields, one after the other. -/
def writeAll (b : BorshWriter) (fields : List Field) : Except JsError BorshWriter :=
  fields.foldlM Field.write b

/-- The values of fields of these kinds, one after the other. -/
def readAll : List FieldType → Reader JsError (List JsValue)
  | [] => return []
  | type :: types => do
    let v ← type.read
    let vs ← readAll types
    return v :: vs

/-- Write some fields, then the discriminator, then the others. -/
def encode (before : List Field) (d : Fixed 8) (after : List Field) : Except JsError Bytes := do
  let b ← writeAll .new before
  let b ← writeAll (b.disc d.bytes) after
  return b.build

/-- `new BorshReader(buf).skip(8)`, and then these types. -/
def decode (types : List FieldType) (buf : Bytes) : Except JsError (List JsValue × Cursor) :=
  (do BorshReader.skip 8; readAll types : Reader JsError (List JsValue)) ⟨buf, 0⟩

/-- What some fields are written as. -/
def putAll (fields : List Field) : Bytes := fields.flatMap Field.put

/-- Writing some fields appends what they are written as. -/
theorem writeAll_build (b : BorshWriter) (fields : List Field) :
    ∃ b', writeAll b fields = .ok b' ∧ b'.build = b.build ++ putAll fields := by
  induction fields generalizing b with
  | nil => exact ⟨b, rfl, (List.append_nil _).symm⟩
  | cons field fields ih =>
    obtain ⟨b', written, built⟩ := ih (b.push field.put)
    refine ⟨b', ?_, ?_⟩
    · unfold writeAll
      rw [List.foldlM_cons, field.write_eq, ok_bind]
      exact written
    · rw [built, BorshWriter.build_push, List.append_assoc]
      rfl

/-- Wherever it is put in front, the discriminator comes first. -/
theorem encode_eq (before : List Field) (d : Fixed 8) (after : List Field) :
    encode before d after = .ok (d.bytes ++ putAll (before ++ after)) := by
  obtain ⟨b, written, built⟩ := writeAll_build .new before
  obtain ⟨b', written', built'⟩ := writeAll_build (b.disc d.bytes) after
  have bytes : b'.build = d.bytes ++ putAll (before ++ after) := by
    rw [built', BorshWriter.build_disc, built, putAll, putAll, putAll, List.flatMap_append, List.append_assoc]
    rfl
  unfold encode
  rw [written, ok_bind, written', ok_bind, bytes]
  rfl

/-- Fields are read as the values they were written from. -/
theorem readAll_reads (fields : List Field) :
    Reads (readAll (fields.map Field.type)) (putAll fields) (fields.map Field.value) := by
  induction fields with
  | nil => exact .pure []
  | cons field fields ih => exact field.reads.bind (ih.map (field.value :: ·))

theorem decode_eq (d : Fixed 8) (fields : List Field) :
    decode (fields.map Field.type) (d.bytes ++ putAll fields) =
      .ok (fields.map Field.value,
        ⟨d.bytes ++ putAll fields, (d.bytes ++ putAll fields).length⟩) := by
  have read := (BorshReader.reads_skip d.length_eq).bind (f := fun _ => readAll _)
    (readAll_reads fields)
  have whole := read ⟨d.bytes ++ putAll fields, 0⟩ [] (List.append_nil _).symm
  unfold Cursor.skip at whole
  rw [Nat.zero_add] at whole
  exact whole

/-- **Round trip.** What was written is read back up to the end of the buffer, so records of the same
types with different values differ. -/
theorem borsh_roundTrip (d : Fixed 8) (before after : List Field) :
    ∃ bytes, encode before d after = .ok bytes ∧
      decode ((before ++ after).map Field.type) bytes =
        .ok ((before ++ after).map Field.value, ⟨bytes, bytes.length⟩) ∧
      ∀ (d' : Fixed 8) (before' after' : List Field),
        (before' ++ after').map Field.type = (before ++ after).map Field.type →
        (before' ++ after').map Field.value ≠ (before ++ after).map Field.value →
        encode before' d' after' ≠ .ok bytes := by
  refine ⟨_, encode_eq before d after, decode_eq d (before ++ after), ?_⟩
  intro d' before' after' types differ same
  rw [encode_eq] at same
  have there := decode_eq d' (before' ++ after')
  rw [Except.ok.inj same, types, decode_eq] at there
  exact differ (Prod.mk.inj (Except.ok.inj there)).1.symm

end Pokeage.Sdk
