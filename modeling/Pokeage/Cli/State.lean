import Pokeage.Infra.Borsh

/-!
# The command line client's accounts

`state.rs`, and `decode_account` of `rpc.rs`. The records are the client's own copies; what they derive
reads their fields in declared order.
-/

namespace Pokeage.Cli

open Infra Infra.Borsh

/-! ## Records -/

/-- The 32 bytes of a key. -/
abbrev RawKey := Fixed 32

/-- The global config, field by field as the program has it. -/
structure Config where
  authority : RawKey
  pageMint : RawKey
  treasury : RawKey
  buybackVault : RawKey
  burnBps : UInt16
  poolBps : UInt16
  marketFeeBps : UInt16
  instantSellBps : UInt16
  listingFee : UInt64
  totalBurned : UInt64
  totalCardsMinted : UInt64
  paused : UInt8
  bump : UInt8
  deriving DecidableEq, Repr

/-- A player's progress. -/
structure PlayerState where
  owner : RawKey
  agentDeployed : Bool
  totalCaught : UInt64
  gymWins : UInt32
  badges : UInt16
  lastAction : Int64
  bump : UInt8
  deriving DecidableEq

/-- The buyback pool. -/
structure BuybackPool where
  totalLamports : UInt64
  lifetimeIn : UInt64
  lifetimeOut : UInt64
  floorPrice : UInt64
  instantSellEnabled : Bool
  bump : UInt8
  deriving DecidableEq, Repr

/-- A listing of the secondary market. -/
structure Listing where
  seller : RawKey
  cardMint : RawKey
  price : UInt64
  tier : UInt8
  level : UInt8
  stage : UInt8
  createdAt : Int64
  active : Bool
  bump : UInt8
  deriving DecidableEq

/-! ## Views -/

namespace PlayerState

/-- `BADGE_COUNT`: badges that can be won. -/
def badgeTotal : UInt8 := 12

/-- Whether badge `i` is owned. An out-of-range index reads as false. -/
def hasBadge (p : PlayerState) (i : UInt8) : Bool :=
  if badgeTotal ≤ i then false else p.badges &&& (1 <<< i.toUInt16) != 0

/-- `count_ones` of a `u16`. -/
def countOnes (x : UInt16) : ℕ := ((List.range 16).filter x.toNat.testBit).length

/-- The number of owned badges across the 12-bit mask. -/
def badgeCount (p : PlayerState) : ℕ := countOnes (p.badges &&& 0x0FFF)

end PlayerState

/-! ## Deserializers -/

/-- The derived reader of a config. -/
def Config.deserialize : Parser BorshError Config := do
  let authority ← fixed 32
  let pageMint ← fixed 32
  let treasury ← fixed 32
  let buybackVault ← fixed 32
  let burnBps ← getU16
  let poolBps ← getU16
  let marketFeeBps ← getU16
  let instantSellBps ← getU16
  let listingFee ← getU64
  let totalBurned ← getU64
  let totalCardsMinted ← getU64
  let paused ← getU8
  let bump ← getU8
  return ⟨authority, pageMint, treasury, buybackVault, burnBps, poolBps, marketFeeBps,
    instantSellBps, listingFee, totalBurned, totalCardsMinted, paused, bump⟩

/-- The derived reader of a player's progress. -/
def PlayerState.deserialize : Parser BorshError PlayerState := do
  let owner ← fixed 32
  let agentDeployed ← getBool
  let totalCaught ← getU64
  let gymWins ← getU32
  let badges ← getU16
  let lastAction ← getI64
  let bump ← getU8
  return ⟨owner, agentDeployed, totalCaught, gymWins, badges, lastAction, bump⟩

/-- The derived reader of the pool. -/
def BuybackPool.deserialize : Parser BorshError BuybackPool := do
  let totalLamports ← getU64
  let lifetimeIn ← getU64
  let lifetimeOut ← getU64
  let floorPrice ← getU64
  let instantSellEnabled ← getBool
  let bump ← getU8
  return ⟨totalLamports, lifetimeIn, lifetimeOut, floorPrice, instantSellEnabled, bump⟩

/-- The derived reader of a listing. -/
def Listing.deserialize : Parser BorshError Listing := do
  let seller ← fixed 32
  let cardMint ← fixed 32
  let price ← getU64
  let tier ← getU8
  let level ← getU8
  let stage ← getU8
  let createdAt ← getI64
  let active ← getBool
  let bump ← getU8
  return ⟨seller, cardMint, price, tier, level, stage, createdAt, active, bump⟩

/-! ## Accounts -/

/-- `DISCRIMINATOR_LEN`. -/
def discriminatorLen : ℕ := 8

/-- The errors of decoding, the second with the one it wraps. -/
inductive CliError where
  | shortData (have_ need : ℕ)
  | decode (e : BorshError)
  deriving DecidableEq, Repr

/-- Drop the discriminator and read the body, all of it. -/
def decodeAccount {α : Type} (deserialize : Parser BorshError α) (data : Bytes) :
    Except CliError α :=
  if data.length < discriminatorLen then .error (.shortData data.length discriminatorLen)
  else
    match tryFromSlice deserialize (data.drop discriminatorLen) with
    | .ok account => .ok account
    | .error e => .error (.decode e)

section

variable {α : Type} {deserialize : Parser BorshError α} {disc body : Bytes} {account : α} {n : ℕ}

/-- Behind a discriminator, a body decodes to what its parser reads from it. -/
theorem decodeAccount_of_parses (h : Parses deserialize body account)
    (length : disc.length = discriminatorLen) :
    decodeAccount deserialize (disc ++ body) = .ok account := by
  have rest : (disc ++ body).drop discriminatorLen = body := by rw [← length, List.drop_left]
  unfold decodeAccount
  rw [if_neg (by simp [length]), rest]
  unfold tryFromSlice
  rw [h.whole]

/-- Only data of one length decodes. -/
theorem decodeAccount_of_length_ne (h : Consumes deserialize n) {data : Bytes}
    (length : data.length ≠ discriminatorLen + n) : ∃ e, decodeAccount deserialize data = .error e := by
  unfold decodeAccount
  split
  · exact ⟨_, rfl⟩
  · next long =>
    have other : (data.drop discriminatorLen).length ≠ n := by
      rw [List.length_drop]
      omega
    obtain ⟨e, failed⟩ := h.not_whole .notAllRead other
    unfold tryFromSlice
    rw [failed]
    exact ⟨.decode e, rfl⟩

end

/-! ## Widths -/

/-- A config takes 162 bytes, whatever they are. -/
theorem Config.consumes : Consumes Config.deserialize 162 :=
  (consumes_fixed 32).bind fun _ => (consumes_fixed 32).bind fun _ => (consumes_fixed 32).bind
    fun _ => (consumes_fixed 32).bind fun _ => consumes_getU16.bind fun _ => consumes_getU16.bind
    fun _ => consumes_getU16.bind fun _ => consumes_getU16.bind fun _ => consumes_getU64.bind
    fun _ => consumes_getU64.bind fun _ => consumes_getU64.bind fun _ => consumes_getU8.bind
    fun _ => consumes_getU8.map _

/-- A player's progress takes 56 bytes. -/
theorem PlayerState.consumes : Consumes PlayerState.deserialize 56 :=
  (consumes_fixed 32).bind fun _ => consumes_getBool.bind fun _ => consumes_getU64.bind
    fun _ => consumes_getU32.bind fun _ => consumes_getU16.bind fun _ => consumes_getI64.bind
    fun _ => consumes_getU8.map _

/-- The pool takes 34 bytes. -/
theorem BuybackPool.consumes : Consumes BuybackPool.deserialize 34 :=
  consumes_getU64.bind fun _ => consumes_getU64.bind fun _ => consumes_getU64.bind
    fun _ => consumes_getU64.bind fun _ => consumes_getBool.bind fun _ => consumes_getU8.map _

/-- A listing takes 85 bytes. -/
theorem Listing.consumes : Consumes Listing.deserialize 85 :=
  (consumes_fixed 32).bind fun _ => (consumes_fixed 32).bind fun _ => consumes_getU64.bind
    fun _ => consumes_getU8.bind fun _ => consumes_getU8.bind fun _ => consumes_getU8.bind
    fun _ => consumes_getI64.bind fun _ => consumes_getBool.bind fun _ => consumes_getU8.map _

end Pokeage.Cli
