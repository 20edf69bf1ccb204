import Pokeage.Infra.Borsh

/-!
# The program's interface

`idl/pokeage.json`, and what a program with this interface makes of an instruction: eight bytes tell which
one it is, the accounts go by their position, and the rest of the data are the arguments in declared order.
-/

namespace Pokeage.Idl

open Infra Infra.Borsh

/-! ## Instructions on their way -/

/-- An account of an instruction and the flags it is passed with. -/
structure AccountMeta (PublicKey : Type) where
  pubkey : PublicKey
  isSigner : Bool
  isWritable : Bool
  deriving DecidableEq, Repr

/-- An instruction as a client builds it. -/
structure TransactionInstruction (PublicKey : Type) where
  programId : PublicKey
  keys : List (AccountMeta PublicKey)
  data : Bytes
  deriving DecidableEq, Repr

/-! ## The interface -/

/-- The instructions, in the order of the interface. -/
inductive Name where
  | initializeProgram
  | deployAgent
  | catchAttempt
  | gymChallenge
  | forceEvolve
  | mintCard
  | listCard
  | cancelListing
  | buyCard
  | instantSell
  | updateFloor
  | setInstantSell
  | withdrawTreasury
  | setPause
  deriving DecidableEq, Repr

/-- The names of accounts. -/
inductive AccountName where
  | authority
  | config
  | buybackPool
  | pageMint
  | treasury
  | buybackVault
  | tokenProgram
  | associatedTokenProgram
  | systemProgram
  | player
  | playerState
  | playerToken
  | poolToken
  | payer
  | cardMint
  | cardMeta
  | seller
  | listing
  | sellerCard
  | escrowCard
  | vaultCard
  | buyer
  | buyerCard
  deriving DecidableEq, Repr

/-- The names of arguments. -/
inductive ArgName where
  | burnBps
  | poolBps
  | marketFeeBps
  | listingFee
  | rarity
  | badgeIndex
  | tier
  | stage
  | level
  | price
  | floorPrice
  | enabled
  | amount
  | flags
  deriving DecidableEq, Repr

/-- The types of arguments. -/
inductive ArgType where
  | u8
  | u16
  | u64
  | bool
  deriving DecidableEq, Repr

/-- A flag that is left out is false. -/
structure AccountItem where
  name : AccountName
  writable : Bool := false
  signer : Bool := false
  deriving DecidableEq, Repr

/-- An instruction as the interface declares it. -/
structure Instruction where
  name : Name
  discriminator : Bytes
  accounts : List AccountItem
  args : List (ArgName × ArgType)
  deriving DecidableEq, Repr

/-- `initialize`. -/
def initializeProgram : Instruction where
  name := .initializeProgram
  discriminator := [175, 175, 109, 31, 13, 152, 155, 237]
  accounts := [
    { name := .authority, writable := true, signer := true },
    { name := .config, writable := true },
    { name := .buybackPool, writable := true },
    { name := .pageMint },
    { name := .treasury },
    { name := .buybackVault },
    { name := .tokenProgram },
    { name := .systemProgram }]
  args := [(.burnBps, .u16), (.poolBps, .u16), (.marketFeeBps, .u16), (.listingFee, .u64)]

/-- `deploy_agent`. -/
def deployAgent : Instruction where
  name := .deployAgent
  discriminator := [9, 156, 79, 250, 195, 217, 86, 211]
  accounts := [
    { name := .player, writable := true, signer := true },
    { name := .playerState, writable := true },
    { name := .config, writable := true },
    { name := .pageMint },
    { name := .playerToken, writable := true },
    { name := .poolToken, writable := true },
    { name := .tokenProgram },
    { name := .systemProgram }]
  args := []

/-- The accounts of the three sinks that find the player's record already there. -/
def sinkAccounts : List AccountItem := [
  { name := .player, writable := true, signer := true },
  { name := .playerState, writable := true },
  { name := .config, writable := true },
  { name := .pageMint },
  { name := .playerToken, writable := true },
  { name := .poolToken, writable := true },
  { name := .tokenProgram }]

/-- `catch_attempt`. -/
def catchAttempt : Instruction where
  name := .catchAttempt
  discriminator := [121, 64, 130, 220, 71, 71, 56, 109]
  accounts := sinkAccounts
  args := [(.rarity, .u8)]

/-- `gym_challenge`. -/
def gymChallenge : Instruction where
  name := .gymChallenge
  discriminator := [56, 17, 91, 174, 213, 80, 240, 144]
  accounts := sinkAccounts
  args := [(.badgeIndex, .u8)]

/-- `force_evolve`. -/
def forceEvolve : Instruction where
  name := .forceEvolve
  discriminator := [200, 49, 12, 119, 71, 178, 99, 30]
  accounts := sinkAccounts
  args := []

/-- `mint_card`. -/
def mintCard : Instruction where
  name := .mintCard
  discriminator := [13, 184, 158, 248, 240, 165, 152, 90]
  accounts := [
    { name := .payer, writable := true, signer := true },
    { name := .config, writable := true },
    { name := .buybackPool, writable := true },
    { name := .cardMint },
    { name := .cardMeta, writable := true },
    { name := .buybackVault, writable := true },
    { name := .treasury, writable := true },
    { name := .systemProgram }]
  args := [(.tier, .u8), (.stage, .u8), (.level, .u8)]

/-- `list_card`. -/
def listCard : Instruction where
  name := .listCard
  discriminator := [173, 156, 220, 119, 167, 200, 1, 71]
  accounts := [
    { name := .seller, writable := true, signer := true },
    { name := .config },
    { name := .buybackPool, writable := true },
    { name := .cardMint },
    { name := .listing, writable := true },
    { name := .sellerCard, writable := true },
    { name := .escrowCard, writable := true },
    { name := .buybackVault, writable := true },
    { name := .tokenProgram },
    { name := .associatedTokenProgram },
    { name := .systemProgram }]
  args := [(.price, .u64), (.tier, .u8), (.level, .u8), (.stage, .u8)]

/-- `cancel_listing`. -/
def cancelListing : Instruction where
  name := .cancelListing
  discriminator := [41, 183, 50, 232, 230, 233, 157, 70]
  accounts := [
    { name := .seller, writable := true, signer := true },
    { name := .listing, writable := true },
    { name := .cardMint },
    { name := .sellerCard, writable := true },
    { name := .escrowCard, writable := true },
    { name := .tokenProgram }]
  args := []

/-- `buy_card`. -/
def buyCard : Instruction where
  name := .buyCard
  discriminator := [44, 33, 96, 173, 60, 217, 47, 137]
  accounts := [
    { name := .buyer, writable := true, signer := true },
    { name := .config },
    { name := .buybackPool, writable := true },
    { name := .listing, writable := true },
    { name := .seller, writable := true },
    { name := .cardMint },
    { name := .buyerCard, writable := true },
    { name := .escrowCard, writable := true },
    { name := .buybackVault, writable := true },
    { name := .treasury, writable := true },
    { name := .tokenProgram },
    { name := .associatedTokenProgram },
    { name := .systemProgram }]
  args := []

/-- `instant_sell`. -/
def instantSell : Instruction where
  name := .instantSell
  discriminator := [16, 50, 88, 35, 5, 219, 211, 191]
  accounts := [
    { name := .seller, writable := true, signer := true },
    { name := .config },
    { name := .buybackPool, writable := true },
    { name := .cardMint },
    { name := .sellerCard, writable := true },
    { name := .vaultCard, writable := true },
    { name := .buybackVault, writable := true },
    { name := .tokenProgram },
    { name := .associatedTokenProgram },
    { name := .systemProgram }]
  args := []

/-- `update_floor`. -/
def updateFloor : Instruction where
  name := .updateFloor
  discriminator := [132, 113, 102, 67, 191, 67, 220, 9]
  accounts := [
    { name := .authority, signer := true },
    { name := .config },
    { name := .buybackPool, writable := true }]
  args := [(.floorPrice, .u64)]

/-- `set_instant_sell`. -/
def setInstantSell : Instruction where
  name := .setInstantSell
  discriminator := [101, 44, 33, 122, 17, 88, 9, 240]
  accounts := [
    { name := .authority, signer := true },
    { name := .config },
    { name := .buybackPool, writable := true }]
  args := [(.enabled, .bool)]

/-- `withdraw_treasury`. -/
def withdrawTreasury : Instruction where
  name := .withdrawTreasury
  discriminator := [40, 63, 122, 158, 144, 216, 83, 96]
  accounts := [
    { name := .authority, writable := true, signer := true },
    { name := .config },
    { name := .treasury, writable := true }]
  args := [(.amount, .u64)]

/-- `set_pause`. -/
def setPause : Instruction where
  name := .setPause
  discriminator := [171, 96, 218, 121, 4, 96, 73, 144]
  accounts := [
    { name := .authority, signer := true },
    { name := .config, writable := true }]
  args := [(.flags, .u8)]

/-- All instructions of the interface. -/
def instructions : List Instruction :=
  [initializeProgram, deployAgent, catchAttempt, gymChallenge, forceEvolve, mintCard, listCard,
    cancelListing, buyCard, instantSell, updateFloor, setInstantSell, withdrawTreasury, setPause]

/-! ## Arguments -/

/-- The value of an argument. -/
inductive Value where
  | u8 (x : UInt8)
  | u16 (x : UInt16)
  | u64 (x : UInt64)
  | bool (x : Bool)
  deriving DecidableEq, Repr

/-- The type of a value. -/
def Value.type : Value → ArgType
  | .u8 _ => .u8
  | .u16 _ => .u16
  | .u64 _ => .u64
  | .bool _ => .bool

/-- The bytes of a value. -/
def Value.put : Value → Bytes
  | .u8 x => putU8 x
  | .u16 x => putU16 x
  | .u64 x => putU64 x
  | .bool x => putBool x

/-- Read a value of a type. -/
def ArgType.get : ArgType → Parser BorshError Value
  | .u8 => do return .u8 (← getU8)
  | .u16 => do return .u16 (← getU16)
  | .u64 => do return .u64 (← getU64)
  | .bool => do return .bool (← getBool)

/-- Arguments by name. -/
abbrev Args := List (ArgName × Value)

/-- Which arguments they are. -/
def Args.types (args : Args) : List (ArgName × ArgType) := args.map fun a => (a.1, a.2.type)

/-- The bytes of arguments, one after the other. -/
def Args.put (args : Args) : Bytes := args.flatMap fun a => a.2.put

/-- Read the arguments of a declaration in its order. -/
def getArgs : List (ArgName × ArgType) → Parser BorshError Args
  | [] => return []
  | (name, type) :: rest => do
    let value ← type.get
    let values ← getArgs rest
    return (name, value) :: values

theorem parses_value (value : Value) : Parses value.type.get value.put value := by
  cases value with
  | u8 x => exact (parses_getU8 x).map Value.u8
  | u16 x => exact (parses_getU16 x).map Value.u16
  | u64 x => exact (parses_getU64 x).map Value.u64
  | bool x => exact (parses_getBool x).map Value.bool

/-- Arguments written in declared order are read back. -/
theorem parses_args (args : Args) : Parses (getArgs args.types) args.put args := by
  induction args with
  | nil => exact Parses.pure []
  | cons arg args ih =>
    obtain ⟨name, value⟩ := arg
    exact (parses_value value).bind (ih.map ((name, value) :: ·))

/-! ## Decoding -/

/-- Why the program refuses an instruction before any handler. -/
inductive DecodeError where
  | instructionFallbackNotFound
  | instructionDidNotDeserialize (e : BorshError)
  | accountNotEnoughKeys
  | accountNotSigner (account : AccountName)
  | constraintMut (account : AccountName)
  deriving DecidableEq, Repr

/-- What an instruction says: which it is, with which arguments, and on which accounts. -/
structure Decoded (PublicKey : Type) where
  name : Name
  args : Args
  accounts : List (AccountName × PublicKey)
  deriving DecidableEq, Repr

variable {PublicKey : Type}

/-- Give the accounts their names, one by one; those behind the last name are left. -/
def bindAccounts : List AccountItem → List (AccountMeta PublicKey) →
    Except DecodeError (List (AccountName × PublicKey))
  | [], _ => .ok []
  | _ :: _, [] => .error .accountNotEnoughKeys
  | item :: items, key :: keys => do
    if item.signer ∧ ¬key.isSigner then throw (.accountNotSigner item.name)
    if item.writable ∧ ¬key.isWritable then throw (.constraintMut item.name)
    return (item.name, key.pubkey) :: (← bindAccounts items keys)

/-- Bytes that tell which instruction it is. -/
def discriminatorLen : ℕ := 8

/-- The instruction that the first bytes of the data name. -/
def lookup (data : Bytes) : Option Instruction :=
  instructions.find? fun i => i.discriminator = data.take discriminatorLen

/-- What the program makes of an instruction: its name, its arguments and its accounts. -/
def decode (ix : TransactionInstruction PublicKey) : Except DecodeError (Decoded PublicKey) :=
  match lookup ix.data with
  | none => .error .instructionFallbackNotFound
  | some i =>
    match getArgs i.args (ix.data.drop discriminatorLen) with
    | .error e => .error (.instructionDidNotDeserialize e)
    | .ok (args, _) => do
      let accounts ← bindAccounts i.accounts ix.keys
      return { name := i.name, args := args, accounts := accounts }

/-- The account has the flags that its place asks for. -/
structure Serves (item : AccountItem) (key : AccountMeta PublicKey) : Prop where
  signer : item.signer = true → key.isSigner = true
  writable : item.writable = true → key.isWritable = true

theorem bindAccounts_ok {items : List AccountItem} {keys : List (AccountMeta PublicKey)}
    (h : List.Forall₂ Serves items keys) (rest : List (AccountMeta PublicKey)) :
    bindAccounts items (keys ++ rest) =
      .ok (List.zipWith (fun item key => (item.name, key.pubkey)) items keys) := by
  induction h with
  | nil => rfl
  | @cons item key items keys serves _ ih =>
    have signs : ¬(item.signer = true ∧ ¬key.isSigner = true) := fun h => h.2 (serves.signer h.1)
    have writes : ¬(item.writable = true ∧ ¬key.isWritable = true) :=
      fun h => h.2 (serves.writable h.1)
    rw [List.cons_append]
    unfold bindAccounts
    rw [if_neg signs, if_neg writes, ih]
    rfl

/-- No two instructions share a discriminator. -/
theorem lookup_discriminator {i : Instruction} (h : i ∈ instructions) (payload : Bytes) :
    lookup (i.discriminator ++ payload) = some i ∧ i.discriminator.length = discriminatorLen := by
  simp only [instructions, List.mem_cons, List.not_mem_nil, or_false] at h
  rcases h with rfl | rfl | rfl | rfl | rfl | rfl | rfl | rfl | rfl | rfl | rfl | rfl | rfl | rfl <;>
    exact ⟨rfl, rfl⟩

/-- What is encoded as the interface asks decodes to what was meant. -/
theorem decode_ok {i : Instruction} (h : i ∈ instructions) {args : Args} (types : args.types = i.args)
    {keys : List (AccountMeta PublicKey)} (serves : List.Forall₂ Serves i.accounts keys)
    (programId : PublicKey) (rest : List (AccountMeta PublicKey)) :
    decode ⟨programId, keys ++ rest, i.discriminator ++ args.put⟩ =
      .ok ⟨i.name, args, List.zipWith (fun item key => (item.name, key.pubkey)) i.accounts keys⟩ := by
  obtain ⟨found, length⟩ := lookup_discriminator h args.put
  have parsed := parses_args args []
  rw [List.append_nil, types] at parsed
  unfold decode
  dsimp only
  rw [found, ← length, List.drop_left]
  dsimp only
  rw [parsed]
  dsimp only
  rw [bindAccounts_ok serves]
  rfl

example : decode (⟨0, [⟨1, true, true⟩, ⟨2, false, false⟩, ⟨3, false, true⟩],
    withdrawTreasury.discriminator ++ putU64 5⟩ : TransactionInstruction ℕ) =
      .ok ⟨.withdrawTreasury, [(.amount, .u64 5)], [(.authority, 1), (.config, 2), (.treasury, 3)]⟩ :=
  rfl

/-- In every instruction the first account signs. -/
theorem first_signs {i : Instruction} (h : i ∈ instructions) :
    ∃ item items, i.accounts = item :: items ∧ item.signer = true := by
  simp only [instructions, List.mem_cons, List.not_mem_nil, or_false] at h
  rcases h with rfl | rfl | rfl | rfl | rfl | rfl | rfl | rfl | rfl | rfl | rfl | rfl | rfl | rfl <;>
    exact ⟨_, _, rfl, rfl⟩

/-- So what decodes has a signer in front. -/
theorem decode_first {ix : TransactionInstruction PublicKey} {d : Decoded PublicKey}
    (h : decode ix = .ok d) : ∃ key keys, ix.keys = key :: keys ∧ key.isSigner = true := by
  unfold decode at h
  split at h
  · cases h
  next i found =>
  split at h
  · cases h
  next args _ _ =>
  obtain ⟨item, items, accounts, signer⟩ := first_signs (List.mem_of_find?_eq_some found)
  obtain ⟨bound, first, -⟩ := bind_eq_ok.1 h
  rw [accounts] at first
  cases keys : ix.keys with
  | nil =>
    rw [keys] at first
    cases first
  | cons key rest =>
    refine ⟨key, rest, rfl, ?_⟩
    by_contra unsigned
    rw [keys] at first
    unfold bindAccounts at first
    rw [if_pos ⟨signer, unsigned⟩] at first
    cases first

end Pokeage.Idl
