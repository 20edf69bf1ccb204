import Pokeage.Sdk.Borsh

/-!
# The SDK's accounts

`types.ts`, and the decoders of `accounts.ts`. A decoder skips the discriminator and reads the fields in
declared order; it does not look at what follows them.
-/

namespace Pokeage.Sdk

open Infra

variable {PublicKey : Type}

/-! ## Shapes -/

/-- The global config, as the SDK hands it on: counts of 64 bits as bigints, the rest as numbers. -/
structure ConfigAccount (PublicKey : Type) where
  authority : PublicKey
  pageMint : PublicKey
  treasury : PublicKey
  buybackVault : PublicKey
  burnBps : ℕ
  poolBps : ℕ
  marketFeeBps : ℕ
  instantSellBps : ℕ
  listingFee : ℤ
  totalBurned : ℤ
  totalCardsMinted : ℤ
  paused : ℕ
  bump : ℕ
  deriving DecidableEq, Repr

/-- A player's progress. -/
structure PlayerAccount (PublicKey : Type) where
  owner : PublicKey
  agentDeployed : Bool
  totalCaught : ℤ
  gymWins : ℕ
  badges : ℕ
  lastAction : ℤ
  bump : ℕ
  deriving DecidableEq, Repr

/-- The buyback pool. -/
structure PoolAccount where
  totalLamports : ℤ
  lifetimeIn : ℤ
  lifetimeOut : ℤ
  floorPrice : ℤ
  instantSellEnabled : Bool
  bump : ℕ
  deriving DecidableEq, Repr

/-- A listing of the secondary market. -/
structure ListingAccount (PublicKey : Type) where
  seller : PublicKey
  cardMint : PublicKey
  price : ℤ
  tier : ℕ
  level : ℕ
  stage : ℕ
  createdAt : ℤ
  active : Bool
  bump : ℕ
  deriving DecidableEq, Repr

/-! ## Decoders -/

/-- The eight bytes of the discriminator, which no decoder looks at. -/
def discLen : ℕ := 8

/-- `new PublicKey(r.pubkey())`. -/
def publicKey (web3 : Web3 PublicKey) : Reader JsError PublicKey := do
  let bytes ← BorshReader.pubkey
  web3.ofBytes bytes

/-- Run a reader from the start of a buffer. -/
def run {α : Type} (reader : Reader JsError α) (buf : Bytes) : Except JsError α :=
  match reader ⟨buf, 0⟩ with
  | .ok (a, _) => .ok a
  | .error e => .error e

open BorshReader in
/-- The reads of `decodeConfig`, in the order of its fields. -/
def configReader (web3 : Web3 PublicKey) : Reader JsError (ConfigAccount PublicKey) := do
  skip discLen
  let authority ← publicKey web3
  let pageMint ← publicKey web3
  let treasury ← publicKey web3
  let buybackVault ← publicKey web3
  let burnBps ← u16
  let poolBps ← u16
  let marketFeeBps ← u16
  let instantSellBps ← u16
  let listingFee ← u64
  let totalBurned ← u64
  let totalCardsMinted ← u64
  let paused ← u8
  let bump ← u8
  return ⟨authority, pageMint, treasury, buybackVault, burnBps, poolBps, marketFeeBps,
    instantSellBps, listingFee, totalBurned, totalCardsMinted, paused, bump⟩

open BorshReader in
/-- The reads of `decodePlayer`. -/
def playerReader (web3 : Web3 PublicKey) : Reader JsError (PlayerAccount PublicKey) := do
  skip discLen
  let owner ← publicKey web3
  let agentDeployed ← bool
  let totalCaught ← u64
  let gymWins ← u32
  let badges ← u16
  let lastAction ← i64
  let bump ← u8
  return ⟨owner, agentDeployed, totalCaught, gymWins, badges, lastAction, bump⟩

open BorshReader in
/-- The reads of `decodePool`, the only account without a key. -/
def poolReader : Reader JsError PoolAccount := do
  skip discLen
  let totalLamports ← u64
  let lifetimeIn ← u64
  let lifetimeOut ← u64
  let floorPrice ← u64
  let instantSellEnabled ← bool
  let bump ← u8
  return ⟨totalLamports, lifetimeIn, lifetimeOut, floorPrice, instantSellEnabled, bump⟩

open BorshReader in
/-- The reads of `decodeListing`. -/
def listingReader (web3 : Web3 PublicKey) : Reader JsError (ListingAccount PublicKey) := do
  skip discLen
  let seller ← publicKey web3
  let cardMint ← publicKey web3
  let price ← u64
  let tier ← u8
  let level ← u8
  let stage ← u8
  let createdAt ← i64
  let active ← bool
  let bump ← u8
  return ⟨seller, cardMint, price, tier, level, stage, createdAt, active, bump⟩

/-- A config from the data of its account. -/
def decodeConfig (web3 : Web3 PublicKey) : Bytes → Except JsError (ConfigAccount PublicKey) :=
  run (configReader web3)

/-- A player from the data of its account. -/
def decodePlayer (web3 : Web3 PublicKey) : Bytes → Except JsError (PlayerAccount PublicKey) :=
  run (playerReader web3)

/-- The pool from the data of its account. -/
def decodePool : Bytes → Except JsError PoolAccount := run poolReader

/-- A listing from the data of its account. -/
def decodeListing (web3 : Web3 PublicKey) : Bytes → Except JsError (ListingAccount PublicKey) :=
  run (listingReader web3)

/-! ## Keys and runs -/

section

variable (web3 : Web3 PublicKey)

/-- Thirty-two bytes are read as a key that has them. -/
theorem reads_publicKey (key : Fixed 32) :
    ∃ k, Reads (publicKey web3) key.bytes k ∧ web3.toBytes k = key.bytes := by
  obtain ⟨k, made, same⟩ := web3.ofBytes_eq key
  refine ⟨k, ?_, same⟩
  intro c rest front
  have read := BorshReader.reads_pubkey key c rest front
  show (BorshReader.pubkey c >>= fun s => (web3.ofBytes s.1 >>= fun k => .ok (k, s.2))) = _
  rw [read, ok_bind, made, ok_bind]

theorem advances_publicKey : Advances (publicKey web3) 32 := by
  intro c k c' h
  have h : (BorshReader.pubkey c >>= fun s => (web3.ofBytes s.1 >>= fun k => .ok (k, s.2))) =
      .ok (k, c') := h
  obtain ⟨⟨bytes, middle⟩, first, second⟩ := bind_eq_ok.1 h
  obtain ⟨made, -, last⟩ := bind_eq_ok.1 second
  rw [← (Prod.mk.inj (Except.ok.inj last)).2]
  exact BorshReader.advances_pubkey _ _ _ first

end

section

variable {α : Type} {reader : Reader JsError α} {bytes : Bytes} {a : α} {n : ℕ}

/-- What a reader returns on a text it returns on a buffer with nothing else in it. -/
theorem run_of_reads (h : Reads reader bytes a) : run reader bytes = .ok a := by
  unfold run
  rw [h ⟨bytes, 0⟩ [] (List.append_nil bytes).symm]

/-- A buffer that is too short is refused. -/
theorem run_of_needs (h : Needs reader n) (short : bytes.length < n) :
    ∃ e, run reader bytes = .error e := by
  obtain ⟨e, failed⟩ := h.not_read (c := ⟨bytes, 0⟩) (by simpa using short)
  refine ⟨e, ?_⟩
  unfold run
  rw [failed]

end

end Pokeage.Sdk
