import Pokeage.Sdk.Instructions

/-!
# What an instruction of the SDK says to the program

A `Call` is a builder with its arguments, each in the range that the program's interface declares for it.
`Call.Means` is what its instruction should say once the program has decoded it.

The arguments come through (`parses_build`). The accounts never do: a builder puts the config first, which
signs nothing, while the interface has the signer there.
-/

namespace Pokeage.Sdk

open Infra Infra.Borsh BorshWriter
open Idl (AccountName Args Decoded TransactionInstruction Value)

variable {PublicKey : Type}

/-! ## Calls -/

/-- A call of one of the SDK's builders with arguments in range. -/
inductive Call (PublicKey : Type) where
  | initializeProgram (authority pageMint treasury buybackVault : PublicKey)
      (burnBps poolBps marketFeeBps : UInt16) (listingFee : UInt64)
  | deployAgent (a : SinkAccounts PublicKey)
  | catchAttempt (a : SinkAccounts PublicKey) (rarity : UInt8)
  | gymChallenge (a : SinkAccounts PublicKey) (badgeIndex : UInt8)
  | forceEvolve (a : SinkAccounts PublicKey)
  | updateFloor (authority : PublicKey) (floorPrice : UInt64)
  | setInstantSell (authority : PublicKey) (enabled : Bool)
  | setPause (authority : PublicKey) (flags : UInt8)
  | withdrawTreasury (authority treasury : PublicKey) (amount : UInt64)
  | listCard (seller cardMint : PublicKey) (price : UInt64) (tier level stage : UInt8)
      (sellerCardAta escrowAta : PublicKey)
  | buyCard (params : BuyParams PublicKey)
  | instantSell (params : SellParams PublicKey)

namespace Call

variable (web3 : Web3 PublicKey)

/-- The instruction that the call's builder returns. -/
def build : Call PublicKey → Except JsError (TransactionInstruction PublicKey)
  | .initializeProgram authority pageMint treasury buybackVault burnBps poolBps marketFeeBps
      listingFee =>
    Sdk.initializeProgram web3 {
      authority := authority, pageMint := pageMint, treasury := treasury,
      buybackVault := buybackVault, burnBps := burnBps.toNat, poolBps := poolBps.toNat,
      marketFeeBps := marketFeeBps.toNat, listingFee := listingFee.toNat }
  | .deployAgent a => .ok (Sdk.deployAgent web3 a)
  | .catchAttempt a rarity => .ok (Sdk.catchAttempt web3 a rarity.toNat)
  | .gymChallenge a badgeIndex => .ok (Sdk.gymChallenge web3 a badgeIndex.toNat)
  | .forceEvolve a => .ok (Sdk.forceEvolve web3 a)
  | .updateFloor authority floorPrice => Sdk.updateFloor web3 authority floorPrice.toNat
  | .setInstantSell authority enabled => .ok (Sdk.setInstantSell web3 authority enabled)
  | .setPause authority flags => .ok (Sdk.setPause web3 authority flags.toNat)
  | .withdrawTreasury authority treasury amount =>
    Sdk.withdrawTreasury web3 {
      authority := authority, treasury := treasury, amount := amount.toNat }
  | .listCard seller cardMint price tier level stage sellerCardAta escrowAta =>
    Sdk.listCard web3 {
      seller := seller, cardMint := cardMint, price := price.toNat, tier := tier.toNat,
      level := level.toNat, stage := stage.toNat, sellerCardAta := sellerCardAta,
      escrowAta := escrowAta }
  | .buyCard params => .ok (Sdk.buyCard web3 params)
  | .instantSell params => .ok (Sdk.instantSell web3 params)

/-- The instruction of the same name. -/
def declared : Call PublicKey → Idl.Instruction
  | .initializeProgram .. => Idl.initializeProgram
  | .deployAgent .. => Idl.deployAgent
  | .catchAttempt .. => Idl.catchAttempt
  | .gymChallenge .. => Idl.gymChallenge
  | .forceEvolve .. => Idl.forceEvolve
  | .updateFloor .. => Idl.updateFloor
  | .setInstantSell .. => Idl.setInstantSell
  | .setPause .. => Idl.setPause
  | .withdrawTreasury .. => Idl.withdrawTreasury
  | .listCard .. => Idl.listCard
  | .buyCard .. => Idl.buyCard
  | .instantSell .. => Idl.instantSell

/-- The discriminator that the SDK has for it. -/
def disc : Call PublicKey → Bytes
  | .initializeProgram .. => IxDisc.initializeProgram
  | .deployAgent .. => IxDisc.deployAgent
  | .catchAttempt .. => IxDisc.catchAttempt
  | .gymChallenge .. => IxDisc.gymChallenge
  | .forceEvolve .. => IxDisc.forceEvolve
  | .updateFloor .. => IxDisc.updateFloor
  | .setInstantSell .. => IxDisc.setInstantSell
  | .setPause .. => IxDisc.setPause
  | .withdrawTreasury .. => IxDisc.withdrawTreasury
  | .listCard .. => IxDisc.listCard
  | .buyCard .. => IxDisc.buyCard
  | .instantSell .. => IxDisc.instantSell

/-- The arguments of the call that are not accounts, under the names of the interface. -/
def args : Call PublicKey → Args
  | .initializeProgram _ _ _ _ burnBps poolBps marketFeeBps listingFee =>
    [(.burnBps, .u16 burnBps), (.poolBps, .u16 poolBps), (.marketFeeBps, .u16 marketFeeBps),
      (.listingFee, .u64 listingFee)]
  | .catchAttempt _ rarity => [(.rarity, .u8 rarity)]
  | .gymChallenge _ badgeIndex => [(.badgeIndex, .u8 badgeIndex)]
  | .updateFloor _ floorPrice => [(.floorPrice, .u64 floorPrice)]
  | .setInstantSell _ enabled => [(.enabled, .bool enabled)]
  | .setPause _ flags => [(.flags, .u8 flags)]
  | .withdrawTreasury _ _ amount => [(.amount, .u64 amount)]
  | .listCard _ _ price tier level stage _ _ =>
    [(.price, .u64 price), (.tier, .u8 tier), (.level, .u8 level), (.stage, .u8 stage)]
  | .deployAgent _ | .forceEvolve _ | .buyCard _ | .instantSell _ => []

/-- The accounts that a call knows whatever it is given. -/
def commonKey : AccountName → Option PublicKey
  | .config => some (configPda web3).1
  | .buybackPool => some (poolPda web3).1
  | .tokenProgram => some (token2022ProgramId web3)
  | .systemProgram => some web3.systemProgram
  | _ => none

/-- The accounts that a sink knows. -/
def sinkKey (a : SinkAccounts PublicKey) : AccountName → Option PublicKey
  | .player => some a.authority
  | .playerState => some (playerPda web3 a.authority).1
  | .pageMint => some a.pageMint
  | .playerToken => some a.playerAta
  | .poolToken => some a.poolAta
  | name => commonKey web3 name

/-- The call's account of a name of the interface, if it has one. -/
def key : Call PublicKey → AccountName → Option PublicKey
  | .initializeProgram authority _ _ _ _ _ _ _, .authority => some authority
  | .initializeProgram _ pageMint _ _ _ _ _ _, .pageMint => some pageMint
  | .initializeProgram _ _ treasury _ _ _ _ _, .treasury => some treasury
  | .initializeProgram _ _ _ buybackVault _ _ _ _, .buybackVault => some buybackVault
  | .deployAgent a, name => sinkKey web3 a name
  | .catchAttempt a _, name => sinkKey web3 a name
  | .gymChallenge a _, name => sinkKey web3 a name
  | .forceEvolve a, name => sinkKey web3 a name
  | .updateFloor authority _, .authority => some authority
  | .setInstantSell authority _, .authority => some authority
  | .setPause authority _, .authority => some authority
  | .withdrawTreasury authority _ _, .authority => some authority
  | .withdrawTreasury _ treasury _, .treasury => some treasury
  | .listCard seller _ _ _ _ _ _ _, .seller => some seller
  | .listCard _ cardMint _ _ _ _ _ _, .cardMint => some cardMint
  | .listCard _ cardMint _ _ _ _ _ _, .listing => some (listingPda web3 cardMint).1
  | .listCard _ _ _ _ _ _ sellerCardAta _, .sellerCard => some sellerCardAta
  | .listCard _ _ _ _ _ _ _ escrowAta, .escrowCard => some escrowAta
  | .buyCard params, .buyer => some params.buyer
  | .buyCard params, .seller => some params.seller
  | .buyCard params, .cardMint => some params.cardMint
  | .buyCard params, .listing => some (listingPda web3 params.cardMint).1
  | .buyCard params, .escrowCard => some params.escrowAta
  | .buyCard params, .buyerCard => some params.buyerCardAta
  | .instantSell params, .seller => some params.seller
  | .instantSell params, .cardMint => some params.cardMint
  | .instantSell params, .sellerCard => some params.sellerCardAta
  | .instantSell params, .vaultCard => some params.vaultAta
  | _, name => commonKey web3 name

/-- The decoded instruction is the call: its name, its arguments, and in each place the call's account of
that name. -/
structure Says (call : Call PublicKey) (d : Decoded PublicKey) : Prop where
  name : d.name = call.declared.name
  args : d.args = call.args
  accounts : ∀ name k k', (name, k) ∈ d.accounts → call.key web3 name = some k' → k = k'

/-- Decoding also checks that the signers sign and that what is written may be. -/
def Means (call : Call PublicKey) (ix : TransactionInstruction PublicKey) : Prop :=
  ∃ d, Idl.decode ix = .ok d ∧ call.Says web3 d

/-! ## What is built -/

/-- A withdrawal of an amount in range is built. -/
theorem withdrawTreasury_ok (authority treasury : PublicKey) (amount : UInt64) :
    Sdk.withdrawTreasury web3 ⟨authority, treasury, amount.toNat⟩ =
      .ok (ix web3 (IxDisc.withdrawTreasury ++ putU64 amount) [
        r (configPda web3).1,
        w treasury,
        w authority true,
        r web3.systemProgram]) := by
  simp [Sdk.withdrawTreasury]

/-- Every builder succeeds on arguments in range. It writes its discriminator and then the arguments in
declared order, and the config goes first, without a signature. -/
theorem build_ok (call : Call PublicKey) :
    ∃ ix, call.build web3 = .ok ix ∧ ix.data = call.disc ++ call.args.put ∧
      ∃ isWritable keys, ix.keys = ⟨(configPda web3).1, false, isWritable⟩ :: keys := by
  cases call with
  | initializeProgram authority pageMint treasury buybackVault burnBps poolBps marketFeeBps fee =>
    simp only [build, Sdk.initializeProgram, u16_toNat, u64_toNat, ok_bind]
    exact ⟨_, rfl, by simp [ix, disc, args, Args.put, Value.put], _, _, rfl⟩
  | updateFloor authority floorPrice =>
    simp only [build, Sdk.updateFloor, u64_toNat, ok_bind]
    exact ⟨_, rfl, by simp [ix, disc, args, Args.put, Value.put], _, _, rfl⟩
  | withdrawTreasury authority treasury amount =>
    exact ⟨_, withdrawTreasury_ok web3 authority treasury amount,
      by simp [ix, disc, args, Args.put, Value.put], _, _, rfl⟩
  | listCard seller cardMint price tier level stage sellerCardAta escrowAta =>
    simp only [build, Sdk.listCard, u8_toNat, u64_toNat, ok_bind]
    exact ⟨_, rfl, by simp [ix, disc, args, Args.put, Value.put], _, _, rfl⟩
  | deployAgent a =>
    exact ⟨_, rfl, by simp [Sdk.deployAgent, sinkData, ix, disc, args, Args.put], _, _, rfl⟩
  | catchAttempt a rarity =>
    exact ⟨_, rfl, by simp [Sdk.catchAttempt, sinkData, ix, disc, args, Args.put, Value.put], _, _,
      rfl⟩
  | gymChallenge a badgeIndex =>
    exact ⟨_, rfl, by simp [Sdk.gymChallenge, sinkData, ix, disc, args, Args.put, Value.put], _, _,
      rfl⟩
  | forceEvolve a =>
    exact ⟨_, rfl, by simp [Sdk.forceEvolve, sinkData, ix, disc, args, Args.put], _, _, rfl⟩
  | setInstantSell authority enabled =>
    exact ⟨_, rfl, by simp [Sdk.setInstantSell, ix, disc, args, Args.put, Value.put], _, _, rfl⟩
  | setPause authority flags =>
    exact ⟨_, rfl, by simp [Sdk.setPause, ix, disc, args, Args.put, Value.put], _, _, rfl⟩
  | buyCard params => exact ⟨_, rfl, by simp [Sdk.buyCard, ix, disc, args, Args.put], _, _, rfl⟩
  | instantSell params =>
    exact ⟨_, rfl, by simp [Sdk.instantSell, ix, disc, args, Args.put], _, _, rfl⟩

/-- The arguments are of the declared types. -/
theorem types_args (call : Call PublicKey) : call.args.types = call.declared.args := by
  cases call <;> rfl

/-- The SDK's discriminators are as long as the interface's. -/
theorem length_disc (call : Call PublicKey) : call.disc.length = Idl.discriminatorLen := by
  cases call <;> rfl

/-- The data are the discriminator and the arguments behind it. -/
theorem data_build {call : Call PublicKey} {ix : TransactionInstruction PublicKey}
    (h : call.build web3 = .ok ix) : ix.data = call.disc ++ call.args.put := by
  obtain ⟨ix', built, data, -⟩ := call.build_ok web3
  obtain rfl : ix = ix' := Except.ok.inj (h.symm.trans built)
  exact data

/-- Behind the discriminator are the arguments, as the interface reads them. -/
theorem parses_build {call : Call PublicKey} {ix : TransactionInstruction PublicKey}
    (h : call.build web3 = .ok ix) :
    Idl.getArgs call.declared.args (ix.data.drop Idl.discriminatorLen) = .ok (call.args, []) := by
  have parsed := Idl.parses_args call.args []
  rw [List.append_nil, call.types_args] at parsed
  rw [data_build web3 h, ← call.length_disc, List.drop_left]
  exact parsed

/-- The interface knows the discriminators of two builders. -/
theorem lookup_build {call : Call PublicKey} {ix : TransactionInstruction PublicKey}
    (h : call.build web3 = .ok ix) :
    Idl.lookup ix.data =
      if call.declared = Idl.initializeProgram ∨ call.declared = Idl.withdrawTreasury
      then some call.declared else none := by
  unfold Idl.lookup
  rw [data_build web3 h, ← call.length_disc, List.take_left]
  cases call <;> rfl

/-- No instruction of the SDK says what it should. -/
theorem not_means (call : Call PublicKey) :
    ∃ ix, call.build web3 = .ok ix ∧ ¬call.Means web3 ix := by
  obtain ⟨ix, built, -, isWritable, keys, front⟩ := call.build_ok web3
  refine ⟨ix, built, ?_⟩
  rintro ⟨d, decoded, -⟩
  obtain ⟨key, keys', first, signer⟩ := Idl.decode_first decoded
  rw [front] at first
  obtain ⟨rfl, rfl⟩ := List.cons.inj first
  cases signer

end Call

/-- The keys of `web3.js`, with the one address that the program derives from the config's seed. -/
def sampleWeb3 : Web3 (Fixed 32) where
  ofBytes := keyOfBytes
  ofBase58 := keyOfBase58
  toBytes := Fixed.bytes
  findProgramAddressSync seeds _ :=
    if seeds = [Seeds.config] then
      (keyOfBase58 "4rLtKGqsrPZzMgSw8mhD4G8sSqRyjWDSqrDD3aHL2VfX", 254)
    else (keyOfBase58 "11111111111111111111111111111111", 0)
  systemProgram := keyOfBase58 "11111111111111111111111111111111"
  ofBytes_eq key := ⟨key, keyOfBytes_fixed key, rfl⟩

/-- A withdrawal of one lamport, under the discriminator of the interface. -/
def sampleWithdrawal : Call (Fixed 32) :=
  .withdrawTreasury ⟨List.replicate 32 1, rfl⟩ ⟨List.replicate 32 2, rfl⟩ 1

theorem sampleWithdrawal_refused :
    ∃ ix, sampleWithdrawal.build sampleWeb3 = .ok ix ∧
      Idl.decode ix = .error (.accountNotSigner .authority) ∧
      ¬sampleWithdrawal.Means sampleWeb3 ix := by
  refine ⟨_, Call.withdrawTreasury_ok _ _ _ 1, rfl, ?_⟩
  rintro ⟨d, decoded, -⟩
  cases decoded

end Pokeage.Sdk
