import Pokeage.Program.Idl
import Pokeage.Sdk.Borsh

/-!
# The SDK's instructions

`instructions.ts`, with what it takes from `constants.ts` and `pda.ts`. A number goes in as any integer: a
small one is cut to its width, a 64-bit one that does not fit throws.
-/

namespace Pokeage.Sdk

open Infra
open Idl (AccountMeta TransactionInstruction)

variable {PublicKey : Type}

/-! ## Constants -/

namespace IxDisc

/-- `IX_DISC.initialize`. -/
def initializeProgram : Bytes := [175, 175, 109, 31, 13, 152, 155, 237]
/-- `IX_DISC.deploy_agent`. -/
def deployAgent : Bytes := [111, 5, 144, 253, 234, 112, 104, 160]
/-- `IX_DISC.catch_attempt`. -/
def catchAttempt : Bytes := [117, 199, 5, 173, 1, 110, 92, 78]
/-- `IX_DISC.gym_challenge`. -/
def gymChallenge : Bytes := [99, 2, 232, 170, 219, 168, 157, 184]
/-- `IX_DISC.force_evolve`. -/
def forceEvolve : Bytes := [125, 17, 242, 123, 243, 240, 122, 193]
/-- `IX_DISC.list_card`. -/
def listCard : Bytes := [113, 226, 80, 193, 197, 19, 75, 161]
/-- `IX_DISC.buy_card`. -/
def buyCard : Bytes := [113, 142, 149, 246, 22, 115, 156, 154]
/-- `IX_DISC.instant_sell`. -/
def instantSell : Bytes := [45, 174, 93, 204, 210, 186, 239, 229]
/-- `IX_DISC.update_floor`. -/
def updateFloor : Bytes := [38, 80, 204, 37, 6, 62, 192, 200]
/-- `IX_DISC.set_instant_sell`. -/
def setInstantSell : Bytes := [67, 116, 92, 97, 147, 205, 199, 45]
/-- `IX_DISC.withdraw_treasury`. -/
def withdrawTreasury : Bytes := [40, 63, 122, 158, 144, 216, 83, 96]
/-- `IX_DISC.set_pause`. -/
def setPause : Bytes := [63, 32, 154, 2, 56, 103, 79, 45]

end IxDisc

namespace Seeds

/-- The seed of the one config. -/
def config : Bytes := "config".toUTF8.toList
/-- The seed of a player's state, before the owner's key. -/
def player : Bytes := "player".toUTF8.toList
/-- The seed of a listing, before the key of the mint. -/
def listing : Bytes := "listing".toUTF8.toList
/-- The seed of the one pool. -/
def pool : Bytes := "buyback_pool".toUTF8.toList

end Seeds

variable (web3 : Web3 PublicKey)

/-- The address of the program. -/
def programId : PublicKey := web3.ofBase58 "Fg6PaFpoGXkYsidMpWTK6W2BeZ7FEfcYkg476zPFsLnS"

/-- The address of the token program. -/
def token2022ProgramId : PublicKey := web3.ofBase58 "TokenzQdBNbLqP5VEhdkAS6EPFLC1PHnBqCXEpPxuEb"

/-! ## Addresses -/

/-- An address of the program's own, with its bump. -/
def pda (seeds : List Bytes) : PublicKey × ℕ := web3.findProgramAddressSync seeds (programId web3)

/-- `configPda()`. -/
def configPda : PublicKey × ℕ := pda web3 [Seeds.config]
/-- `poolPda()`. -/
def poolPda : PublicKey × ℕ := pda web3 [Seeds.pool]
/-- `playerPda(owner)`. -/
def playerPda (owner : PublicKey) : PublicKey × ℕ := pda web3 [Seeds.player, web3.toBytes owner]
/-- `listingPda(cardMint)`. -/
def listingPda (cardMint : PublicKey) : PublicKey × ℕ := pda web3 [Seeds.listing, web3.toBytes cardMint]

/-! ## Parts of an instruction -/

/-- `new TransactionInstruction({ programId: PROGRAM_ID, keys, data })`. -/
def ix (data : Bytes) (keys : List (AccountMeta PublicKey)) : TransactionInstruction PublicKey where
  programId := programId web3
  keys := keys
  data := data

/-- A writable account. -/
def w (pubkey : PublicKey) (isSigner : Bool := false) : AccountMeta PublicKey :=
  ⟨pubkey, isSigner, true⟩

/-- An account to read. -/
def r (pubkey : PublicKey) (isSigner : Bool := false) : AccountMeta PublicKey :=
  ⟨pubkey, isSigner, false⟩

/-- What the four token sinks are given. -/
structure SinkAccounts (PublicKey : Type) where
  authority : PublicKey
  pageMint : PublicKey
  playerAta : PublicKey
  poolAta : PublicKey
  deriving DecidableEq, Repr

/-- The accounts of a sink, the config first and the signer fourth. -/
def sinkKeys (a : SinkAccounts PublicKey) : List (AccountMeta PublicKey) := [
  w (configPda web3).1,
  w (poolPda web3).1,
  w (playerPda web3 a.authority).1,
  w a.authority true,
  w a.pageMint,
  w a.playerAta,
  w a.poolAta,
  r (token2022ProgramId web3),
  r web3.systemProgram]

/-- The discriminator of a sink, with what `extra` writes behind it. -/
def sinkData (disc : Bytes) (extra : BorshWriter → BorshWriter) : Bytes :=
  (extra (BorshWriter.new.disc disc)).build

/-! ## Builders -/

/-- The parameters of `initialize`. -/
structure InitializeParams (PublicKey : Type) where
  authority : PublicKey
  pageMint : PublicKey
  treasury : PublicKey
  buybackVault : PublicKey
  burnBps : ℤ
  poolBps : ℤ
  marketFeeBps : ℤ
  listingFee : ℤ
  deriving DecidableEq, Repr

/-- `initialize`. A listing fee that is no `u64` throws. -/
def initializeProgram (params : InitializeParams PublicKey) :
    Except JsError (TransactionInstruction PublicKey) := do
  let config := (configPda web3).1
  let pool := (poolPda web3).1
  let b := BorshWriter.new.disc IxDisc.initializeProgram
  let b := ((b.u16 params.burnBps).u16 params.poolBps).u16 params.marketFeeBps
  let b ← b.u64 params.listingFee
  return ix web3 b.build [
    w config,
    w pool,
    w params.authority true,
    r params.pageMint,
    r params.treasury,
    r params.buybackVault,
    r web3.systemProgram]

/-- `deployAgent`, a sink without arguments. -/
def deployAgent (a : SinkAccounts PublicKey) : TransactionInstruction PublicKey :=
  ix web3 (sinkData IxDisc.deployAgent id) (sinkKeys web3 a)

/-- A `CatchRarity` is a number too: zero, one or two. -/
def catchAttempt (a : SinkAccounts PublicKey) (rarity : ℤ) : TransactionInstruction PublicKey :=
  ix web3 (sinkData IxDisc.catchAttempt fun b => b.u8 rarity) (sinkKeys web3 a)

/-- `gymChallenge`, a sink with the number of a badge. -/
def gymChallenge (a : SinkAccounts PublicKey) (badgeIndex : ℤ) : TransactionInstruction PublicKey :=
  ix web3 (sinkData IxDisc.gymChallenge fun b => b.u8 badgeIndex) (sinkKeys web3 a)

/-- `forceEvolve`, a sink without arguments. -/
def forceEvolve (a : SinkAccounts PublicKey) : TransactionInstruction PublicKey :=
  ix web3 (sinkData IxDisc.forceEvolve id) (sinkKeys web3 a)

/-- `updateFloor`. A floor that is no `u64` throws. -/
def updateFloor (authority : PublicKey) (floorPrice : ℤ) :
    Except JsError (TransactionInstruction PublicKey) := do
  let config := (configPda web3).1
  let pool := (poolPda web3).1
  let b ← (BorshWriter.new.disc IxDisc.updateFloor).u64 floorPrice
  return ix web3 b.build [r config, w pool, w authority true]

/-- `setInstantSell`. -/
def setInstantSell (authority : PublicKey) (enabled : Bool) : TransactionInstruction PublicKey :=
  let config := (configPda web3).1
  let pool := (poolPda web3).1
  let b := (BorshWriter.new.disc IxDisc.setInstantSell).bool enabled
  ix web3 b.build [r config, w pool, w authority true]

/-- `setPause`. Flags beyond a byte are cut. -/
def setPause (authority : PublicKey) (flags : ℤ) : TransactionInstruction PublicKey :=
  let config := (configPda web3).1
  let b := (BorshWriter.new.disc IxDisc.setPause).u8 flags
  ix web3 b.build [w config, w authority true]

/-- The parameters of `withdrawTreasury`. -/
structure WithdrawParams (PublicKey : Type) where
  authority : PublicKey
  treasury : PublicKey
  amount : ℤ
  deriving DecidableEq, Repr

/-- `withdrawTreasury`. An amount that is no `u64` throws. -/
def withdrawTreasury (params : WithdrawParams PublicKey) :
    Except JsError (TransactionInstruction PublicKey) := do
  let config := (configPda web3).1
  let b ← (BorshWriter.new.disc IxDisc.withdrawTreasury).u64 params.amount
  return ix web3 b.build [
    r config,
    w params.treasury,
    w params.authority true,
    r web3.systemProgram]

/-- The parameters of `listCard`, the traits as any integers. -/
structure ListParams (PublicKey : Type) where
  seller : PublicKey
  cardMint : PublicKey
  price : ℤ
  tier : ℤ
  level : ℤ
  stage : ℤ
  sellerCardAta : PublicKey
  escrowAta : PublicKey
  deriving DecidableEq, Repr

/-- `listCard`. A price that is no `u64` throws, traits beyond a byte are cut. -/
def listCard (params : ListParams PublicKey) :
    Except JsError (TransactionInstruction PublicKey) := do
  let config := (configPda web3).1
  let pool := (poolPda web3).1
  let listing := (listingPda web3 params.cardMint).1
  let b ← (BorshWriter.new.disc IxDisc.listCard).u64 params.price
  let b := ((b.u8 params.tier).u8 params.level).u8 params.stage
  return ix web3 b.build [
    w config,
    w pool,
    w listing,
    w params.seller true,
    r params.cardMint,
    w params.sellerCardAta,
    w params.escrowAta,
    r (token2022ProgramId web3),
    r web3.systemProgram]

/-- The parameters of `buyCard`: there is no price among them. -/
structure BuyParams (PublicKey : Type) where
  buyer : PublicKey
  seller : PublicKey
  cardMint : PublicKey
  escrowAta : PublicKey
  buyerCardAta : PublicKey
  deriving DecidableEq, Repr

/-- `buyCard`, of the discriminator alone. -/
def buyCard (params : BuyParams PublicKey) : TransactionInstruction PublicKey :=
  let config := (configPda web3).1
  let pool := (poolPda web3).1
  let listing := (listingPda web3 params.cardMint).1
  let b := BorshWriter.new.disc IxDisc.buyCard
  ix web3 b.build [
    w config,
    w pool,
    w listing,
    w params.buyer true,
    w params.seller,
    r params.cardMint,
    w params.escrowAta,
    w params.buyerCardAta,
    r (token2022ProgramId web3),
    r web3.systemProgram]

/-- The parameters of `instantSell`. -/
structure SellParams (PublicKey : Type) where
  seller : PublicKey
  cardMint : PublicKey
  sellerCardAta : PublicKey
  vaultAta : PublicKey
  deriving DecidableEq, Repr

/-- `instantSell`, of the discriminator alone. -/
def instantSell (params : SellParams PublicKey) : TransactionInstruction PublicKey :=
  let config := (configPda web3).1
  let pool := (poolPda web3).1
  let b := BorshWriter.new.disc IxDisc.instantSell
  ix web3 b.build [
    r config,
    w pool,
    w params.seller true,
    r params.cardMint,
    w params.sellerCardAta,
    w params.vaultAta,
    r (token2022ProgramId web3),
    r web3.systemProgram]

end Pokeage.Sdk
