import Pokeage.Infra.Borsh

/-!
# Account layouts

`state/` once more, as bytes: the account types of the program with their machine types, and what Anchor
writes for them, a discriminator and then the fields in declared order.
-/

namespace Pokeage.Layout

open Infra Infra.Borsh

/-- The 32 bytes of a `Pubkey`. -/
abbrev Key := Fixed 32

/-- The eight bytes that tell the kind of an account. -/
abbrev Discriminator := Fixed 8

/-! ## Records -/

/-- The config as it is stored. -/
structure Config where
  authority : Key
  pageMint : Key
  treasury : Key
  buybackVault : Key
  burnBps : UInt16
  poolBps : UInt16
  marketFeeBps : UInt16
  instantSellBps : UInt16
  listingFee : UInt64
  totalBurned : UInt64
  totalCardsMinted : UInt64
  paused : UInt8
  bump : UInt8
  deriving DecidableEq, Repr

/-- A player's record as it is stored. -/
structure PlayerState where
  owner : Key
  agentDeployed : Bool
  totalCaught : UInt64
  gymWins : UInt32
  badges : UInt16
  lastAction : Int64
  bump : UInt8
  deriving DecidableEq

/-- The pool as it is stored. -/
structure BuybackPool where
  totalLamports : UInt64
  lifetimeIn : UInt64
  lifetimeOut : UInt64
  floorPrice : UInt64
  instantSellEnabled : Bool
  bump : UInt8
  deriving DecidableEq, Repr

/-- A listing as it is stored. -/
structure Listing where
  seller : Key
  cardMint : Key
  price : UInt64
  tier : UInt8
  level : UInt8
  stage : UInt8
  createdAt : Int64
  active : Bool
  bump : UInt8
  deriving DecidableEq

/-! ## Sizes -/

/-- `Config::LEN`. -/
def Config.len : ℕ := 8 + 32 * 4 + 2 * 4 + 8 * 3 + 1 + 1
/-- `PlayerState::LEN`. -/
def PlayerState.len : ℕ := 8 + 32 + 1 + 8 + 4 + 2 + 8 + 1
/-- `BuybackPool::LEN`. -/
def BuybackPool.len : ℕ := 8 + 8 * 4 + 1 + 1
/-- `Listing::LEN`. -/
def Listing.len : ℕ := 8 + 32 * 2 + 8 + 3 + 8 + 1 + 1

/-! ## Bytes -/

/-- The data of an account: the discriminator of its kind, then the fields. -/
def account (disc : Discriminator) (fields : Bytes) : Bytes := disc.bytes ++ fields

/-- The fields of a config in the order of their declaration. -/
def Config.serialize (c : Config) : Bytes :=
  List.flatten [
    c.authority.bytes,
    c.pageMint.bytes,
    c.treasury.bytes,
    c.buybackVault.bytes,
    putU16 c.burnBps,
    putU16 c.poolBps,
    putU16 c.marketFeeBps,
    putU16 c.instantSellBps,
    putU64 c.listingFee,
    putU64 c.totalBurned,
    putU64 c.totalCardsMinted,
    putU8 c.paused,
    putU8 c.bump]

/-- The fields of a player's record, likewise. -/
def PlayerState.serialize (p : PlayerState) : Bytes :=
  List.flatten [
    p.owner.bytes,
    putBool p.agentDeployed,
    putU64 p.totalCaught,
    putU32 p.gymWins,
    putU16 p.badges,
    putI64 p.lastAction,
    putU8 p.bump]

/-- The fields of the pool, likewise. -/
def BuybackPool.serialize (p : BuybackPool) : Bytes :=
  List.flatten [
    putU64 p.totalLamports,
    putU64 p.lifetimeIn,
    putU64 p.lifetimeOut,
    putU64 p.floorPrice,
    putBool p.instantSellEnabled,
    putU8 p.bump]

/-- The fields of a listing, likewise. -/
def Listing.serialize (l : Listing) : Bytes :=
  List.flatten [
    l.seller.bytes,
    l.cardMint.bytes,
    putU64 l.price,
    putU8 l.tier,
    putU8 l.level,
    putU8 l.stage,
    putI64 l.createdAt,
    putBool l.active,
    putU8 l.bump]

/-- Every layout fills the space that the program reserves for it. -/
theorem Config.length_account (disc : Discriminator) (c : Config) :
    (account disc c.serialize).length = len := by
  simp [account, serialize, len, Fixed.length_eq]

theorem PlayerState.length_account (disc : Discriminator) (p : PlayerState) :
    (account disc p.serialize).length = len := by
  simp [account, serialize, len, Fixed.length_eq]

theorem BuybackPool.length_account (disc : Discriminator) (p : BuybackPool) :
    (account disc p.serialize).length = len := by
  simp [account, serialize, len, Fixed.length_eq]

theorem Listing.length_account (disc : Discriminator) (l : Listing) :
    (account disc l.serialize).length = len := by
  simp [account, serialize, len, Fixed.length_eq]

end Pokeage.Layout
