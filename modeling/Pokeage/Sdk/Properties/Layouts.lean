import Pokeage.Cli.State
import Pokeage.Program.Layout
import Pokeage.Sdk.Accounts

/-!
# Three readings of an account

The program writes an account, the SDK decodes it and so does the command line client, each with its own
copy of the field order and of the widths.

* `Agree` says of one kind of account that the three copies are one format.
* The two round trips follow the fields one by one. For short data, the fields before the last one only
  move the SDK's offset; it is the last one, a number, that has to lie inside the buffer.
-/

namespace Pokeage.Sdk

open Infra Infra.Borsh BorshReader
open Layout (Discriminator account)

variable {PublicKey : Type}

/-! ## The same values -/

section

variable (web3 : Web3 PublicKey)

/-- The account has the values of the program's config. -/
structure ConfigAccount.Shows (a : ConfigAccount PublicKey) (c : Layout.Config) : Prop where
  authority : web3.toBytes a.authority = c.authority.bytes
  pageMint : web3.toBytes a.pageMint = c.pageMint.bytes
  treasury : web3.toBytes a.treasury = c.treasury.bytes
  buybackVault : web3.toBytes a.buybackVault = c.buybackVault.bytes
  burnBps : a.burnBps = c.burnBps.toNat
  poolBps : a.poolBps = c.poolBps.toNat
  marketFeeBps : a.marketFeeBps = c.marketFeeBps.toNat
  instantSellBps : a.instantSellBps = c.instantSellBps.toNat
  listingFee : a.listingFee = c.listingFee.toNat
  totalBurned : a.totalBurned = c.totalBurned.toNat
  totalCardsMinted : a.totalCardsMinted = c.totalCardsMinted.toNat
  paused : a.paused = c.paused.toNat
  bump : a.bump = c.bump.toNat

/-- The account has the values of the program's player state. -/
structure PlayerAccount.Shows (a : PlayerAccount PublicKey) (p : Layout.PlayerState) : Prop where
  owner : web3.toBytes a.owner = p.owner.bytes
  agentDeployed : a.agentDeployed = p.agentDeployed
  totalCaught : a.totalCaught = p.totalCaught.toNat
  gymWins : a.gymWins = p.gymWins.toNat
  badges : a.badges = p.badges.toNat
  lastAction : a.lastAction = p.lastAction.toInt
  bump : a.bump = p.bump.toNat

/-- The account has the values of the program's listing. -/
structure ListingAccount.Shows (a : ListingAccount PublicKey) (l : Layout.Listing) : Prop where
  seller : web3.toBytes a.seller = l.seller.bytes
  cardMint : web3.toBytes a.cardMint = l.cardMint.bytes
  price : a.price = l.price.toNat
  tier : a.tier = l.tier.toNat
  level : a.level = l.level.toNat
  stage : a.stage = l.stage.toNat
  createdAt : a.createdAt = l.createdAt.toInt
  active : a.active = l.active
  bump : a.bump = l.bump.toNat

end

/-- The account has the values of the program's pool. -/
structure PoolAccount.Shows (a : PoolAccount) (p : Layout.BuybackPool) : Prop where
  totalLamports : a.totalLamports = p.totalLamports.toNat
  lifetimeIn : a.lifetimeIn = p.lifetimeIn.toNat
  lifetimeOut : a.lifetimeOut = p.lifetimeOut.toNat
  floorPrice : a.floorPrice = p.floorPrice.toNat
  instantSellEnabled : a.instantSellEnabled = p.instantSellEnabled
  bump : a.bump = p.bump.toNat

/-- The client's record with the values of the program's. -/
def cliConfig (c : Layout.Config) : Cli.Config where
  authority := c.authority
  pageMint := c.pageMint
  treasury := c.treasury
  buybackVault := c.buybackVault
  burnBps := c.burnBps
  poolBps := c.poolBps
  marketFeeBps := c.marketFeeBps
  instantSellBps := c.instantSellBps
  listingFee := c.listingFee
  totalBurned := c.totalBurned
  totalCardsMinted := c.totalCardsMinted
  paused := c.paused
  bump := c.bump

/-- The client's player state with the values of the program's. -/
def cliPlayerState (p : Layout.PlayerState) : Cli.PlayerState where
  owner := p.owner
  agentDeployed := p.agentDeployed
  totalCaught := p.totalCaught
  gymWins := p.gymWins
  badges := p.badges
  lastAction := p.lastAction
  bump := p.bump

/-- The client's pool with the values of the program's. -/
def cliBuybackPool (p : Layout.BuybackPool) : Cli.BuybackPool where
  totalLamports := p.totalLamports
  lifetimeIn := p.lifetimeIn
  lifetimeOut := p.lifetimeOut
  floorPrice := p.floorPrice
  instantSellEnabled := p.instantSellEnabled
  bump := p.bump

/-- The client's listing with the values of the program's. -/
def cliListing (l : Layout.Listing) : Cli.Listing where
  seller := l.seller
  cardMint := l.cardMint
  price := l.price
  tier := l.tier
  level := l.level
  stage := l.stage
  createdAt := l.createdAt
  active := l.active
  bump := l.bump

/-- The data of one kind of account mean the same to the program (which writes `serialize`, in `len`
bytes), to the SDK (`decode`, whose account `shows` the values) and to the client (`deserialize`). -/
structure Agree {V A B : Type} (serialize : V → Bytes) (len : ℕ) (decode : Bytes → Except JsError A)
    (shows : A → V → Prop) (deserialize : Parser BorshError B) (same : V → B) : Prop where
  length : ∀ disc v, (account disc (serialize v)).length = len
  decoded : ∀ disc v, ∃ a, decode (account disc (serialize v)) = .ok a ∧ shows a v
  deserialized : ∀ disc v,
    Cli.decodeAccount deserialize (account disc (serialize v)) = .ok (same v)
  short : ∀ data : Bytes, data.length < len →
    (∃ e, decode data = .error e) ∧ ∃ e, Cli.decodeAccount deserialize data = .error e
  long : ∀ data : Bytes, len < data.length → ∃ e, Cli.decodeAccount deserialize data = .error e

/-- It is enough that both readers follow the fields, that the SDK's needs them all and that the client's
takes no more. -/
theorem agree_of {V A B : Type} {serialize : V → Bytes} {len n : ℕ} {reader : Reader JsError A}
    {shows : A → V → Prop} {deserialize : Parser BorshError B} {same : V → B}
    (length : ∀ disc v, (account disc (serialize v)).length = len)
    (reads : ∀ disc v, ∃ a, Reads reader (account disc (serialize v)) a ∧ shows a v)
    (needs : Needs reader len) (parses : ∀ v, Parses deserialize (serialize v) (same v))
    (consumes : Consumes deserialize n) (total : len = Cli.discriminatorLen + n) :
    Agree serialize len (run reader) shows deserialize same where
  length := length
  decoded disc v := by
    obtain ⟨a, read, shown⟩ := reads disc v
    exact ⟨a, run_of_reads read, shown⟩
  deserialized disc v := Cli.decodeAccount_of_parses (parses v) disc.length_eq
  short data short := by
    refine ⟨run_of_needs needs short, Cli.decodeAccount_of_length_ne consumes ?_⟩
    rw [← total]
    exact Nat.ne_of_lt short
  long data long := by
    refine Cli.decodeAccount_of_length_ne consumes ?_
    rw [← total]
    exact Nat.ne_of_gt long

/-! ## Config -/

section

variable (web3 : Web3 PublicKey)

/-- The SDK reads a config behind any discriminator. -/
theorem reads_config (disc : Discriminator) (c : Layout.Config) :
    ∃ a, Reads (configReader web3) (account disc c.serialize) a ∧ a.Shows web3 c := by
  obtain ⟨authority, readAuthority, sameAuthority⟩ := reads_publicKey web3 c.authority
  obtain ⟨pageMint, readPageMint, samePageMint⟩ := reads_publicKey web3 c.pageMint
  obtain ⟨treasury, readTreasury, sameTreasury⟩ := reads_publicKey web3 c.treasury
  obtain ⟨buybackVault, readVault, sameVault⟩ := reads_publicKey web3 c.buybackVault
  refine ⟨_, (reads_skip disc.length_eq).bind <| readAuthority.bind <| readPageMint.bind <|
    readTreasury.bind <| readVault.bind <| (reads_u16 c.burnBps).bind <|
    (reads_u16 c.poolBps).bind <| (reads_u16 c.marketFeeBps).bind <|
    (reads_u16 c.instantSellBps).bind <| (reads_u64 c.listingFee).bind <|
    (reads_u64 c.totalBurned).bind <| (reads_u64 c.totalCardsMinted).bind <|
    (reads_u8 c.paused).bind <| (reads_u8 c.bump).bind <| Reads.pure _, ?_⟩
  exact ⟨sameAuthority, samePageMint, sameTreasury, sameVault, rfl, rfl, rfl, rfl, rfl, rfl, rfl, rfl,
    rfl⟩

/-- It takes all 170 bytes. -/
theorem needs_config : Needs (configReader web3) 170 :=
  (advances_skip 8).needs fun _ => (advances_publicKey web3).needs fun _ =>
    (advances_publicKey web3).needs fun _ => (advances_publicKey web3).needs fun _ =>
    (advances_publicKey web3).needs fun _ => (advances_number 2).needs fun _ =>
    (advances_number 2).needs fun _ => (advances_number 2).needs fun _ =>
    (advances_number 2).needs fun _ => advances_u64.needs fun _ => advances_u64.needs fun _ =>
    advances_u64.needs fun _ => (advances_number 1).needs fun _ => (needs_number 1).first

end

/-- The client reads the same values out of the body. -/
theorem parses_config (c : Layout.Config) :
    Parses Cli.Config.deserialize c.serialize (cliConfig c) :=
  (parses_fixed c.authority).bind <| (parses_fixed c.pageMint).bind <|
    (parses_fixed c.treasury).bind <| (parses_fixed c.buybackVault).bind <|
    (parses_getU16 c.burnBps).bind <| (parses_getU16 c.poolBps).bind <|
    (parses_getU16 c.marketFeeBps).bind <| (parses_getU16 c.instantSellBps).bind <|
    (parses_getU64 c.listingFee).bind <| (parses_getU64 c.totalBurned).bind <|
    (parses_getU64 c.totalCardsMinted).bind <| (parses_getU8 c.paused).bind <|
    (parses_getU8 c.bump).bind <| Parses.pure _

/-! ## PlayerState -/

section

variable (web3 : Web3 PublicKey)

/-- The SDK reads a player state behind any discriminator. -/
theorem reads_player (disc : Discriminator) (p : Layout.PlayerState) :
    ∃ a, Reads (playerReader web3) (account disc p.serialize) a ∧ a.Shows web3 p := by
  obtain ⟨owner, readOwner, sameOwner⟩ := reads_publicKey web3 p.owner
  refine ⟨_, (reads_skip disc.length_eq).bind <| readOwner.bind <|
    (reads_bool p.agentDeployed).bind <| (reads_u64 p.totalCaught).bind <|
    (reads_u32 p.gymWins).bind <| (reads_u16 p.badges).bind <| (reads_i64 p.lastAction).bind <|
    (reads_u8 p.bump).bind <| Reads.pure _, ?_⟩
  exact ⟨sameOwner, rfl, rfl, rfl, rfl, rfl, rfl⟩

theorem needs_player : Needs (playerReader web3) 64 :=
  (advances_skip 8).needs fun _ => (advances_publicKey web3).needs fun _ =>
    advances_bool.needs fun _ => advances_u64.needs fun _ => (advances_number 4).needs fun _ =>
    (advances_number 2).needs fun _ => advances_i64.needs fun _ => (needs_number 1).first

end

theorem parses_player (p : Layout.PlayerState) :
    Parses Cli.PlayerState.deserialize p.serialize (cliPlayerState p) :=
  (parses_fixed p.owner).bind <| (parses_getBool p.agentDeployed).bind <|
    (parses_getU64 p.totalCaught).bind <| (parses_getU32 p.gymWins).bind <|
    (parses_getU16 p.badges).bind <| (parses_getI64 p.lastAction).bind <|
    (parses_getU8 p.bump).bind <| Parses.pure _

/-! ## BuybackPool -/

/-- The SDK reads the pool behind any discriminator. -/
theorem reads_pool (disc : Discriminator) (p : Layout.BuybackPool) :
    ∃ a, Reads poolReader (account disc p.serialize) a ∧ a.Shows p := by
  refine ⟨_, (reads_skip disc.length_eq).bind <| (reads_u64 p.totalLamports).bind <|
    (reads_u64 p.lifetimeIn).bind <| (reads_u64 p.lifetimeOut).bind <|
    (reads_u64 p.floorPrice).bind <| (reads_bool p.instantSellEnabled).bind <|
    (reads_u8 p.bump).bind <| Reads.pure _, ?_⟩
  exact ⟨rfl, rfl, rfl, rfl, rfl, rfl⟩

theorem needs_pool : Needs poolReader 42 :=
  (advances_skip 8).needs fun _ => advances_u64.needs fun _ => advances_u64.needs fun _ =>
    advances_u64.needs fun _ => advances_u64.needs fun _ => advances_bool.needs fun _ =>
    (needs_number 1).first

theorem parses_pool (p : Layout.BuybackPool) :
    Parses Cli.BuybackPool.deserialize p.serialize (cliBuybackPool p) :=
  (parses_getU64 p.totalLamports).bind <| (parses_getU64 p.lifetimeIn).bind <|
    (parses_getU64 p.lifetimeOut).bind <| (parses_getU64 p.floorPrice).bind <|
    (parses_getBool p.instantSellEnabled).bind <| (parses_getU8 p.bump).bind <| Parses.pure _

/-! ## Listing -/

section

variable (web3 : Web3 PublicKey)

/-- The SDK reads a listing behind any discriminator. -/
theorem reads_listing (disc : Discriminator) (l : Layout.Listing) :
    ∃ a, Reads (listingReader web3) (account disc l.serialize) a ∧ a.Shows web3 l := by
  obtain ⟨seller, readSeller, sameSeller⟩ := reads_publicKey web3 l.seller
  obtain ⟨cardMint, readCardMint, sameCardMint⟩ := reads_publicKey web3 l.cardMint
  refine ⟨_, (reads_skip disc.length_eq).bind <| readSeller.bind <| readCardMint.bind <|
    (reads_u64 l.price).bind <| (reads_u8 l.tier).bind <| (reads_u8 l.level).bind <|
    (reads_u8 l.stage).bind <| (reads_i64 l.createdAt).bind <| (reads_bool l.active).bind <|
    (reads_u8 l.bump).bind <| Reads.pure _, ?_⟩
  exact ⟨sameSeller, sameCardMint, rfl, rfl, rfl, rfl, rfl, rfl, rfl⟩

theorem needs_listing : Needs (listingReader web3) 93 :=
  (advances_skip 8).needs fun _ => (advances_publicKey web3).needs fun _ =>
    (advances_publicKey web3).needs fun _ => advances_u64.needs fun _ =>
    (advances_number 1).needs fun _ => (advances_number 1).needs fun _ =>
    (advances_number 1).needs fun _ => advances_i64.needs fun _ => advances_bool.needs fun _ =>
    (needs_number 1).first

end

theorem parses_listing (l : Layout.Listing) :
    Parses Cli.Listing.deserialize l.serialize (cliListing l) :=
  (parses_fixed l.seller).bind <| (parses_fixed l.cardMint).bind <| (parses_getU64 l.price).bind <|
    (parses_getU8 l.tier).bind <| (parses_getU8 l.level).bind <| (parses_getU8 l.stage).bind <|
    (parses_getI64 l.createdAt).bind <| (parses_getBool l.active).bind <|
    (parses_getU8 l.bump).bind <| Parses.pure _

/-! ## All of them -/

/-- Whatever `web3.js` is, as far as its keys keep their 32 bytes. -/
theorem accounts_agree (web3 : Web3 PublicKey) :
    Agree Layout.Config.serialize Layout.Config.len (decodeConfig web3) (ConfigAccount.Shows web3)
        Cli.Config.deserialize cliConfig ∧
      Agree Layout.PlayerState.serialize Layout.PlayerState.len (decodePlayer web3)
        (PlayerAccount.Shows web3) Cli.PlayerState.deserialize cliPlayerState ∧
      Agree Layout.BuybackPool.serialize Layout.BuybackPool.len decodePool PoolAccount.Shows
        Cli.BuybackPool.deserialize cliBuybackPool ∧
      Agree Layout.Listing.serialize Layout.Listing.len (decodeListing web3)
        (ListingAccount.Shows web3) Cli.Listing.deserialize cliListing := by
  refine ⟨?config, ?player, ?pool, ?listing⟩
  case config =>
    exact agree_of Layout.Config.length_account (reads_config web3) (needs_config web3)
      parses_config Cli.Config.consumes rfl
  case player =>
    exact agree_of Layout.PlayerState.length_account (reads_player web3) (needs_player web3)
      parses_player Cli.PlayerState.consumes rfl
  case pool =>
    exact agree_of Layout.BuybackPool.length_account reads_pool needs_pool parses_pool
      Cli.BuybackPool.consumes rfl
  case listing =>
    exact agree_of Layout.Listing.length_account (reads_listing web3) (needs_listing web3)
      parses_listing Cli.Listing.consumes rfl

end Pokeage.Sdk
