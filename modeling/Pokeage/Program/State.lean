import Pokeage.Infra.Store
import Pokeage.Infra.Balance
import Pokeage.Program.Constants

/-!
# Accounts and the chain

The records of `state/`, the token program's mints and token accounts, and the chain that holds
them.

* A program-derived address is the constructor of its seeds, so different seeds give different
  addresses and no key is one. Its canonical bump is what `Chain.bumpOf` says.
* Each record stands at its derived address, so a store is indexed by the varying seed: players by
  the player, cards and listings by the card mint.
* `lamports` leaves out the rent deposit of the accounts the program opens.
-/

namespace Pokeage

open Infra

/-- An address. `key` is any address that can sign a transaction: a wallet, or an account that
another program signs for. -/
inductive Pubkey where
  | key (n : ℕ)
  | config
  | buybackPool
  | player (owner : Pubkey)
  | listing (cardMint : Pubkey)
  | card (cardMint : Pubkey)
  | ata (authority mint : Pubkey)
  deriving DecidableEq, Repr

namespace Pubkey

/-- The addresses that can sign. -/
def isKey : Pubkey → Bool
  | key _ => true
  | _ => false

/-- The addresses this program derives. -/
def isPda : Pubkey → Bool
  | config | buybackPool | player _ | listing _ | card _ => true
  | key _ | ata _ _ => false

@[simp] theorem isKey_listing (m : Pubkey) : (listing m).isKey = false := rfl

end Pubkey

/-! ## Records of the program -/

/-- `config.rs`: the rates, the destinations, the counters and the pause flags. -/
structure Config where
  authority : Pubkey
  pageMint : Pubkey
  treasury : Pubkey
  buybackVault : Pubkey
  burnBps : ℕ
  poolBps : ℕ
  marketFeeBps : ℕ
  instantSellBps : ℕ
  listingFee : ℕ
  totalBurned : ℕ
  totalCardsMinted : ℕ
  paused : ℕ
  bump : ℕ
  deriving DecidableEq, Repr

namespace Config

/-- Bit of `catch_attempt`. -/
def pauseCatch : ℕ := 1
/-- Bit of `mint_card`. -/
def pauseMint : ℕ := 2
/-- Bit of `list_card` and `buy_card`. -/
def pauseMarket : ℕ := 4
/-- Bit of `instant_sell`. -/
def pauseInstantSell : ℕ := 8

/-- Whether the given pause flag bit is set. -/
def isPaused (c : Config) (flag : ℕ) : Bool := c.paused &&& flag != 0

end Config

/-- `player.rs`: what a player has done. -/
structure PlayerState where
  owner : Pubkey
  agentDeployed : Bool
  totalCaught : ℕ
  gymWins : ℕ
  badges : ℕ
  lastAction : ℤ
  bump : ℕ
  deriving DecidableEq, Repr

namespace PlayerState

/-- A zeroed account, as `init_if_needed` leaves it; `Pubkey::default()` is the all-zero key. -/
def zeroed : PlayerState where
  owner := .key 0
  agentDeployed := false
  totalCaught := 0
  gymWins := 0
  badges := 0
  lastAction := 0
  bump := 0

/-- Whether badge `i` is owned. An out-of-range index reads as false. -/
def hasBadge (p : PlayerState) (i : ℕ) : Bool :=
  if badgeCount ≤ i then false else p.badges &&& (1 <<< i) != 0

/-- Flip badge `i` on. -/
def setBadge (p : PlayerState) (i : ℕ) : PlayerState :=
  if i < badgeCount then { p with badges := p.badges ||| (1 <<< i) } else p

end PlayerState

/-- `listing.rs`: a card on offer. -/
structure Listing where
  seller : Pubkey
  cardMint : Pubkey
  price : ℕ
  tier : ℕ
  level : ℕ
  stage : ℕ
  createdAt : ℤ
  active : Bool
  bump : ℕ
  deriving DecidableEq, Repr

/-- `pool.rs`: what the pool holds and at which floor it buys. -/
structure BuybackPool where
  totalLamports : ℕ
  lifetimeIn : ℕ
  lifetimeOut : ℕ
  floorPrice : ℕ
  instantSellEnabled : Bool
  bump : ℕ
  deriving DecidableEq, Repr

/-- `card.rs`: the traits a card was minted with. -/
structure CardMeta where
  mint : Pubkey
  owner : Pubkey
  tier : ℕ
  stage : ℕ
  level : ℕ
  mintedAt : ℤ
  bump : ℕ
  deriving DecidableEq, Repr

/-! ## Accounts of the token program -/

/-- A token mint. -/
structure Mint where
  supply : ℕ
  decimals : ℕ
  mintAuthority : Option Pubkey
  deriving DecidableEq, Repr

/-- A mint with so much less supply. -/
def Mint.burned (n : ℕ) (m : Mint) : Mint := { m with supply := m.supply - n }

/-- A token account. `owner` is the authority that moves its balance. -/
structure TokenAccount where
  mint : Pubkey
  owner : Pubkey
  amount : ℕ
  deriving DecidableEq, Repr

namespace TokenAccount

/-- An account with so much less in it. -/
def debit (n : ℕ) (t : TokenAccount) : TokenAccount := { t with amount := t.amount - n }

/-- An account with so much more in it. -/
def credit (n : ℕ) (t : TokenAccount) : TokenAccount := { t with amount := t.amount + n }

variable (n : ℕ) (t : TokenAccount)

@[simp] theorem debit_mint : (t.debit n).mint = t.mint := rfl
@[simp] theorem debit_owner : (t.debit n).owner = t.owner := rfl
@[simp] theorem debit_amount : (t.debit n).amount = t.amount - n := rfl
@[simp] theorem credit_mint : (t.credit n).mint = t.mint := rfl
@[simp] theorem credit_owner : (t.credit n).owner = t.owner := rfl
@[simp] theorem credit_amount : (t.credit n).amount = t.amount + n := rfl

end TokenAccount

/-! ## Events -/

/-- `events.rs`. -/
inductive Event where
  | agentDeployed (player : Pubkey) (burned : ℕ)
  | catchAttempted (player : Pubkey) (rarity burned toPool : ℕ)
  | gymChallenged (player : Pubkey) (badgeIndex : ℕ)
  | evolved (player : Pubkey) (burned : ℕ)
  | cardMinted (cardMint : Pubkey) (tier fee : ℕ)
  | cardListed (listing : Pubkey) (price : ℕ)
  | listingCancelled (listing : Pubkey)
  | cardSold (listing buyer : Pubkey) (price fee : ℕ)
  | instantSold (seller : Pubkey) (payout : ℕ)
  deriving DecidableEq, Repr

/-! ## The chain -/

/-- The program that owns an account, as far as it matters here. -/
inductive Owner where
  | system
  | pokeage
  | token
  | other
  deriving DecidableEq, Repr

/-- What the instructions read and write. -/
structure Chain where
  lamports : Pubkey → ℕ
  /-- Who owns an address that holds none of the records below. -/
  assigned : Pubkey → Owner
  /-- The canonical bump of each derived address. -/
  bumpOf : Pubkey → ℕ
  config : Option Config
  pool : Option BuybackPool
  players : Store Pubkey PlayerState
  cards : Store Pubkey CardMeta
  listings : Store Pubkey Listing
  mints : Store Pubkey Mint
  tokens : Store Pubkey TokenAccount
  events : List Event

namespace Chain

/-- Whether this program keeps a record at the address. -/
def hasRecord (s : Chain) : Pubkey → Bool
  | .config => s.config.isSome
  | .buybackPool => s.pool.isSome
  | .player p => (s.players.get p).isSome
  | .listing m => (s.listings.get m).isSome
  | .card m => (s.cards.get m).isSome
  | .key _ | .ata _ _ => false

/-- The owner of an account. -/
def owner (s : Chain) (k : Pubkey) : Owner :=
  if s.hasRecord k then .pokeage
  else if (s.mints.get k).isSome || (s.tokens.get k).isSome then .token
  else s.assigned k

/-- Append an event to the log. -/
def emit (s : Chain) (e : Event) : Chain := { s with events := e :: s.events }

end Chain

/-- What a transaction brings along: who signed it and the clock. Only keys sign. -/
structure Tx where
  signers : List Pubkey
  now : ℤ
  keys : ∀ k ∈ signers, k.isKey

end Pokeage
