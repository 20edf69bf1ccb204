import Pokeage.Game.Pricing
import Pokeage.Sdk.Accounts
import Pokeage.Sdk.Instructions

/-!
# The SDK's quotes

`client.ts`, on top of the readers of `accounts.ts`. A connection is what it answers about an address:
the account's data, or that there is no account.
-/

namespace Pokeage.Sdk

open Infra Infra.Borsh
open Game (Floats RarityTier)

variable {PublicKey : Type} (web3 : Web3 PublicKey)

/-- `connection.getAccountInfo(address)`. -/
abbrev Connection (PublicKey : Type) : Type := PublicKey → Option Bytes

/-- The account at an address: nothing where there is none, else what its data decode to. -/
def fetch {T : Type} (connection : Connection PublicKey) (address : PublicKey)
    (decode : Bytes → Except JsError T) : Except JsError (Option T) :=
  match connection address with
  | none => return none
  | some data => return some (← decode data)

/-- `getPool(connection)`. -/
def getPool (connection : Connection PublicKey) : Except JsError (Option PoolAccount) :=
  fetch connection (poolPda web3).1 decodePool

namespace PokeageClient

/-! ## Quotes -/

/-- Market price of a card in SOL. A code is clamped to the known tiers. -/
def marketPriceSol (fl : Floats) (tierCode level stage : ℤ) : Option ℚ := do
  let tier ← Game.tierFromCode tierCode
  return Game.cardPriceSol fl tier level stage

/-- Fee of a mint in lamports, by the code of the tier. -/
def mintFee (tierCode : ℤ) : Option ℤ := (Game.tierFromCode tierCode).map Game.mintFeeLamports

/-- Instant-sell payout for a card given the current pool floor, which becomes a double. -/
def instantSellPayout (fl : Floats) (connection : Connection PublicKey) : Except JsError ℤ := do
  match ← getPool web3 connection with
  | none => return 0
  | some pool => return Game.instantSellQuote fl (fl pool.floorPrice)

end PokeageClient

end Pokeage.Sdk
