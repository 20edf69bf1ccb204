import Pokeage.Infra.Replay
import Pokeage.Program.Shared

/-!
# The index of the event log

`events.rs`: the events a handler emits, for indexers to read. An indexer sees the log and nothing
else. `Index` is what it keeps of the program, `Event.apply` how it takes an event and `Event.Expected`
which events it can meet next; `Chain.index` is the same index taken from the accounts.

The log says nothing of who owns what, of the clock and of the admin's settings, so the index has
none of these. The listing fee and the trade rate are not logged either: they are a `Tariff` that the
indexer knows from the config, where they never change.
-/

namespace Pokeage

open Infra Infra.Replay

/-- What the log tells of a player. A player it never mentions has the default career. -/
structure Career where
  deployed : Bool := false
  caught : ℕ := 0
  wins : ℕ := 0
  badges : ℕ := 0
  deriving DecidableEq, Repr

/-- The index: careers by player, tiers by card mint, prices by the address of the listing, and the
totals. -/
structure Index where
  players : Pubkey → Career
  cards : Pubkey → Option ℕ
  offers : Pubkey → Option ℕ
  minted : ℕ
  burned : ℕ
  lifetimeIn : ℕ
  lifetimeOut : ℕ

namespace Index

/-- The index of an empty log. -/
def empty : Index where
  players _ := {}
  cards _ := none
  offers _ := none
  minted := 0
  burned := 0
  lifetimeIn := 0
  lifetimeOut := 0

/-- The index with another career for a player. -/
def setPlayer (v : Index) (k : Pubkey) (career : Career) : Index :=
  { v with players := Function.update v.players k career }

/-- So much more was burned. -/
def burn (v : Index) (n : ℕ) : Index := { v with burned := v.burned + n }

end Index

/-- The two rates of the config that the index of a log depends on. -/
structure Tariff where
  marketFeeBps : ℕ
  listingFee : ℕ
  deriving DecidableEq, Repr

namespace Event

/-- How an indexer takes an event. A gym challenge does not log its burn, which is the fixed one. -/
def apply (r : Tariff) (v : Index) : Event → Index
  | agentDeployed k burned => (v.setPlayer k { v.players k with deployed := true }).burn burned
  | catchAttempted k _ burned _ =>
    (v.setPlayer k { v.players k with caught := (v.players k).caught + 1 }).burn burned
  | gymChallenged k i =>
    (v.setPlayer k { v.players k with
      wins := (v.players k).wins + 1
      badges := (v.players k).badges ||| 1 <<< i }).burn (bps gymCost burnBps)
  | evolved _ burned => v.burn burned
  | cardMinted m tier fee => { v with
      cards := Function.update v.cards m (some tier)
      minted := v.minted + 1
      lifetimeIn := v.lifetimeIn + bps fee 5000 }
  | cardListed l price => { v with
      offers := Function.update v.offers l (some price)
      lifetimeIn := v.lifetimeIn + r.listingFee }
  | listingCancelled l => { v with offers := Function.update v.offers l none }
  | cardSold l _ _ fee => { v with
      offers := Function.update v.offers l none
      lifetimeIn := v.lifetimeIn + bps fee poolShareBps }
  | instantSold _ payout => { v with lifetimeOut := v.lifetimeOut + payout }

/-- The events that can come next. -/
def Expected (r : Tariff) (v : Index) : Event → Prop
  | agentDeployed k burned => (v.players k).deployed = false ∧ burned = bps deployCost burnBps
  | catchAttempted k rarity burned toPool => (v.players k).deployed = true ∧
      ∃ cost, catchCostForRarity rarity = .ok cost ∧ burned = bps cost burnBps ∧ burned + toPool = cost
  | gymChallenged k i => (v.players k).deployed = true ∧ i < badgeCount
  | evolved k burned => (v.players k).deployed = true ∧ burned = bps forceEvolveCost burnBps
  | cardMinted m tier fee => v.cards m = none ∧ mintFeeForTier tier = .ok fee
  | cardListed l price => v.offers l = none ∧ 0 < price
  | listingCancelled l => (v.offers l).isSome
  | cardSold l _ price fee => v.offers l = some price ∧ fee = bps price r.marketFeeBps
  | instantSold _ payout => v.lifetimeOut + payout ≤ v.lifetimeIn

end Event

/-- An indexer expects what can come next and takes it in. -/
def indexer (r : Tariff) : Follower Index Event where
  legal := Event.Expected r
  apply := Event.apply r

/-! ## The same index from the accounts -/

/-- The rates of a config. -/
def Config.tariff (c : Config) : Tariff := { marketFeeBps := c.marketFeeBps, listingFee := c.listingFee }

/-- The career that a record shows. -/
def PlayerState.career (ps : PlayerState) : Career where
  deployed := ps.agentDeployed
  caught := ps.totalCaught
  wins := ps.gymWins
  badges := ps.badges

/-- The career in a player's account, where there is one. -/
def careerOf (ps : Option PlayerState) : Career := (ps.getD .zeroed).career

/-- The price asked at an address. -/
def offerAt (listings : Store Pubkey Listing) : Pubkey → Option ℕ
  | .listing m => (listings.get m).map Listing.price
  | _ => none

/-- The index read off the accounts of the chain. -/
def Chain.index (s : Chain) : Index where
  players k := careerOf (s.players.get k)
  cards m := (s.cards.get m).map CardMeta.tier
  offers := offerAt s.listings
  minted := s.config.elim 0 Config.totalCardsMinted
  burned := s.config.elim 0 Config.totalBurned
  lifetimeIn := s.pool.elim 0 BuybackPool.lifetimeIn
  lifetimeOut := s.pool.elim 0 BuybackPool.lifetimeOut

/-! ## One entry written -/

/-- Writing a record writes one career. -/
theorem careers_set (players : Store Pubkey PlayerState) (k : Pubkey) (ps : PlayerState) :
    (fun j => careerOf ((players.set k ps).get j)) =
      Function.update (fun j => careerOf (players.get j)) k ps.career := by
  funext j
  rw [Store.get_set, Function.update_apply]
  split <;> rfl

/-- Writing a card writes one tier. -/
theorem tiers_set (cards : Store Pubkey CardMeta) (m : Pubkey) (x : CardMeta) :
    (fun j => ((cards.set m x).get j).map CardMeta.tier) =
      Function.update (fun j => (cards.get j).map CardMeta.tier) m (some x.tier) := by
  funext j
  rw [Store.get_set, Function.update_apply]
  split <;> rfl

/-- Writing a listing writes one offer. -/
theorem offerAt_set (listings : Store Pubkey Listing) (m : Pubkey) (l : Listing) :
    offerAt (listings.set m l) = Function.update (offerAt listings) (.listing m) (some l.price) := by
  funext j
  rw [Function.update_apply]
  cases j with
  | listing j =>
    simp only [offerAt, Store.get_set, Pubkey.listing.injEq]
    split <;> rfl
  | _ => rfl

/-- Closing a listing takes one offer away. -/
theorem offerAt_erase (listings : Store Pubkey Listing) (m : Pubkey) :
    offerAt (listings.erase m) = Function.update (offerAt listings) (.listing m) none := by
  funext j
  rw [Function.update_apply]
  cases j with
  | listing j =>
    simp only [offerAt, Store.get_erase, Pubkey.listing.injEq]
    split <;> rfl
  | _ => rfl

end Pokeage
