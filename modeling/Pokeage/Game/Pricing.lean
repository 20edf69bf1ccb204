import Pokeage.Game.Rng

/-!
# Card prices

`pricing.ts`: the price model of the cards, with the fees and quotes that the program charges and pays.
-/

namespace Pokeage.Game

/-! ## Constants -/

/-- Rarity tier order, index = on-chain code. -/
def tierOrder : List RarityTier := [.common, .uncommon, .rare, .holo, .ultra, .secret]

/-- `MINT_FEE_LAMPORTS`. -/
def mintFeeTable : RarityTier → ℤ
  | .common => 1000000
  | .uncommon => 3000000
  | .rare => 10000000
  | .holo => 50000000
  | .ultra => 200000000
  | .secret => 1000000000

/-- `TIER_BASE_PRICE_SOL`, as it is written. -/
def tierBasePriceTable : RarityTier → ℚ
  | .common => 0.001
  | .uncommon => 0.005
  | .rare => 0.05
  | .holo => 0.3
  | .ultra => 3
  | .secret => 30

/-- A number that is written in decimal is the double next to it. -/
def tierBasePriceSol (fl : Floats) (tier : RarityTier) : ℚ := fl (tierBasePriceTable tier)

/-- `LEVEL_PRICE_MULT`: the upper end of each band and its multiplier. -/
def levelPriceMult : List (ℤ × ℚ) := [(20, 1), (40, 1.5), (60, 2.5), (80, 4), (99, 6), (100, 10)]

/-- `STAGE_PRICE_MULT`, by stage. -/
def stagePriceMult : List ℚ := [1, 2, 4]

/-- The share of the floor price that an instant sell pays. -/
def instantSellBps : ℤ := 5000
/-- Basis points in a whole. -/
def bpsDenom : ℤ := 10000

/-! ## Prices -/

/-- Level band multiplier. Levels past the last band have that band's. -/
def levelMultiplier (level : ℤ) : ℚ :=
  match levelPriceMult.find? fun band => level ≤ band.1 with
  | some band => band.2
  | none => (levelPriceMult.getLast?.map Prod.snd).getD 0

/-- Evolution-stage multiplier. A stage before the first reads nothing. -/
def stageMultiplier (stage : ℤ) : ℚ :=
  match Rng.at? stagePriceMult (min stage (stagePriceMult.length - 1)) with
  | some mult => orElse mult 1
  | none => 1

/-- Estimated market price in SOL for a card. -/
def cardPriceSol (fl : Floats) (tier : RarityTier) (level stage : ℤ) : ℚ :=
  let base := tierBasePriceSol fl tier
  -- ultra and secret are scarcity-priced
  let applyStage := if tier = .ultra ∨ tier = .secret then 1 else stageMultiplier stage
  fl (fl (base * levelMultiplier level) * applyStage)

/-- NFT mint fee in lamports for a tier. -/
def mintFeeLamports (tier : RarityTier) : ℤ := mintFeeTable tier

/-- Instant-sell payout in lamports given a floor price. -/
def instantSellQuote (fl : Floats) (floorLamports : ℚ) : ℤ :=
  ⌊fl (fl (floorLamports * instantSellBps) / bpsDenom)⌋

/-- Tier name from its on-chain code, which is first brought into the range of codes. -/
def tierFromCode (code : ℤ) : Option RarityTier :=
  Rng.at? tierOrder (min (max code 0) (tierOrder.length - 1))

/-- On-chain code for a tier name. -/
def tierToCode (tier : RarityTier) : ℤ :=
  if tier ∈ tierOrder then tierOrder.idxOf tier else 0

/-! ## Codes -/

/-- A code is the position of its tier. -/
@[simp] theorem tierFromCode_tierToCode (tier : RarityTier) :
    tierFromCode (tierToCode tier) = some tier := by
  cases tier <;> rfl

end Pokeage.Game
