import Pokeage.Infra.Except

/-!
# Errors

`PokeageError` is the program's own error enum, in declaration order. The other two kinds come from
below the handlers: the account constraints Anchor checks before a handler runs, and the runtime
with the system and token programs the handlers call.
-/

namespace Pokeage

/-- The errors of the program. -/
inductive PokeageError where
  | agentAlreadyDeployed
  | agentNotDeployed
  | featurePaused
  | invalidRarity
  | invalidTier
  | invalidBadgeIndex
  | listingInactive
  | notListingOwner
  | poolInsufficient
  | instantSellDisabled
  | floorNotSet
  | mathOverflow
  | invalidFeeConfig
  | unauthorized
  | insufficientFunds
  | invalidPrice
  deriving DecidableEq, Repr

/-- A declared account constraint that did not hold. -/
inductive AnchorError where
  | accountNotSigner
  | accountNotInitialized
  | accountNotAssociatedTokenAccount
  | constraintSeeds
  | constraintAddress
  | constraintClose
  | constraintTokenMint
  | constraintTokenOwner
  deriving DecidableEq, Repr

/-- What the runtime, the system program and the token program refuse. -/
inductive RuntimeError where
  | accountAlreadyInUse
  | missingRequiredSignature
  | fromMustNotCarryData
  | resultWithNegativeLamports
  | arithmeticOverflow
  | externalAccountLamportSpend
  | invalidAccountData
  | mintMismatch
  | mintDecimalsMismatch
  | ownerMismatch
  | insufficientTokens
  | nonNativeHasBalance
  | fixedSupply
  deriving DecidableEq, Repr

/-- Why an instruction fails. -/
inductive Error where
  | pokeage (e : PokeageError)
  | anchor (e : AnchorError)
  | runtime (e : RuntimeError)
  deriving DecidableEq, Repr

/-- The result of an instruction or of a step of one. -/
abbrev Result (α : Type) := Except Error α

end Pokeage
