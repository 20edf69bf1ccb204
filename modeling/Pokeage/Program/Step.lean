import Pokeage.Infra.Machine
import Pokeage.Program.Instructions.Sinks
import Pokeage.Program.Instructions.Cards
import Pokeage.Program.Instructions.Pool

/-!
# The chain as a machine

An action is either an instruction of this program or something done outside it: lamport transfers,
and the token program used directly by whoever holds the authority. `step` runs one action; runs,
traces and the reverting of a failed action come from `Infra.Machine`.

`Genesis` is a chain on which the program has no account yet and the token program's books are in
order; `Initialized` is a chain right after a successful `initialize` on one.
-/

namespace Pokeage

open Infra Infra.Balance Infra.Machine

/-! ## Actions -/

/-- `lib.rs`: the instructions with their arguments. -/
inductive Instruction where
  | initializeProgram (a : Initialize) (burnBps poolBps marketFeeBps : UInt16) (listingFee : UInt64)
  | deployAgent (a : DeployAgent)
  | catchAttempt (a : CatchAttempt) (rarity : UInt8)
  | gymChallenge (a : GymChallenge) (badgeIndex : UInt8)
  | forceEvolve (a : ForceEvolve)
  | mintCard (a : MintCard) (tier stage level : UInt8)
  | listCard (a : ListCard) (price : UInt64) (tier level stage : UInt8)
  | cancelListing (a : CancelListing)
  | buyCard (a : BuyCard)
  | instantSell (a : InstantSell)
  | updateFloor (a : UpdateFloor) (floorPrice : UInt64)
  | setInstantSell (a : SetInstantSell) (enabled : Bool)
  | withdrawTreasury (a : WithdrawTreasury) (amount : UInt64)
  | setPause (a : SetPause) (flags : UInt8)

/-- The dispatch of `lib.rs`. -/
def Instruction.handle (s : Chain) (tx : Tx) : Instruction → Result Chain
  | .initializeProgram a burnBps poolBps marketFeeBps listingFee =>
    initializeHandler s tx a burnBps.toNat poolBps.toNat marketFeeBps.toNat listingFee.toNat
  | .deployAgent a => deployAgentHandler s tx a
  | .catchAttempt a rarity => catchAttemptHandler s tx a rarity.toNat
  | .gymChallenge a badgeIndex => gymChallengeHandler s tx a badgeIndex.toNat
  | .forceEvolve a => forceEvolveHandler s tx a
  | .mintCard a tier stage level => mintCardHandler s tx a tier.toNat stage.toNat level.toNat
  | .listCard a price tier level stage =>
    listCardHandler s tx a price.toNat tier.toNat level.toNat stage.toNat
  | .cancelListing a => cancelListingHandler s tx a
  | .buyCard a => buyCardHandler s tx a
  | .instantSell a => instantSellHandler s tx a
  | .updateFloor a floorPrice => Pokeage.updateFloor s tx a floorPrice.toNat
  | .setInstantSell a enabled => Pokeage.setInstantSell s tx a enabled
  | .withdrawTreasury a amount => Pokeage.withdrawTreasury s tx a amount.toNat
  | .setPause a flags => Pokeage.setPause s tx a flags.toNat

/-- What is done outside the program. -/
inductive External where
  | systemTransfer (src dst : Pubkey) (amount : UInt64)
  | assign (account : Pubkey) (owner : Owner)
  | createMint (mint authority : Pubkey) (decimals : UInt8)
  | createTokenAccount (account mint owner : Pubkey)
  | createAta (authority mint : Pubkey)
  | mintTo (mint dst authority : Pubkey) (amount : UInt64)
  | setMintAuthority (mint authority : Pubkey) (next : Option Pubkey)
  | tokenTransfer (src mint dst authority : Pubkey) (amount : UInt64)
  | tokenBurn (src mint authority : Pubkey) (amount : UInt64)
  | closeTokenAccount (account dst authority : Pubkey)
  | setTokenOwner (account authority next : Pubkey)

namespace Chain

/-- Whether neither the token program nor another program keeps an account at the address. -/
def vacant (s : Chain) (k : Pubkey) : Prop :=
  s.mints.get k = none ∧ s.tokens.get k = none ∧ s.assigned k = .system

instance (s : Chain) (k : Pubkey) : Decidable (s.vacant k) :=
  inferInstanceAs (Decidable (_ ∧ _ ∧ _))

/-- The account signed the transaction. -/
def signedBy (tx : Tx) (k : Pubkey) : Result Unit :=
  require (k ∈ tx.signers) (.runtime .missingRequiredSignature)

@[simp] theorem signedBy_eq_ok {tx : Tx} {k : Pubkey} {u : Unit} :
    signedBy tx k = .ok u ↔ k ∈ tx.signers := require_eq_ok

/-- Open an empty account at a fresh address that signs. -/
def createTokenAccount (s : Chain) (tx : Tx) (k mint owner : Pubkey) : Result Chain := do
  signedBy tx k
  require (s.vacant k) (.runtime .accountAlreadyInUse)
  let _ ← s.loadMint mint
  return { s with tokens := s.tokens.set k { mint, owner, amount := 0 } }

/-- `mint_to`: only the mint's authority makes new units. -/
def mintTo (s : Chain) (mint dst authority : Pubkey) (n : ℕ) : Result Chain := do
  let m ← s.loadMint mint
  let t ← s.loadToken dst
  require (t.mint = mint) (.runtime .mintMismatch)
  require (m.mintAuthority = some authority) (.runtime .fixedSupply)
  require (m.supply + n < 2 ^ 64) (.runtime .arithmeticOverflow)
  return { s with
    tokens := s.tokens.modify dst (TokenAccount.credit n)
    mints := s.mints.modify mint fun m => { m with supply := m.supply + n } }

end Chain

/-- What the system and token programs make of an action. -/
def External.apply (s : Chain) (tx : Tx) : External → Result Chain
  | .systemTransfer src dst amount => do
    Chain.signedBy tx src
    s.systemTransfer src dst amount.toNat
  | .assign account owner => do
    Chain.signedBy tx account
    require (s.owner account = .system) (.runtime .invalidAccountData)
    return { s with assigned := Function.update s.assigned account owner }
  | .createMint mint authority decimals => do
    Chain.signedBy tx mint
    require (s.vacant mint) (.runtime .accountAlreadyInUse)
    return { s with
      mints := s.mints.set mint ⟨0, decimals.toNat, some authority⟩ }
  | .createTokenAccount account mint owner => s.createTokenAccount tx account mint owner
  | .createAta authority mint => do
    let _ ← s.loadMint mint
    s.initAtaIfNeeded (.ata authority mint) mint authority
  | .mintTo mint dst authority amount => do
    Chain.signedBy tx authority
    s.mintTo mint dst authority amount.toNat
  | .setMintAuthority mint authority next => do
    Chain.signedBy tx authority
    let m ← s.loadMint mint
    require (m.mintAuthority = some authority) (.runtime .fixedSupply)
    return { s with mints := s.mints.set mint { m with mintAuthority := next } }
  | .tokenTransfer src mint dst authority amount => do
    Chain.signedBy tx authority
    let m ← s.loadMint mint
    s.transferChecked src mint dst authority amount.toNat m.decimals
  | .tokenBurn src mint authority amount => do
    Chain.signedBy tx authority
    s.burn src mint authority amount.toNat
  | .closeTokenAccount account dst authority => do
    Chain.signedBy tx authority
    s.closeAccount account dst authority
  | .setTokenOwner account authority next => do
    Chain.signedBy tx authority
    let t ← s.loadToken account
    require (t.owner = authority) (.runtime .ownerMismatch)
    return { s with tokens := s.tokens.set account { t with owner := next } }

/-- An instruction of the program or something outside of it. -/
inductive Action where
  | program (tx : Tx) (ix : Instruction)
  | external (tx : Tx) (e : External)

/-- One step of the chain. A failed one leaves it as it was. -/
def step (s : Chain) : Action → Result Chain
  | .program tx ix => ix.handle s tx
  | .external tx e => e.apply s tx

/-- A successful step of the chain. -/
abbrev Step := Done Chain Action

/-! ## Where runs begin -/

/-- The token program's books: the accounts of a mint hold its supply together, and supplies are
`u64`. An associated account opened for an address that never signs still belongs to it. -/
structure TokenBooks (M : Store Pubkey Mint) (T : Tokens) : Prop where
  supply : ∀ k m, M.get k = some m → heldOf T k = m.supply ∧ m.supply < 2 ^ 64
  minted : ∀ k t, T.get k = some t → (M.get t.mint).isSome
  ata : ∀ w k t, T.get (.ata w k) = some t → t.mint = k ∧ (w.isKey = false → t.owner = w)

/-- A chain before `initialize`: the program has no account, and all lamports there are fit in a
`u64`. -/
structure Genesis (s : Chain) : Prop where
  config : s.config = none
  pool : s.pool = none
  players : ∀ k, s.players.get k = none
  cards : ∀ k, s.cards.get k = none
  listings : ∀ k, s.listings.get k = none
  lamports : Bounded s.lamports (2 ^ 64)
  books : TokenBooks s.mints s.tokens

/-- A chain right after a successful `initialize` with the given rates. -/
structure InitializedWith (s : Chain) (a : Initialize) (burnBps poolBps marketFeeBps : UInt16)
    (listingFee : UInt64) : Prop where
  intro ::
  genesis : ∃ g tx, Genesis g ∧
    step g (.program tx (.initializeProgram a burnBps poolBps marketFeeBps listingFee)) = .ok s

/-- A chain right after a successful `initialize`, whatever the rates. -/
def Initialized (s : Chain) : Prop := ∃ a b p m l, InitializedWith s a b p m l

/-- The states of the runs that begin with a successful `initialize`. -/
def Reachable (s : Chain) : Prop := ∃ s₀ as, Initialized s₀ ∧ run step s₀ as = s

/-- **Every invariant of the program is proved this way:** it holds after `initialize` and every
step keeps it. -/
theorem Reachable.induction {P : Chain → Prop} (init : ∀ s, Initialized s → P s)
    (hstep : ∀ s a s', P s → step s a = .ok s' → P s') {s : Chain} (h : Reachable s) : P s := by
  obtain ⟨s₀, as, hi, rfl⟩ := h
  exact run_induction step (init s₀ hi) hstep as

/-- A run may be empty. -/
theorem Initialized.reachable {s : Chain} (h : Initialized s) : Reachable s := ⟨s, [], h, rfl⟩

/-- A run of a reachable chain ends in one. -/
theorem Reachable.run {s : Chain} (h : Reachable s) (as : List Action) :
    Reachable (run step s as) := by
  obtain ⟨s₀, bs, hi, rfl⟩ := h
  exact ⟨s₀, bs ++ as, hi, run_append⟩

end Pokeage
