import Pokeage.Program.Step

/-!
# Opening a chain

A genesis chain from a list of funded addresses and a token mint without supply, and the chain that
a valid `initialize` makes of it. Everything else a run needs is done by its own steps.
-/

namespace Pokeage

open Infra Infra.Balance Infra.Machine

/-- A transaction signed by the given keys. -/
def Tx.by (signers : List ℕ) (now : ℤ) : Tx where
  signers := signers.map .key
  now := now
  keys := by
    intro k hk
    obtain ⟨n, -, rfl⟩ := List.mem_map.mp hk
    rfl

namespace Chain

/-- The chain with the given funds and one empty mint, and no record of the program. The addresses in
`assigned` have been handed to it. -/
def opening (funds : List (Pubkey × ℕ)) (assigned : List Pubkey) (mint authority : Pubkey) :
    Chain where
  lamports k := (funds.lookup k).getD 0
  assigned k := if k ∈ assigned then .pokeage else .system
  bumpOf _ := 255
  config := none
  pool := none
  players := .empty
  cards := .empty
  listings := .empty
  mints := Store.empty.set mint { supply := 0, decimals := 6, mintAuthority := some authority }
  tokens := .empty
  events := []

/-- The listed funds cover any set of addresses. -/
theorem sum_lookup_le (funds : List (Pubkey × ℕ)) (S : Finset Pubkey) :
    ∑ k ∈ S, (funds.lookup k).getD 0 ≤ (funds.map Prod.snd).sum := by
  induction funds with
  | nil => simp
  | cons kn funds ih =>
    obtain ⟨j, n⟩ := kn
    have hle : ∀ k ∈ S, (((j, n) :: funds).lookup k).getD 0
        ≤ (if k = j then n else 0) + (funds.lookup k).getD 0 := by
      intro k _
      by_cases hk : k = j
      · subst hk; simp
      · simp [List.lookup_cons, beq_eq_false_iff_ne.mpr hk]
    have hone : ∑ k ∈ S, (if k = j then n else 0) ≤ n := by
      rw [Finset.sum_ite_eq' S j]
      split <;> omega
    have hsum := Finset.sum_le_sum hle
    rw [Finset.sum_add_distrib] at hsum
    simp only [List.map_cons, List.sum_cons]
    omega

/-- An opening with funds that fit in a `u64` is a chain before `initialize`. -/
theorem genesis_opening {funds : List (Pubkey × ℕ)} (h : (funds.map Prod.snd).sum < 2 ^ 64)
    (assigned : List Pubkey) (mint authority : Pubkey) :
    Genesis (opening funds assigned mint authority) where
  config := rfl
  pool := rfl
  players _ := rfl
  cards _ := rfl
  listings _ := rfl
  lamports S := lt_of_le_of_lt (sum_lookup_le funds S) h
  books := by
    refine ⟨?_, ?_, ?_⟩
    · intro k m hm
      simp only [opening, Store.get_set, Store.get_empty] at hm
      split at hm
      · cases hm
        exact ⟨rfl, Nat.two_pow_pos 64⟩
      · cases hm
    · intro k t ht
      cases ht
    · intro w k t ht
      cases ht

/-- The chain a valid `initialize` by `authority` makes of the opening chain. -/
def opened (funds : List (Pubkey × ℕ)) (assigned : List Pubkey) (authority : ℕ)
    (pageMint treasury buybackVault : Pubkey) (burnBps poolBps marketFeeBps : UInt16)
    (listingFee : UInt64) : Chain :=
  exec step (opening funds assigned pageMint (.key authority)) <|
    .program (.by [authority] 0) <| .initializeProgram
      { authority := .key authority, config := .config, buybackPool := .buybackPool, pageMint,
        treasury, buybackVault } burnBps poolBps marketFeeBps listingFee

/-- `initialize` succeeds on an opening. -/
theorem initializedWith_opened {funds : List (Pubkey × ℕ)} {assigned : List Pubkey} {authority : ℕ}
    {pageMint treasury buybackVault : Pubkey} {b p m : UInt16} {l : UInt64}
    (hf : (funds.map Prod.snd).sum < 2 ^ 64) (hsum : b.toNat + p.toNat = 10000)
    (hm : m.toNat ≤ 2000) :
    InitializedWith (opened funds assigned authority pageMint treasury buybackVault b p m l)
      { authority := .key authority, config := .config, buybackPool := .buybackPool, pageMint,
        treasury, buybackVault } b p m l := by
  refine ⟨_, _, genesis_opening hf assigned pageMint (.key authority), step_exec ?_⟩
  simp [step, Instruction.handle, initializeHandler, Tx.signed, Tx.by, require, opening, loadMint,
    checkedAdd, hsum, hm, bpsDenom, Except.isOk, Except.toBool, pure, Except.pure]

/-- A chain with the default rates: authority 1, $PAGE mint 2, treasury 3 and vault 4, both handed to
the program, and two funded users 6 and 7. -/
def standard : Chain :=
  opened [(.key 6, 1000000000000), (.key 7, 1000000000000)] [.key 3, .key 4] 1 (.key 2) (.key 3) (.key 4)
    7000 3000 500 10000000

theorem initialized_standard : Initialized standard :=
  ⟨_, _, _, _, _, initializedWith_opened (by decide) (by decide) (by decide)⟩

end Chain

/-- Open a token account of $PAGE for an owner and mint tokens into it. -/
def fundTokens (account owner : ℕ) (amount : UInt64) : List Action :=
  [.external (.by [account] 0) (.createTokenAccount (.key account) (.key 2) (.key owner)),
   .external (.by [1] 0) (.mintTo (.key 2) (.key account) (.key 1) amount)]

/-- Open a token mint without decimals, an account of it and a supply in that account, all by `owner`. -/
def openCard (mint account owner : ℕ) (supply : UInt64) : List Action :=
  [.external (.by [mint] 0) (.createMint (.key mint) (.key owner) 0),
   .external (.by [account] 0) (.createTokenAccount (.key account) (.key mint) (.key owner)),
   .external (.by [owner] 0) (.mintTo (.key mint) (.key account) (.key owner) supply)]

/-- Mint a card of the given tier for user 6 on the standard chain. -/
def mintOnStandard (cardMint : Pubkey) (tier : UInt8) : Action :=
  .program (.by [6] 0) (.mintCard
    { payer := .key 6, config := .config, buybackPool := .buybackPool, cardMint,
      cardMeta := .card cardMint, buybackVault := .key 4, treasury := .key 3 } tier 1 5)

/-- Fund the pool's token account 10 and the user's account 9 with two thousand tokens. -/
def fundSink : List Action := fundTokens 10 1 0 ++ fundTokens 9 6 2000000000

/-- User 6 deploys an agent, paying from account 9. -/
def deployOnStandard (poolToken : Pubkey) : Action :=
  .program (.by [6] 0) (.deployAgent
    { player := .key 6, playerState := .player (.key 6), config := .config, pageMint := .key 2,
      playerToken := .key 9, poolToken })

/-- Fund the pool by minting a card of the top tier and open the instant-sell gate at a floor of a
tenth of a SOL. -/
def openBuyback : List Action :=
  [mintOnStandard (.key 8) 5,
   .program (.by [1] 0) (.updateFloor
    { authority := .key 1, config := .config, buybackPool := .buybackPool } 100000000),
   .program (.by [1] 0) (.setInstantSell
    { authority := .key 1, config := .config, buybackPool := .buybackPool } true)]

/-- Sell one unit of a mint to the pool. -/
def sellOnStandard (mint account seller : ℕ) : Action :=
  .program (.by [seller] 0) (.instantSell
    { seller := .key seller, config := .config, buybackPool := .buybackPool,
      cardMint := .key mint, sellerCard := .key account,
      vaultCard := .ata (.key 4) (.key mint), buybackVault := .key 4 })

/-- List one unit of a mint, paid and signed by its holder. -/
def listOnStandard (mint account seller : ℕ) (price : UInt64) : Action :=
  .program (.by [seller] 0) (.listCard
    { seller := .key seller, config := .config, buybackPool := .buybackPool,
      cardMint := .key mint, listing := .listing (.key mint), sellerCard := .key account,
      escrowCard := .ata (.listing (.key mint)) (.key mint), buybackVault := .key 4 } price 2 5 1)

/-- Cancel a listing out of the given escrow account. -/
def cancelOnStandard (mint account seller : ℕ) (escrowCard : Pubkey) : Action :=
  .program (.by [seller] 0) (.cancelListing
    { seller := .key seller, listing := .listing (.key mint), cardMint := .key mint,
      sellerCard := .key account, escrowCard })

/-- The accounts of a purchase out of a listing's associated account. -/
def buyAccounts (mint buyer seller : ℕ) (treasury : Pubkey) : BuyCard where
  buyer := .key buyer
  config := .config
  buybackPool := .buybackPool
  listing := .listing (.key mint)
  seller := .key seller
  cardMint := .key mint
  buyerCard := .ata (.key buyer) (.key mint)
  escrowCard := .ata (.listing (.key mint)) (.key mint)
  buybackVault := .key 4
  treasury := treasury

/-- Buy one unit of a mint. -/
def buyOnStandard (mint buyer seller : ℕ) (treasury : Pubkey) : Action :=
  .program (.by [buyer] 0) (.buyCard (buyAccounts mint buyer seller treasury))

end Pokeage
