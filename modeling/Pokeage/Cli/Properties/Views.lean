import Pokeage.Program.Properties.Lifecycle
import Pokeage.Sdk.Properties.Layouts

/-!
# What the client prints of an account

The client reads an account's bytes and derives what it shows: the labels of the pause flags, the badges
and their number. `player_view` follows a player from its calls through the account's bytes to the
screen.
-/

namespace Pokeage.Cli

open Infra Infra.Machine Infra.Mask Infra.Borsh
open Layout (Discriminator account)

/-! ## Bits -/

/-- A shifted one picks out its bit. -/
theorem and_shift_ne_zero {x : UInt16} {i : UInt8} (below : i.toNat < 16) :
    (x &&& (1 <<< i.toUInt16) != 0) = x.toNat.testBit i.toNat := by
  have shift : ((1 : UInt16) <<< i.toUInt16).toNat = 1 <<< i.toNat := by
    rw [UInt16.toNat_shiftLeft, UInt8.toNat_toUInt16, Nat.mod_eq_of_lt below]
    show 1 <<< i.toNat % 2 ^ 16 = _
    rw [Nat.one_shiftLeft]
    exact Nat.mod_eq_of_lt (Nat.pow_lt_pow_right (by decide) below)
  rw [Bool.eq_iff_iff, bne_iff_ne, ← and_bit_ne_zero, ← shift, ← UInt16.toNat_and, ne_eq, ne_eq,
    ← UInt16.toNat_inj]
  rfl

/-- Below the twelfth bit the mask of the count takes nothing away. -/
theorem countOnes_mask {x : UInt16} {is : List ℕ} (bits : x.toNat = mask is) (below : ∀ i ∈ is, i < 12) :
    PlayerState.countOnes (x &&& 0x0FFF) = is.dedup.length := by
  have low : (x &&& 0x0FFF).toNat = mask is := by
    rw [UInt16.toNat_and, bits]
    show mask is &&& (2 ^ 12 - 1) = mask is
    rw [Nat.and_two_pow_sub_one_eq_mod, Nat.mod_eq_of_lt (mask_lt below)]
  unfold PlayerState.countOnes
  rw [low]
  refine List.Perm.length_eq ((List.perm_ext_iff_of_nodup ?_ is.nodup_dedup).2 fun i => ?_)
  · exact List.nodup_range.filter _
  · rw [List.mem_filter, List.mem_range, testBit_mask, List.mem_dedup]
    constructor
    · exact fun h => h.2
    · intro h
      have := below i h
      exact ⟨by omega, h⟩

/-! ## A player -/

/-- The account type of the program with the numbers of a record. -/
structure Holds (L : Layout.PlayerState) (ps : Pokeage.PlayerState) : Prop where
  agentDeployed : L.agentDeployed = ps.agentDeployed
  totalCaught : L.totalCaught.toNat = ps.totalCaught
  gymWins : L.gymWins.toNat = ps.gymWins
  badges : L.badges.toNat = ps.badges
  lastAction : L.lastAction.toInt = ps.lastAction
  bump : L.bump.toNat = ps.bump

/-- What the client shows of a player that has made these calls. -/
structure Shows (v : PlayerState) (calls : List PlayerCall) : Prop where
  agentDeployed : v.agentDeployed = true
  totalCaught : v.totalCaught.toNat = calls.count .catchAttempt
  gymWins : v.gymWins.toNat = (challenged calls).length
  badgeCount : v.badgeCount = (challenged calls).dedup.length
  hasBadge : ∀ i : UInt8, v.hasBadge i = true ↔ .gymChallenge i.toNat ∈ calls

theorem shows_of_since {L : Layout.PlayerState} {ps : Pokeage.PlayerState} {rest : List PlayerCall}
    (holds : Holds L ps) (since : Since rest ps) :
    Shows (Sdk.cliPlayerState L) (.deployAgent :: rest) where
  agentDeployed := holds.agentDeployed.trans since.agent
  totalCaught := by
    rw [List.count_cons_of_ne (by decide), ← since.caught, ← holds.totalCaught]
    rfl
  gymWins := holds.gymWins.trans since.wins
  badgeCount := countOnes_mask (holds.badges.trans since.badges) since.inRange
  hasBadge i := by
    rw [List.mem_cons, or_iff_right (by simp), ← mem_challenged]
    unfold PlayerState.hasBadge
    by_cases outside : PlayerState.badgeTotal ≤ i
    · rw [if_pos outside]
      refine iff_of_false Bool.false_ne_true fun made => ?_
      have below : i.toNat < 12 := since.inRange i.toNat made
      have above : 12 ≤ i.toNat := outside
      omega
    · rw [if_neg outside]
      have below : i.toNat < 12 := Nat.lt_of_not_le fun above => outside above
      rw [and_shift_ne_zero (by omega)]
      show L.badges.toNat.testBit i.toNat = true ↔ _
      rw [holds.badges, since.badges, testBit_mask]

/-- **What the client prints of a player is what the player has done.** After any run, from the bytes of
the player's account: the agent as deployed, the catches and gym wins counted, the badges that were won
and the number of different ones. -/
theorem player_view (s₀ : Chain) (init : Initialized s₀) (k : Pubkey) (as : List Action)
    (ps : Pokeage.PlayerState) (record : (run step s₀ as).players.get k = some ps)
    (disc : Discriminator) (L : Layout.PlayerState) (holds : Holds L ps) :
    ∃ v, decodeAccount PlayerState.deserialize (account disc L.serialize) = .ok v ∧
      Shows v (callsBy k (trace step s₀ as)) := by
  have life := life_run init k as
  rw [record] at life
  refine ⟨_, decodeAccount_of_parses (Sdk.parses_player L) disc.length_eq, ?_⟩
  generalize callsBy k (trace step s₀ as) = calls at life ⊢
  cases life with
  | deployed since => exact shows_of_since holds since

/-- User 6 has deployed and won badge 3 twice: two wins, one badge. -/
theorem player_view_standard :
    ∃ v, decodeAccount PlayerState.deserialize (account ⟨List.replicate 8 0, rfl⟩
        (Layout.PlayerState.serialize ⟨⟨List.replicate 32 6, rfl⟩, true, 0, 2, 8, 0, 255⟩)) = .ok v ∧
      v.gymWins.toNat = 2 ∧ v.badgeCount = 1 := by
  have record : (run step Chain.standard careerOnStandard).players.get (.key 6) =
      some ⟨.key 6, true, 0, 2, 8, 0, 255⟩ := by decide +kernel
  have calls : callsBy (.key 6) (trace step Chain.standard careerOnStandard) =
      [.deployAgent, .gymChallenge 3, .gymChallenge 3] := by decide +kernel
  obtain ⟨v, decoded, shows⟩ := player_view Chain.standard Chain.initialized_standard (.key 6)
    careerOnStandard _ record ⟨List.replicate 8 0, rfl⟩
    ⟨⟨List.replicate 32 6, rfl⟩, true, 0, 2, 8, 0, 255⟩ ⟨rfl, rfl, rfl, rfl, rfl, rfl⟩
  rw [calls] at shows
  exact ⟨v, decoded, shows.gymWins, shows.badgeCount⟩

end Pokeage.Cli
