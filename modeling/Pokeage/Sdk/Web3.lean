import Mathlib.Data.List.TakeWhile
import Pokeage.Infra.Codec

/-!
# web3.js

What the SDK uses of `@solana/web3.js`, as a parameter of the SDK's model: keys and the derivation of
addresses. Of it, the results use that a key made from 32 bytes has these bytes.
-/

namespace Pokeage.Sdk

open Infra

/-- What Node and web3 throw. -/
inductive JsError where
  | outOfRange
  | invalidPublicKey
  deriving DecidableEq, Repr

/-- `PublicKey` and its functions. -/
structure Web3 (PublicKey : Type) where
  /-- `new PublicKey(bytes)`. -/
  ofBytes : Bytes → Except JsError PublicKey
  /-- `new PublicKey(base58)`. -/
  ofBase58 : String → PublicKey
  toBytes : PublicKey → Bytes
  findProgramAddressSync : List Bytes → PublicKey → PublicKey × ℕ
  /-- `SystemProgram.programId`. -/
  systemProgram : PublicKey
  ofBytes_eq : ∀ key : Fixed 32, ∃ k, ofBytes key.bytes = .ok k ∧ toBytes k = key.bytes

/-- A key as the 32 bytes that `PublicKey` keeps: fewer are filled up from the left, and more are
refused unless the front ones are zero. -/
def keyOfBytes (bytes : Bytes) : Except JsError (Fixed 32) :=
  let number := bytes.dropWhile (· = 0)
  if h : 32 < number.length then .error .invalidPublicKey
  else .ok ⟨List.replicate (32 - number.length) 0 ++ number, by
    rw [List.length_append, List.length_replicate]
    omega⟩

/-- A key made from the bytes of a key is this key. -/
theorem keyOfBytes_fixed (key : Fixed 32) : keyOfBytes key.bytes = .ok key := by
  have split : List.replicate (32 - (key.bytes.dropWhile (· = 0)).length) 0 ++
      key.bytes.dropWhile (· = 0) = key.bytes := by
    have zeros : key.bytes.takeWhile (· = 0) =
        List.replicate (key.bytes.takeWhile (· = 0)).length 0 :=
      List.eq_replicate_of_mem fun b hb => by simpa using List.mem_takeWhile_imp hb
    have whole : key.bytes.takeWhile (· = 0) ++ key.bytes.dropWhile (· = 0) = key.bytes :=
      List.takeWhile_append_dropWhile
    have count := congrArg List.length whole
    rw [List.length_append, key.length_eq] at count
    have size : 32 - (key.bytes.dropWhile (· = 0)).length =
        (key.bytes.takeWhile (· = 0)).length := by omega
    rw [size, ← zeros]
    exact whole
  have small : ¬ 32 < (key.bytes.dropWhile (· = 0)).length := by
    have le := (List.dropWhile_sublist (l := key.bytes) (· = 0)).length_le
    rw [key.length_eq] at le
    exact Nat.not_lt.2 le
  unfold keyOfBytes
  dsimp only
  rw [dif_neg small]
  simp only [split]

/-- A base-58 numeral, the highest digit first. -/
def base58 (numeral : String) : ℕ :=
  let digits := "123456789ABCDEFGHJKLMNPQRSTUVWXYZabcdefghijkmnopqrstuvwxyz".toList
  numeral.toList.foldl (fun n c => 58 * n + digits.idxOf c) 0

/-- The key of an address: its number on 32 bytes, the highest first. -/
def keyOfBase58 (address : String) : Fixed 32 :=
  ⟨(le 32 (base58 address)).reverse, by rw [List.length_reverse, length_le]⟩

end Pokeage.Sdk
