/-
Module: LanAuth.Proofs.Halves
Layer: Proofs
Purpose: The two halves of a LAN Manager password stand alone. Each half of the one-way function is made from
  one half of the material, so it can be compared with any half of any other password. A password of at
  most seven bytes leaves the second half empty, and that shows: in a half of the hash that is the same for
  all such passwords, and in the last block of every response.
Imports: LanAuth.Proofs.ChunkLocality, LanAuth.Proofs.Response, LanAuth.Proofs.Des.ConstantKey,
  LanAuth.Proofs.Des.Evaluation
Trusted boundary: none
Main exports: LanMan.encrypt_magic_of_empty, LanMan.chunk_of_short, LanMan.second_half_of_short,
  LanMan.last_block_of_short, LanMan.halves_stand_alone
Open obligations: none
-/
import LanAuth.Proofs.ChunkLocality
import LanAuth.Proofs.Response
import LanAuth.Proofs.Des.ConstantKey
import LanAuth.Proofs.Des.Evaluation

namespace LanAuth.LanMan

open Text (uppercase)

/-- The half of a hash that stands for an empty half of a password. -/
def emptyHalf : Vector UInt8 8 := #v[0xaa, 0xd3, 0xb4, 0x35, 0xb5, 0x14, 0x04, 0xee]

/-!
### The empty half
-/

theorem encrypt_magic_of_empty : Des.encrypt (Des.spread (fit 7 [])) magic = emptyHalf := by
  have scheduled : Des.subkeys (Bits.ofBytes (Des.spread (fit 7 []))) =
      List.replicate 16 (Vector.replicate 48 false) := by
    have zeros : fit 7 [] = Vector.replicate 7 0 := fit_zeros 7 0
    rw [zeros]
    exact Des.subkeys_spread_replicate (by decide)
  apply Des.encrypt_eq_of_listed scheduled
  decide +kernel

theorem end_of_emptyHalf {hash : Vector UInt8 16} (half : blockAt (1 : Fin 2) hash = emptyHalf) :
    hash.toList.drop 14 = [0x04, 0xee] := by
  have first : (blockAt (1 : Fin 2) hash)[6] = emptyHalf[6] := by rw [half]
  have second : (blockAt (1 : Fin 2) hash)[7] = emptyHalf[7] := by rw [half]
  have byte : hash[14] = 0x04 := by simpa [blockAt, emptyHalf] using first
  have byte' : hash[15] = 0xee := by simpa [blockAt, emptyHalf] using second
  rw [drop_fourteen, byte, byte']

section Short

variable {password : String} (short : (Text.Latin1.encode (uppercase password)).length ≤ 7)
include short

theorem chunk_of_short :
    chunk (fit 14 (Text.Latin1.encode (uppercase password))).toList 1 = fit 7 [] := by
  have nothing : (Text.Latin1.encode (uppercase password)).drop 7 = [] := List.drop_of_length_le short
  rw [chunk_fit (by decide)]
  exact congrArg (fit 7) nothing

theorem second_half_of_short (block : Vector UInt8 8) :
    blockAt (1 : Fin 2)
        (chain (fit 14 (Text.Latin1.encode (uppercase password))).toList block 2) =
      Des.encrypt (Des.spread (fit 7 [])) block := by
  have place : (1 : Fin 2).val = 1 := rfl
  rw [blockAt_chain, chunkKey, place, chunk_of_short short]

/-- The last chunk of the extended hash is the end of the half that stands for an empty one. -/
theorem last_block_of_short (challenge : Challenge) :
    blockAt (2 : Fin 3) (chain (extendHash
        (chain (fit 14 (Text.Latin1.encode (uppercase password))).toList magic 2)).toList
        challenge 3) =
      Des.encrypt (Des.spread (fit 7 [0x04, 0xee])) challenge := by
  have half := second_half_of_short short magic
  rw [encrypt_magic_of_empty] at half
  rw [last_block_extendHash, end_of_emptyHalf half]

end Short

/-- Each half of the one-way function is decided by one half of the material: equal halves, in the same place
    or not, of the same password or not, give equal halves. So a password of at most seven bytes has the
    first half of the password without characters as its second, its hash ends in the same eight bytes as
    that of every such password, and so does its response to every challenge. -/
theorem halves_stand_alone :
    (∀ (password password' : String) (seed : Vector UInt8 8),
        ∃ (material material' : Vector UInt8 14) (halves halves' : Vector UInt8 16),
      keyMaterial password = .ok material ∧
      keyMaterial password' = .ok material' ∧
      (oneWay password seed).outcome = .ok halves ∧
      (oneWay password' seed).outcome = .ok halves' ∧
      ∀ i j : Fin 2,
        material.toList.extract (7 * i) (7 * i + 7) = material'.toList.extract (7 * j) (7 * j + 7) →
        blockAt i halves = blockAt j halves') ∧
    (∀ password : String, (Text.Latin1.encode (uppercase password)).length ≤ 7 →
      (∀ seed : Vector UInt8 8, ∃ halves empty : Vector UInt8 16,
        (oneWay password seed).outcome = .ok halves ∧
        (oneWay "" seed).outcome = .ok empty ∧
        blockAt (1 : Fin 2) halves = blockAt (0 : Fin 2) empty) ∧
      ∃ hash : Vector UInt8 16, (LanMan.hash password).outcome = .ok hash ∧
        blockAt (1 : Fin 2) hash = #v[0xaa, 0xd3, 0xb4, 0x35, 0xb5, 0x14, 0x04, 0xee]) ∧
    ∀ challenge : Challenge, ∃ last : Vector UInt8 8,
      ∀ (password : String) (username domain : Option String),
        (Text.Latin1.encode (uppercase password)).length ≤ 7 →
        ∃ response : Vector UInt8 24,
          (respond .lanMan password challenge.toList username domain).outcome =
            .ok response.toList ∧
          blockAt (2 : Fin 3) response = last := by
  refine ⟨?_, ?_, ?_⟩
  · intro password password' seed
    refine ⟨_, _, _, _, keyMaterial_eq password, keyMaterial_eq password',
      oneWay_outcome password seed, oneWay_outcome password' seed, ?_⟩
    intro i j same
    exact blockAt_chain_congr i j (chunk_congr same) seed
  · intro password short
    constructor
    · intro seed
      refine ⟨_, _, oneWay_outcome password seed, oneWay_empty_outcome seed, ?_⟩
      rw [second_half_of_short short, first_block_of_empty]
    · refine ⟨_, oneWay_outcome password magic, ?_⟩
      rw [second_half_of_short short, encrypt_magic_of_empty, emptyHalf]
  · intro challenge
    refine ⟨Des.encrypt (Des.spread (fit 7 [0x04, 0xee])) challenge, ?_⟩
    intro password username domain short
    have sent := respond_lanMan password username domain (keyMaterial_eq password) challenge
    exact ⟨_, congrArg Traced.outcome sent, last_block_of_short short challenge⟩

/-- The second half of one password is the first half of another; and the uppercase of one with six
    characters just fills the first half. -/
theorem halves_stand_alone_secret :
    (fit 14 (Text.Latin1.encode (uppercase "0123456Secret"))).toList.extract 7 14 =
      (fit 14 (Text.Latin1.encode (uppercase "secreT"))).toList.extract 0 7 ∧
    (∃ halves halves' : Vector UInt8 16,
      (oneWay "0123456Secret" magic).outcome = .ok halves ∧
      (oneWay "secreT" magic).outcome = .ok halves' ∧
      blockAt (1 : Fin 2) halves = blockAt (0 : Fin 2) halves') ∧
    (Text.Latin1.encode (uppercase "Straße")).length ≤ 7 ∧
    (∃ hash : Vector UInt8 16, (LanMan.hash "Straße").outcome = .ok hash ∧
      blockAt (1 : Fin 2) hash = #v[0xaa, 0xd3, 0xb4, 0x35, 0xb5, 0x14, 0x04, 0xee]) ∧
    ∃ response response' : Vector UInt8 24,
      (respond .lanMan "Straße" [1, 2, 3, 4, 5, 6, 7, 8] none none).outcome = .ok response.toList ∧
      (respond .lanMan "secreT" [1, 2, 3, 4, 5, 6, 7, 8] none none).outcome = .ok response'.toList ∧
      blockAt (2 : Fin 3) response = blockAt (2 : Fin 3) response' := by
  obtain ⟨compare, alone, answered⟩ := halves_stand_alone
  have same : (fit 14 (Text.Latin1.encode (uppercase "0123456Secret"))).toList.extract 7 14 =
      (fit 14 (Text.Latin1.encode (uppercase "secreT"))).toList.extract 0 7 := by decide +kernel
  have short : (Text.Latin1.encode (uppercase "Straße")).length ≤ 7 := by decide +kernel
  have short' : (Text.Latin1.encode (uppercase "secreT")).length ≤ 7 := by decide +kernel
  refine ⟨same, ?_, short, (alone _ short).2, ?_⟩
  · obtain ⟨material, material', halves, halves', made, made', hashed, hashed', agree⟩ :=
      compare "0123456Secret" "secreT" magic
    cases made
    cases made'
    exact ⟨halves, halves', hashed, hashed', agree 1 0 same⟩
  · obtain ⟨last, agree⟩ := answered #v[1, 2, 3, 4, 5, 6, 7, 8]
    obtain ⟨response, sent, block⟩ := agree "Straße" none none short
    obtain ⟨response', sent', block'⟩ := agree "secreT" none none short'
    exact ⟨response, response', sent, sent', block.trans block'.symm⟩

end LanAuth.LanMan
