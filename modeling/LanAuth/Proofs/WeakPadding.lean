/-
Module: LanAuth.Proofs.WeakPadding
Layer: Proofs
Purpose: Padding makes weak keys. Where zeros fill a whole chunk of the material, as behind a short password
  or a hash that ends in zeros, the block at its place is encrypted under a key that undoes itself, so the
  block, taken as the next input, gives the input back. Seven bytes with all bits set do the same.
Imports: LanAuth.Proofs.Halves, LanAuth.Proofs.Des.WeakKey
Trusted boundary: none
Main exports: Des.encrypt_spread_zeros_involutive, blockAt_chain_involutive,
  padded_blocks_undo_themselves
Open obligations: none
-/
import LanAuth.Proofs.Halves
import LanAuth.Proofs.Des.WeakKey

namespace LanAuth

open Text (uppercase)

/-- Zeros, whether they were there or were filled in. -/
theorem Des.encrypt_spread_zeros_involutive (count : Nat) :
    Function.Involutive (encrypt (spread (fit 7 (List.replicate count 0)))) := by
  have clear : ∀ j < 8, (0 : UInt8).toBitVec.getMsbD j = false := by decide
  rw [fit_zeros]
  exact encrypt_spread_replicate_involutive clear

/-- Under such a key, a block that is taken as the next input gives back the input that it came from. -/
theorem blockAt_chain_involutive {n : Nat} {material : List UInt8} {place : Fin n}
    (weak : Function.Involutive (Des.encrypt (chunkKey material place))) (block : Vector UInt8 8) :
    blockAt place (chain material (blockAt place (chain material block n)) n) = block := by
  rw [blockAt_chain, blockAt_chain]
  exact weak block

/-- Where a chunk is filled with zeros, or with set bits, the block at its place gives the input back when it
    is the input. So it is with the second half of the one-way function for every password of at most seven
    bytes, and with the last block of an answer from a hash that ends in two zeros, or from material that
    ends in seven. -/
theorem padded_blocks_undo_themselves :
    (∀ password : String, (Text.Latin1.encode (uppercase password)).length ≤ 7 →
      ∀ seed : Vector UInt8 8, ∃ halves again : Vector UInt8 16,
        (LanMan.oneWay password seed).outcome = .ok halves ∧
        (LanMan.oneWay password (blockAt (1 : Fin 2) halves)).outcome = .ok again ∧
        blockAt (1 : Fin 2) again = seed) ∧
    (∀ hash : Vector UInt8 16, hash.toList.drop 14 = List.replicate 2 0 →
      ∀ challenge : Challenge, ∃ response again : Vector UInt8 24,
        (answer (extendHash hash) challenge).outcome = .ok response ∧
        (answer (extendHash hash) (blockAt (2 : Fin 3) response)).outcome = .ok again ∧
        blockAt (2 : Fin 3) again = challenge) ∧
    ∀ material : Vector UInt8 21,
      material.toList.drop 14 = List.replicate 7 0 ∨
        material.toList.drop 14 = List.replicate 7 0xff →
      ∀ challenge : Challenge, ∃ response again : Vector UInt8 24,
        (answer material challenge).outcome = .ok response ∧
        (answer material (blockAt (2 : Fin 3) response)).outcome = .ok again ∧
        blockAt (2 : Fin 3) again = challenge := by
  refine ⟨?_, ?_, ?_⟩
  · intro password short seed
    refine ⟨_, _, LanMan.oneWay_outcome password seed, LanMan.oneWay_outcome password _, ?_⟩
    apply blockAt_chain_involutive
    have place : (1 : Fin 2).val = 1 := rfl
    rw [chunkKey, place, LanMan.chunk_of_short short]
    exact Des.encrypt_spread_zeros_involutive 0
  · intro hash zeros challenge
    refine ⟨_, _, answer_outcome _ challenge, answer_outcome _ _, ?_⟩
    apply blockAt_chain_involutive
    have place : (2 : Fin 3).val = 2 := rfl
    rw [chunkKey, place, chunk_extendHash, zeros]
    exact Des.encrypt_spread_zeros_involutive 2
  · intro material filled challenge
    refine ⟨_, _, answer_outcome material challenge, answer_outcome material _, ?_⟩
    apply blockAt_chain_involutive
    have place : (2 : Fin 3).val = 2 := rfl
    rw [chunkKey, place, chunk]
    rcases filled with zeros | ones
    · rw [zeros]
      exact Des.encrypt_spread_zeros_involutive 7
    · have set : ∀ j < 8, (0xff : UInt8).toBitVec.getMsbD j = true := by decide
      have whole : fit 7 (List.replicate 7 0xff) = Vector.replicate 7 0xff := by decide
      rw [ones, whole]
      exact Des.encrypt_spread_replicate_involutive set

/-- Six characters that become seven, a hash that ends in zeros, and material that ends in set bits. -/
theorem padded_blocks_undo_themselves_strasse :
    (Text.Latin1.encode (uppercase "Straße")).length ≤ 7 ∧
    (#v[1, 2, 3, 4, 5, 6, 7, 8, 9, 10, 11, 12, 13, 14, 0, 0] : Vector UInt8 16).toList.drop 14 =
      List.replicate 2 0 ∧
    (Vector.replicate 21 (0xff : UInt8)).toList.drop 14 = List.replicate 7 0xff ∧
    (∃ halves again : Vector UInt8 16,
      (LanMan.oneWay "Straße" LanMan.magic).outcome = .ok halves ∧
      (LanMan.oneWay "Straße" (blockAt (1 : Fin 2) halves)).outcome = .ok again ∧
      blockAt (1 : Fin 2) again = LanMan.magic) ∧
    (∃ response again : Vector UInt8 24,
      (answer (extendHash #v[1, 2, 3, 4, 5, 6, 7, 8, 9, 10, 11, 12, 13, 14, 0, 0])
        #v[8, 7, 6, 5, 4, 3, 2, 1]).outcome = .ok response ∧
      (answer (extendHash #v[1, 2, 3, 4, 5, 6, 7, 8, 9, 10, 11, 12, 13, 14, 0, 0])
        (blockAt (2 : Fin 3) response)).outcome = .ok again ∧
      blockAt (2 : Fin 3) again = #v[8, 7, 6, 5, 4, 3, 2, 1]) ∧
    ∃ response again : Vector UInt8 24,
      (answer (Vector.replicate 21 0xff) #v[8, 7, 6, 5, 4, 3, 2, 1]).outcome = .ok response ∧
      (answer (Vector.replicate 21 0xff) (blockAt (2 : Fin 3) response)).outcome = .ok again ∧
      blockAt (2 : Fin 3) again = #v[8, 7, 6, 5, 4, 3, 2, 1] := by
  obtain ⟨halved, extended, filled⟩ := padded_blocks_undo_themselves
  have short : (Text.Latin1.encode (uppercase "Straße")).length ≤ 7 := by decide +kernel
  have zeros : (#v[1, 2, 3, 4, 5, 6, 7, 8, 9, 10, 11, 12, 13, 14, 0, 0] :
      Vector UInt8 16).toList.drop 14 = List.replicate 2 0 := rfl
  have ones : (Vector.replicate 21 (0xff : UInt8)).toList.drop 14 = List.replicate 7 0xff := by
    decide
  exact ⟨short, zeros, ones, halved _ short _, extended _ zeros _, filled _ (.inr ones) _⟩

end LanAuth
