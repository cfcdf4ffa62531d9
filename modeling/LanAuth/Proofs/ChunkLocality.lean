/-
Module: LanAuth.Proofs.ChunkLocality
Layer: Proofs
Purpose: Where a block of an answer comes from. A block is made from the chunk at its own place and from
  nothing else, wherever that place is, so equal chunks give equal blocks, and chunks in another order give
  the blocks in that order. The one-way function is the same chain, cut off after two chunks.
Imports: LanAuth.Proofs.Fit, LanAuth.Proofs.Chaining
Trusted boundary: none
Main exports: rearrange, getElem_chunk, chunk_fit, chunk_congr, chunk_extendHash, blockAt_chain_congr,
  eq_of_blockAt, chain_rearrange, chain_append, blocks_follow_their_chunks
Open obligations: none
-/
import LanAuth.Proofs.Fit
import LanAuth.Proofs.Chaining

namespace LanAuth

theorem byte_of_piece_lt {size n : Nat} (place : Fin n) (i : Fin (size * n)) :
    size * place.val + i.val % size < size * n := by
  have nonempty : 0 < size := Nat.pos_of_mul_pos_right (Nat.zero_lt_of_lt i.isLt)
  calc size * place.val + i.val % size
      < size * place.val + size := Nat.add_lt_add_left (Nat.mod_lt i.val nonempty) _
    _ = size * (place.val + 1) := rfl
    _ ≤ size * n := Nat.mul_le_mul_left size place.isLt

/-- Bytes in pieces of `size` bytes each, with the piece from `source place` at each place. -/
def rearrange (size : Nat) {n : Nat} (source : Fin n → Fin n) (bytes : Vector UInt8 (size * n)) :
    Vector UInt8 (size * n) :=
  Vector.ofFn fun i =>
    have place : i.val / size < n := Nat.div_lt_of_lt_mul i.isLt
    have within := byte_of_piece_lt (source ⟨i.val / size, place⟩) i
    bytes[size * (source ⟨i.val / size, place⟩).val + i.val % size]

/-!
### Chunks

A chunk is told by the seven bytes in its range.
-/

theorem chunk_congr {material material' : List UInt8} {i j : Nat}
    (same : material.extract (7 * i) (7 * i + 7) = material'.extract (7 * j) (7 * j + 7)) :
    chunk material i = chunk material' j := by
  rw [List.extract_eq_take_drop, List.extract_eq_take_drop, Nat.add_sub_cancel_left,
    Nat.add_sub_cancel_left] at same
  unfold chunk
  rw [← fit_take, same, fit_take]

theorem getElem_chunk {n : Nat} (material : Vector UInt8 (7 * n)) (place : Fin n) {i : Nat}
    (hi : i < 7) : (chunk material.toList place)[i] = material[7 * place.val + i] := by
  have within : 7 * place.val + 7 ≤ material.toList.length := by
    rw [Vector.length_toList]
    omega
  unfold chunk
  rw [getElem_fit_drop within hi, Vector.getElem_toList]

theorem chunk_fit {n place : Nat} (within : 7 * place + 7 ≤ n) (bytes : List UInt8) :
    chunk (fit n bytes).toList place = fit 7 (bytes.drop (7 * place)) := by
  apply fit_congr
  intro i hi
  have inside : 7 * place + i < n := by omega
  rw [List.getD_eq_getElem?_getD, List.getElem?_drop]
  simp [inside, getElem_fit]

theorem chunk_append_of_le {front : List UInt8} {place : Nat}
    (within : 7 * place + 7 ≤ front.length) (back : List UInt8) :
    chunk (front ++ back) place = chunk front place := by
  unfold chunk
  rw [List.drop_append_of_le_length (by omega)]
  apply fit_append_of_le
  rw [List.length_drop]
  omega

/-- The last chunk of an extended hash holds the end of the hash. -/
theorem chunk_extendHash (hash : Vector UInt8 16) :
    chunk (extendHash hash).toList 2 = fit 7 (hash.toList.drop 14) := by
  unfold extendHash
  exact chunk_fit (by decide) hash.toList

theorem drop_fourteen (hash : Vector UInt8 16) : hash.toList.drop 14 = [hash[14], hash[15]] := by
  apply List.ext_getElem
  · rw [List.length_drop, Vector.length_toList]
    rfl
  · intro i hi hi'
    match i, hi' with
    | 0, _ => simp
    | 1, _ => simp

theorem chunk_rearrange {n : Nat} (source : Fin n → Fin n) (material : Vector UInt8 (7 * n))
    (place : Fin n) :
    chunk (rearrange 7 source material).toList place = chunk material.toList (source place) := by
  refine Vector.ext fun i hi => ?_
  have quotient : (7 * place.val + i) / 7 = place.val := by omega
  have remainder : i % 7 = i := Nat.mod_eq_of_lt hi
  rw [getElem_chunk _ place hi, getElem_chunk _ (source place) hi]
  simp [rearrange, quotient, remainder]

/-!
### Blocks
-/

theorem blockAt_rearrange {n : Nat} (source : Fin n → Fin n) (bytes : Vector UInt8 (8 * n))
    (place : Fin n) : blockAt place (rearrange 8 source bytes) = blockAt (source place) bytes := by
  refine Vector.ext fun i hi => ?_
  have quotient : (8 * place.val + i) / 8 = place.val := by omega
  have remainder : i % 8 = i := Nat.mod_eq_of_lt hi
  simp [blockAt, rearrange, quotient, remainder]

/-- Bytes are told by their blocks. -/
theorem eq_of_blockAt {n : Nat} {bytes bytes' : Vector UInt8 (8 * n)}
    (same : ∀ place : Fin n, blockAt place bytes = blockAt place bytes') : bytes = bytes' := by
  refine Vector.ext fun i hi => ?_
  have place : i / 8 < n := Nat.div_lt_of_lt_mul hi
  have here : (blockAt ⟨i / 8, place⟩ bytes)[i % 8] = (blockAt ⟨i / 8, place⟩ bytes')[i % 8] := by
    rw [same]
  simpa [blockAt, Nat.div_add_mod] using here

theorem blockAt_chain_congr {n n' : Nat} {material material' : List UInt8} (i : Fin n) (j : Fin n')
    (same : chunk material i = chunk material' j) (block : Vector UInt8 8) :
    blockAt i (chain material block n) = blockAt j (chain material' block n') := by
  rw [blockAt_chain, blockAt_chain, chunkKey, chunkKey, same]

theorem chain_rearrange {n : Nat} (source : Fin n → Fin n) (material : Vector UInt8 (7 * n))
    (block : Vector UInt8 8) :
    chain (rearrange 7 source material).toList block n =
      rearrange 8 source (chain material.toList block n) := by
  apply eq_of_blockAt
  intro place
  rw [blockAt_rearrange]
  exact blockAt_chain_congr place (source place) (chunk_rearrange source material place) block

theorem chain_append {front : List UInt8} {n : Nat} (enough : 7 * n ≤ front.length)
    (back : List UInt8) (block : Vector UInt8 8) :
    chain (front ++ back) block n = chain front block n := by
  apply eq_of_blockAt
  intro place
  have within : 7 * place.val + 7 ≤ front.length := by omega
  exact blockAt_chain_congr place place (chunk_append_of_le within back) block

/-- The last block of an answer from a hash is encrypted under the last two bytes of the hash. -/
theorem last_block_extendHash (hash : Vector UInt8 16) (block : Vector UInt8 8) :
    blockAt (2 : Fin 3) (chain (extendHash hash).toList block 3) =
      Des.encrypt (Des.spread (fit 7 (hash.toList.drop 14))) block := by
  have place : (2 : Fin 3).val = 2 := rfl
  rw [blockAt_chain, chunkKey, place, chunk_extendHash]

theorem first_block_of_empty (block : Vector UInt8 8) :
    blockAt (0 : Fin 2) (chain (fit 14 []).toList block 2) =
      Des.encrypt (Des.spread (fit 7 [])) block := by
  have place : (0 : Fin 2).val = 0 := rfl
  have empty : chunk (fit 14 []).toList 0 = fit 7 [] := chunk_fit (by decide) []
  rw [blockAt_chain, chunkKey, place, empty]

/-- The one-way function goes through material with seven zeros behind it as an answer does, but for the last
    chunk, which is that of the password without characters. -/
theorem chain_append_zeros (material : Vector UInt8 14) (block : Vector UInt8 8) :
    chain (material ++ Vector.replicate 7 (0 : UInt8)).toList block 3 =
      chain material.toList block 2 ++ blockAt (0 : Fin 2) (chain (fit 14 []).toList block 2) := by
  have length : material.toList.length = 14 := Vector.length_toList
  have behind : chunk (material.toList ++ List.replicate 7 0) 2 = fit 7 [] := by
    unfold chunk
    rw [List.drop_left' length]
    exact fit_append_zeros 7 [] 7
  rw [Vector.toList_append, Vector.toList_replicate, chain_succ, chain_append (by omega), chunkKey,
    behind, first_block_of_empty]

/-!
### Answers
-/

/-- A password without characters has nothing but zeros for its material. -/
theorem LanMan.oneWay_empty_outcome (seed : Vector UInt8 8) :
    (oneWay "" seed).outcome = .ok (chain (fit 14 []).toList seed 2) :=
  oneWay_outcome "" seed

/-- Each block of an answer is decided by the chunk at its place: equal chunks, at whatever places of the same
    or of another material, give equal blocks. So chunks in another order, or used more than once, give the
    blocks in that order; the last block of an answer from a hash depends on the last two bytes of the hash
    alone; and the one-way function, which has its own two blocks, agrees with the answer from its material
    with seven zeros behind it. -/
theorem blocks_follow_their_chunks :
    (∀ (material material' : Vector UInt8 21) (challenge : Challenge),
        ∃ response response' : Vector UInt8 24,
      (answer material challenge).outcome = .ok response ∧
      (answer material' challenge).outcome = .ok response' ∧
      ∀ i j : Fin 3,
        material.toList.extract (7 * i) (7 * i + 7) = material'.toList.extract (7 * j) (7 * j + 7) →
        blockAt i response = blockAt j response') ∧
    (∀ (source : Fin 3 → Fin 3) (material : Vector UInt8 21) (challenge : Challenge),
        ∃ response : Vector UInt8 24,
      (answer material challenge).outcome = .ok response ∧
      (answer (rearrange 7 source material) challenge).outcome = .ok (rearrange 8 source response)) ∧
    (∀ (hash hash' : Vector UInt8 16) (challenge : Challenge),
        ∃ response response' : Vector UInt8 24,
      (answer (extendHash hash) challenge).outcome = .ok response ∧
      (answer (extendHash hash') challenge).outcome = .ok response' ∧
      (hash[14] = hash'[14] → hash[15] = hash'[15] →
        blockAt (2 : Fin 3) response = blockAt (2 : Fin 3) response')) ∧
    ∀ (password : String) (seed : Vector UInt8 8),
        ∃ (material : Vector UInt8 14) (halves empty : Vector UInt8 16),
      LanMan.keyMaterial password = .ok material ∧
      (LanMan.oneWay password seed).outcome = .ok halves ∧
      (LanMan.oneWay "" seed).outcome = .ok empty ∧
      (answer (material ++ Vector.replicate 7 (0 : UInt8)) seed).outcome =
        .ok (halves ++ blockAt (0 : Fin 2) empty) := by
  refine ⟨?_, ?_, ?_, ?_⟩
  · intro material material' challenge
    refine ⟨_, _, answer_outcome material challenge, answer_outcome material' challenge, ?_⟩
    intro i j same
    exact blockAt_chain_congr i j (chunk_congr same) challenge
  · intro source material challenge
    have answered := answer_outcome (rearrange 7 source material) challenge
    rw [chain_rearrange source material] at answered
    exact ⟨_, answer_outcome material challenge, answered⟩
  · intro hash hash' challenge
    refine ⟨_, _, answer_outcome (extendHash hash) challenge,
      answer_outcome (extendHash hash') challenge, ?_⟩
    intro same same'
    rw [last_block_extendHash, last_block_extendHash, drop_fourteen, drop_fourteen, same, same']
  · intro password seed
    have answered := answer_outcome
      (fit 14 (Text.Latin1.encode (Text.uppercase password)) ++ Vector.replicate 7 (0 : UInt8)) seed
    rw [chain_append_zeros] at answered
    exact ⟨_, _, _, LanMan.keyMaterial_eq password, LanMan.oneWay_outcome password seed,
      LanMan.oneWay_empty_outcome seed, answered⟩

/-- A chunk that comes first in one material and last in another, and two hashes with the same end. -/
theorem blocks_follow_their_chunks_first_and_last :
    (∃ response response' : Vector UInt8 24,
      (answer #v[1, 2, 3, 4, 5, 6, 7, 0, 0, 0, 0, 0, 0, 0, 9, 9, 9, 9, 9, 9, 9]
        #v[8, 7, 6, 5, 4, 3, 2, 1]).outcome = .ok response ∧
      (answer #v[0, 0, 0, 0, 0, 0, 0, 9, 9, 9, 9, 9, 9, 9, 1, 2, 3, 4, 5, 6, 7]
        #v[8, 7, 6, 5, 4, 3, 2, 1]).outcome = .ok response' ∧
      blockAt (0 : Fin 3) response = blockAt (2 : Fin 3) response') ∧
    ∃ response response' : Vector UInt8 24,
      (answer (extendHash #v[1, 2, 3, 4, 5, 6, 7, 8, 9, 10, 11, 12, 13, 14, 15, 16])
        #v[8, 7, 6, 5, 4, 3, 2, 1]).outcome = .ok response ∧
      (answer (extendHash #v[0, 0, 0, 0, 0, 0, 0, 0, 0, 0, 0, 0, 0, 0, 15, 16])
        #v[8, 7, 6, 5, 4, 3, 2, 1]).outcome = .ok response' ∧
      blockAt (2 : Fin 3) response = blockAt (2 : Fin 3) response' := by
  obtain ⟨placed, -, extended, -⟩ := blocks_follow_their_chunks
  constructor
  · obtain ⟨response, response', answered, answered', agree⟩ :=
      placed #v[1, 2, 3, 4, 5, 6, 7, 0, 0, 0, 0, 0, 0, 0, 9, 9, 9, 9, 9, 9, 9]
        #v[0, 0, 0, 0, 0, 0, 0, 9, 9, 9, 9, 9, 9, 9, 1, 2, 3, 4, 5, 6, 7]
        #v[8, 7, 6, 5, 4, 3, 2, 1]
    exact ⟨response, response', answered, answered', agree 0 2 (by decide)⟩
  · obtain ⟨response, response', answered, answered', agree⟩ :=
      extended #v[1, 2, 3, 4, 5, 6, 7, 8, 9, 10, 11, 12, 13, 14, 15, 16]
        #v[0, 0, 0, 0, 0, 0, 0, 0, 0, 0, 0, 0, 0, 0, 15, 16] #v[8, 7, 6, 5, 4, 3, 2, 1]
    exact ⟨response, response', answered, answered', agree (by decide) (by decide)⟩

end LanAuth
