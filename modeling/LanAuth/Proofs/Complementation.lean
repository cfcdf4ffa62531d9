/-
Module: LanAuth.Proofs.Complementation
Layer: Proofs
Purpose: Complement goes through an answer. The complement of the material and of the challenge gives the
  complement of the answer, block by block: each chunk of the material turns over into a key that differs
  from the complement of the old one in parity bits alone, and the cipher commutes with complement.
Imports: LanAuth.Proofs.Chaining, LanAuth.Proofs.Des.Complement
Trusted boundary: none
Main exports: fit_complement, chain_complement, answer_complement, encryption_commutes_with_complement
Open obligations: none
-/
import LanAuth.Proofs.Chaining
import LanAuth.Proofs.Des.Complement

namespace LanAuth

/-- Bytes turn over where they are not filled up with zeros. -/
theorem fit_complement {n : Nat} {bytes : List UInt8} (enough : n ≤ bytes.length) :
    fit n (bytes.map (~~~ ·)) = (fit n bytes).map (~~~ ·) := by
  refine Vector.ext fun i hi => ?_
  have within : i < bytes.length := by omega
  rw [Vector.getElem_map, getElem_fit, getElem_fit]
  simp [within]

theorem chunk_complement {material : List UInt8} {place : Nat}
    (within : 7 * place + 7 ≤ material.length) :
    chunk (material.map (~~~ ·)) place = (chunk material place).map (~~~ ·) := by
  unfold chunk
  rw [← List.map_drop]
  apply fit_complement
  rw [List.length_drop]
  omega

theorem chain_complement {material : List UInt8} {n : Nat} (enough : 7 * n ≤ material.length)
    (block : Vector UInt8 8) :
    chain (material.map (~~~ ·)) (block.map (~~~ ·)) n = (chain material block n).map (~~~ ·) := by
  refine Vector.ext fun i hi => ?_
  have within : 7 * (i / 8) + 7 ≤ material.length := by omega
  have turned := Des.encrypt_spread_complement (chunk material (i / 8)) block
  rw [← chunk_complement within] at turned
  rw [Vector.getElem_map]
  unfold chain chunkKey
  rw [Vector.getElem_ofFn, Vector.getElem_ofFn]
  simp only [turned, Vector.getElem_map]

theorem answer_complement (material : Vector UInt8 21) (challenge : Challenge) :
    answer (material.map (~~~ ·)) (challenge.map (~~~ ·)) =
      ⟨chainLog 3, .ok ((chain material.toList challenge 3).map (~~~ ·))⟩ := by
  have length : material.toList.length = 21 := Vector.length_toList
  rw [answer_eq, Vector.toList_map, chain_complement (by omega)]

/-- Complement goes through the answer to a challenge and through the encryption of a block under every
    key. A key turns over with the material, but for its parity bits, which are zero either way; where the
    material is too short for a key, its complement is too. -/
theorem encryption_commutes_with_complement :
    (∀ (material : Vector UInt8 21) (challenge : Challenge), ∃ response : Vector UInt8 24,
      (answer material challenge).outcome = .ok response ∧
      (answer (material.map (~~~ ·)) (challenge.map (~~~ ·))).outcome =
        .ok (response.map (~~~ ·))) ∧
    (∀ key block : Vector UInt8 8, ∃ encrypted : Vector UInt8 8,
      (encryptBlock key.toList block).outcome = .ok encrypted ∧
      (encryptBlock (key.map (~~~ ·)).toList (block.map (~~~ ·))).outcome =
        .ok (encrypted.map (~~~ ·))) ∧
    (∀ (material : List UInt8) (offset : UInt64),
      material.length < UInt64.size → offset.toNat + 7 ≤ material.length →
      ∃ key key' : Vector UInt8 8,
        (deriveKey material offset).outcome = .ok key ∧
        (deriveKey (material.map (~~~ ·)) offset).outcome = .ok key' ∧
        Des.SameUpToParity key' (key.map (~~~ ·)) ∧
        ∀ i (_ : i < 8),
          key[i].toBitVec.getMsbD 7 = false ∧ key'[i].toBitVec.getMsbD 7 = false) ∧
    (∀ (material : List UInt8) (offset : UInt64),
      material.length < UInt64.size → material.length < offset.toNat + 7 →
      (deriveKey material offset).outcome = .error .outOfRange ∧
      (deriveKey (material.map (~~~ ·)) offset).outcome = .error .outOfRange) := by
  refine ⟨?_, ?_, ?_, ?_⟩
  · intro material challenge
    have answered := answer_eq material challenge
    have turned := answer_complement material challenge
    exact ⟨_, congrArg Traced.outcome answered, congrArg Traced.outcome turned⟩
  · intro key block
    have taken := encryptBlock_toList key block
    have turned := encryptBlock_toList (key.map (~~~ ·)) (block.map (~~~ ·))
    rw [Des.encrypt_complement] at turned
    exact ⟨_, congrArg Traced.outcome taken, congrArg Traced.outcome turned⟩
  · intro material offset small within
    have small' : (material.map (~~~ ·)).length < UInt64.size := by rwa [List.length_map]
    have within' : offset.toNat + 7 ≤ (material.map (~~~ ·)).length := by rwa [List.length_map]
    have derived := deriveKey_of_within small within
    have turned := deriveKey_of_within small' within'
    rw [← List.map_drop, fit_complement (by rw [List.length_drop]; omega)] at turned
    refine ⟨_, _, congrArg Traced.outcome derived, congrArg Traced.outcome turned,
      Des.spread_complement _, ?_⟩
    intro i hi
    exact ⟨Des.getMsbD_spread_parity _ hi, Des.getMsbD_spread_parity _ hi⟩
  · intro material offset small short
    have small' : (material.map (~~~ ·)).length < UInt64.size := by rwa [List.length_map]
    have short' : (material.map (~~~ ·)).length < offset.toNat + 7 := by rwa [List.length_map]
    have refused := deriveKey_of_short small short
    have refused' := deriveKey_of_short small' short'
    exact ⟨congrArg Traced.outcome refused, congrArg Traced.outcome refused'⟩

/-- Nine bytes hold a key from position 2 on, but none from position 3 on. -/
theorem encryption_commutes_with_complement_nine_bytes :
    ([0x10, 0x21, 0x32, 0x43, 0x54, 0x65, 0x76, 0x87, 0x98] : List UInt8).length < UInt64.size ∧
    (2 : UInt64).toNat + 7 ≤
      ([0x10, 0x21, 0x32, 0x43, 0x54, 0x65, 0x76, 0x87, 0x98] : List UInt8).length ∧
    ([0x10, 0x21, 0x32, 0x43, 0x54, 0x65, 0x76, 0x87, 0x98] : List UInt8).length <
      (3 : UInt64).toNat + 7 ∧
    (∃ key key' : Vector UInt8 8,
      (deriveKey [0x10, 0x21, 0x32, 0x43, 0x54, 0x65, 0x76, 0x87, 0x98] 2).outcome = .ok key ∧
      (deriveKey [0xef, 0xde, 0xcd, 0xbc, 0xab, 0x9a, 0x89, 0x78, 0x67] 2).outcome = .ok key' ∧
      Des.SameUpToParity key' (key.map (~~~ ·)) ∧
      ∀ i (_ : i < 8),
        key[i].toBitVec.getMsbD 7 = false ∧ key'[i].toBitVec.getMsbD 7 = false) ∧
    (deriveKey [0xef, 0xde, 0xcd, 0xbc, 0xab, 0x9a, 0x89, 0x78, 0x67] 3).outcome =
      .error .outOfRange := by
  obtain ⟨-, -, turned, refused⟩ := encryption_commutes_with_complement
  have small : ([0x10, 0x21, 0x32, 0x43, 0x54, 0x65, 0x76, 0x87, 0x98] : List UInt8).length <
      UInt64.size := by decide
  have within : (2 : UInt64).toNat + 7 ≤
      ([0x10, 0x21, 0x32, 0x43, 0x54, 0x65, 0x76, 0x87, 0x98] : List UInt8).length := by decide
  have short : ([0x10, 0x21, 0x32, 0x43, 0x54, 0x65, 0x76, 0x87, 0x98] : List UInt8).length <
      (3 : UInt64).toNat + 7 := by decide
  exact ⟨small, within, short, turned _ _ small within, (refused _ _ small short).2⟩

end LanAuth
