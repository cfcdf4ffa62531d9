/-
Module: LanAuth.Proofs.CipherKeys
Layer: Proofs
Purpose: Which keys the cipher takes, and how much of a key counts. A key is refused for its length and for
  nothing else. Of the keys that are taken, those that differ in parity bits alone encrypt alike, and each
  encrypts as one that is derived from seven bytes, so key material reaches every key that there is.
Imports: LanAuth.Proofs.KeyExpansion
Trusted boundary: none
Main exports: encryptBlock_of_length_eq, encryptBlock_of_length_ne, encryptBlock_congr,
  encryptBlock_spread_gather, keys_count_up_to_parity
Open obligations: none
-/
import LanAuth.Proofs.KeyExpansion

namespace LanAuth

theorem encryptBlock_of_length_eq {key : List UInt8} (fits : key.length = 8)
    (block : Vector UInt8 8) :
    encryptBlock key block = ⟨[.encryptedBlock], .ok (Des.encrypt (fit 8 key) block)⟩ := by
  have whole : (fit 8 key).toList = key := by
    rw [toList_fit_of_le fits.ge, List.take_of_length_le fits.le]
  rw [← encryptBlock_toList, whole]

/-- A key of the wrong length is refused before anything is logged. -/
theorem encryptBlock_of_length_ne {key : List UInt8} (wrong : key.length ≠ 8)
    (block : Vector UInt8 8) :
    encryptBlock key block = ⟨[], .error (.refused (.invalidKey .des key.length))⟩ := by
  unfold encryptBlock
  rw [dif_neg wrong]
  rfl

theorem encryptBlock_congr {key key' : Vector UInt8 8} (same : Des.SameUpToParity key key')
    (block : Vector UInt8 8) : encryptBlock key.toList block = encryptBlock key'.toList block := by
  rw [encryptBlock_toList, encryptBlock_toList, Des.encrypt_congr same]

/-- A key encrypts as the one that is derived from its upper seven bits. -/
theorem encryptBlock_spread_gather (key block : Vector UInt8 8) :
    encryptBlock (Des.spread (Des.gather key)).toList block = encryptBlock key.toList block :=
  encryptBlock_congr (Des.sameUpToParity_spread_gather key) block

/-- The cipher takes every key of eight bytes, weak ones included, and refuses every other, with nothing in
    the log and the length in the error. Keys that differ in the lowest bits of their bytes alone encrypt
    every block to the same. So each key of eight bytes encrypts every block as the key does that is derived
    from seven bytes, the upper seven bits of the bytes of the key. -/
theorem keys_count_up_to_parity :
    (∀ (key : List UInt8) (block : Vector UInt8 8), key.length = 8 →
      ∃ encrypted : Vector UInt8 8, (encryptBlock key block).outcome = .ok encrypted) ∧
    (∀ (key : List UInt8) (block : Vector UInt8 8), key.length ≠ 8 →
      (encryptBlock key block).outcome = .error (.refused (.invalidKey .des key.length)) ∧
      (encryptBlock key block).log = []) ∧
    (∀ key key' : Vector UInt8 8, Des.SameUpToParity key key' →
      ∀ block : Vector UInt8 8, ∃ encrypted : Vector UInt8 8,
        (encryptBlock key.toList block).outcome = .ok encrypted ∧
        (encryptBlock key'.toList block).outcome = .ok encrypted) ∧
    ∀ key : Vector UInt8 8, ∃ (chunk : Vector UInt8 7) (derived : Vector UInt8 8),
      (∀ i (_ : i < 8) j (_ : j < 7),
        (Bits.ofBytes chunk)[7 * i + j] = key[i].toBitVec.getMsbD j) ∧
      (deriveKey chunk.toList 0).outcome = .ok derived ∧
      ∀ block : Vector UInt8 8, ∃ encrypted : Vector UInt8 8,
        (encryptBlock key.toList block).outcome = .ok encrypted ∧
        (encryptBlock derived.toList block).outcome = .ok encrypted := by
  refine ⟨?_, ?_, ?_, ?_⟩
  · intro key block fits
    exact ⟨_, congrArg Traced.outcome (encryptBlock_of_length_eq fits block)⟩
  · intro key block wrong
    rw [encryptBlock_of_length_ne wrong]
    exact ⟨rfl, rfl⟩
  · intro key key' same block
    have taken := encryptBlock_toList key' block
    rw [encryptBlock_congr same]
    exact ⟨_, congrArg Traced.outcome taken, congrArg Traced.outcome taken⟩
  · intro key
    refine ⟨Des.gather key, _, ?_, deriveKey_toList _, ?_⟩
    · intro i hi j hj
      rw [← Des.getMsbD_spread _ hi hj]
      exact Des.sameUpToParity_spread_gather key i hi j hj
    · intro block
      have taken := encryptBlock_toList key block
      rw [encryptBlock_spread_gather]
      exact ⟨_, congrArg Traced.outcome taken, congrArg Traced.outcome taken⟩

/-- A weak key with and without its parity bits, and a key that is a byte too short. -/
theorem keys_count_up_to_parity_weak_key :
    ([1, 1, 1, 1, 1, 1, 1, 1] : List UInt8).length = 8 ∧
    ([1, 1, 1, 1, 1, 1, 1] : List UInt8).length ≠ 8 ∧
    Des.SameUpToParity #v[1, 1, 1, 1, 1, 1, 1, 1] #v[0, 0, 0, 0, 0, 0, 0, 0] ∧
    (∃ encrypted : Vector UInt8 8,
      (encryptBlock [1, 1, 1, 1, 1, 1, 1, 1] LanMan.magic).outcome = .ok encrypted) ∧
    ((encryptBlock [1, 1, 1, 1, 1, 1, 1] LanMan.magic).outcome =
        .error (.refused (.invalidKey .des 7)) ∧
      (encryptBlock [1, 1, 1, 1, 1, 1, 1] LanMan.magic).log = []) ∧
    ∃ encrypted : Vector UInt8 8,
      (encryptBlock [1, 1, 1, 1, 1, 1, 1, 1] LanMan.magic).outcome = .ok encrypted ∧
      (encryptBlock [0, 0, 0, 0, 0, 0, 0, 0] LanMan.magic).outcome = .ok encrypted := by
  obtain ⟨taken, refused, alike, -⟩ := keys_count_up_to_parity
  have fits : ([1, 1, 1, 1, 1, 1, 1, 1] : List UInt8).length = 8 := rfl
  have short : ([1, 1, 1, 1, 1, 1, 1] : List UInt8).length ≠ 8 := by decide
  have same : Des.SameUpToParity #v[1, 1, 1, 1, 1, 1, 1, 1] #v[0, 0, 0, 0, 0, 0, 0, 0] := by
    unfold Des.SameUpToParity
    decide
  exact ⟨fits, short, same, taken _ _ fits, refused _ _ short, alike _ _ same _⟩

end LanAuth
