/-
Module: LanAuth.Proofs.Des.Inverse
Layer: Proofs
Purpose: Under every key the cipher is a bijection of the blocks, and decryption is its inverse. The outer
  permutations undo each other. A round, entered with the halves swapped, takes back what the same round
  did, whatever a half is mixed into, so the rounds with the subkeys in reverse order take back the whole
  network.
Imports: LanAuth.Des.Cipher, Mathlib.Logic.Function.Basic
Trusted boundary: none
Main exports: Des.network_reverse, Des.decrypt_encrypt, Des.encrypt_decrypt, Des.encrypt_bijective,
  Des.encrypt_eq_iff
Open obligations: none
-/
import LanAuth.Des.Cipher
import Mathlib.Logic.Function.Basic

namespace LanAuth

namespace Bits

variable {n : Nat}

theorem select_select_of_inverse {outer inner : Vector (Fin n) n}
    (inverse : ∀ i : Fin n, inner.get (outer.get i) = i) (bits : Bits n) :
    select outer (select inner bits) = bits := by
  refine Vector.ext fun i hi => ?_
  have back : inner[(outer[i]).val] = ⟨i, hi⟩ := inverse ⟨i, hi⟩
  rw [getElem_select, getElem_select]
  simp only [back]

theorem xor_xor_cancel (left right : Bits n) : xor (xor left right) right = left := by
  refine Vector.ext fun i hi => ?_
  rw [getElem_xor, getElem_xor, Bool.xor_assoc, Bool.xor_self, Bool.xor_false]

end Bits

namespace Des

namespace Halves

theorem getElem_toBits_left (halves : Halves) (i : Nat) (h : i < 32) :
    halves.toBits[i] = halves.left[i] :=
  Vector.getElem_append_left h

theorem getElem_toBits_right (halves : Halves) (i : Nat) (h : i < 32) :
    halves.toBits[32 + i] = halves.right[i] := by
  have place : 32 + i - 32 = i := by omega
  have second : halves.toBits[32 + i] = halves.right[32 + i - 32] :=
    Vector.getElem_append_right (by omega) (by omega)
  simpa only [place] using second

@[simp] theorem ofBits_toBits (halves : Halves) : ofBits halves.toBits = halves := by
  have first : (ofBits halves.toBits).left = halves.left := by
    refine Vector.ext fun i hi => ?_
    simpa only [ofBits, Vector.getElem_ofFn] using getElem_toBits_left halves i hi
  have second : (ofBits halves.toBits).right = halves.right := by
    refine Vector.ext fun i hi => ?_
    simpa only [ofBits, Vector.getElem_ofFn] using getElem_toBits_right halves i hi
  calc ofBits halves.toBits
      = ⟨(ofBits halves.toBits).left, (ofBits halves.toBits).right⟩ := rfl
    _ = halves := by rw [first, second]

@[simp] theorem toBits_ofBits (bits : Bits 64) : (ofBits bits).toBits = bits := by
  refine Vector.ext fun i hi => ?_
  by_cases low : i < 32
  · rw [getElem_toBits_left (ofBits bits) i low]
    simp [ofBits]
  · obtain ⟨j, rfl⟩ : ∃ j, i = 32 + j := ⟨i - 32, by omega⟩
    rw [getElem_toBits_right (ofBits bits) j (by omega)]
    simp [ofBits]

@[simp] theorem swap_swap (halves : Halves) : halves.swap.swap = halves := rfl

/-- A round takes back what the same round did, up to the order of the halves. -/
theorem round_swap_round (halves : Halves) (subkey : Bits 48) :
    (halves.round subkey).swap.round subkey = halves.swap := by
  unfold round swap
  rw [Bits.xor_xor_cancel]

/-- The rounds with the subkeys in reverse order take back what the rounds did. -/
theorem rounds_reverse (subkeys : List (Bits 48)) (halves : Halves) :
    subkeys.reverse.foldl round (subkeys.foldl round halves).swap = halves.swap := by
  induction subkeys generalizing halves with
  | nil => rfl
  | cons subkey later ih =>
      simp only [List.reverse_cons, List.foldl_append, List.foldl_cons, List.foldl_nil]
      rw [ih (halves.round subkey)]
      exact round_swap_round halves subkey

end Halves

/-- The network with the subkeys in reverse order takes back what the network did. -/
theorem network_reverse (subkeys : List (Bits 48)) (block : Bits 64) :
    network subkeys.reverse (network subkeys block) = block := by
  have inside (bits : Bits 64) :
      Bits.select initialPermutation (Bits.select finalPermutation bits) = bits :=
    Bits.select_select_of_inverse finalPermutation_initialPermutation bits
  have outside (bits : Bits 64) :
      Bits.select finalPermutation (Bits.select initialPermutation bits) = bits :=
    Bits.select_select_of_inverse initialPermutation_finalPermutation bits
  simp only [network]
  rw [inside, Halves.ofBits_toBits, Halves.rounds_reverse, Halves.swap_swap, Halves.toBits_ofBits,
    outside]

theorem decrypt_encrypt (key block : Vector UInt8 8) : decrypt key (encrypt key block) = block := by
  unfold decrypt encrypt
  rw [Bits.ofBytes_toBytes, network_reverse, Bits.toBytes_ofBytes]

theorem encrypt_decrypt (key block : Vector UInt8 8) : encrypt key (decrypt key block) = block := by
  -- The subkeys in reverse order are undone by the subkeys in reverse order of that.
  have forward := network_reverse (subkeys (Bits.ofBytes key)).reverse (Bits.ofBytes block)
  rw [List.reverse_reverse] at forward
  unfold decrypt encrypt
  rw [Bits.ofBytes_toBytes, forward, Bits.toBytes_ofBytes]

/-- Under every key, each block is the encrypted form of exactly one block. -/
theorem encrypt_bijective (key : Vector UInt8 8) : Function.Bijective (encrypt key) := by
  constructor
  · intro block block' same
    rw [← decrypt_encrypt key block, same, decrypt_encrypt]
  · intro block
    exact ⟨decrypt key block, encrypt_decrypt key block⟩

theorem encrypt_eq_iff (key block block' : Vector UInt8 8) :
    encrypt key block = encrypt key block' ↔ block = block' :=
  (encrypt_bijective key).injective.eq_iff

end Des

end LanAuth
