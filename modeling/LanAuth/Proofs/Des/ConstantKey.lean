/-
Module: LanAuth.Proofs.Des.ConstantKey
Layer: Proofs
Purpose: Keys whose bits are all the same, be it but for the parity bits. No choice of bits and no rotation
  shows in such a key, so all of its subkeys are the same, and what the cipher makes of a block under it can
  be computed from the rounds alone.
Imports: LanAuth.Proofs.Des.KeyBits
Trusted boundary: none
Main exports: Bits.select_replicate, Bits.rotateLeft_replicate, Bits.ofBytes_replicate,
  Des.subkeysFrom_replicate, Des.subkeys_replicate, Des.subkeys_spread_replicate
Open obligations: none
-/
import LanAuth.Proofs.Des.KeyBits

namespace LanAuth

namespace Bits

variable {n m : Nat}

theorem select_replicate (table : Vector (Fin n) m) (bit : Bool) :
    select table (Vector.replicate n bit) = Vector.replicate m bit := by
  refine Vector.ext fun i hi => ?_
  simp

theorem rotateLeft_replicate (count : Nat) (bit : Bool) :
    rotateLeft count (Vector.replicate n bit) = Vector.replicate n bit := by
  refine Vector.ext fun i hi => ?_
  rw [getElem_rotateLeft, Vector.getElem_replicate]
  exact Vector.getElem_replicate (Nat.mod_lt _ (Nat.zero_lt_of_lt hi))

theorem ofBytes_replicate {byte : UInt8} {bit : Bool}
    (uniform : ∀ j < 8, byte.toBitVec.getMsbD j = bit) (n : Nat) :
    ofBytes (Vector.replicate n byte) = Vector.replicate (8 * n) bit := by
  refine Vector.ext fun i hi => ?_
  rw [getElem_ofBytes, Vector.getElem_replicate, Vector.getElem_replicate]
  exact uniform _ (Nat.mod_lt _ (by decide))

end Bits

namespace Des

/-- Rotation never shows, so each subkey is chosen from the halves that the schedule starts with. -/
theorem subkeysFrom_replicate (counts : List Nat) (bit : Bool) :
    subkeysFrom counts (Vector.replicate 28 bit) (Vector.replicate 28 bit) =
      List.replicate counts.length (Vector.replicate 48 bit) := by
  induction counts with
  | nil => rfl
  | cons count later ih =>
      have joined : (Vector.replicate 28 bit ++ Vector.replicate 28 bit : Bits 56) =
          Vector.replicate 56 bit := Vector.replicate_append_replicate
      rw [subkeysFrom, Bits.rotateLeft_replicate, ih, joined, Bits.select_replicate]
      rfl

theorem subkeys_replicate (bit : Bool) :
    subkeys (Vector.replicate 64 bit) = List.replicate 16 (Vector.replicate 48 bit) := by
  have left : leftKey (Vector.replicate 64 bit) = Vector.replicate 28 bit := by
    refine Vector.ext fun i hi => ?_
    simp [leftKey]
  have right : rightKey (Vector.replicate 64 bit) = Vector.replicate 28 bit := by
    refine Vector.ext fun i hi => ?_
    simp [rightKey]
  unfold subkeys
  rw [left, right]
  exact subkeysFrom_replicate rotations bit

/-!
### Keys made from seven bytes

Seven bytes whose bits are all the same make such a key, but for its parity bits, which do not count.
-/

section Uniform

variable {byte : UInt8} {bit : Bool} (uniform : ∀ j < 8, byte.toBitVec.getMsbD j = bit)
include uniform

theorem sameUpToParity_spread_replicate :
    SameUpToParity (spread (Vector.replicate 7 byte)) (Vector.replicate 8 byte) := by
  intro i hi j hj
  have within : 7 * i + j < 8 * 7 := by omega
  have inside : j < 8 := by omega
  rw [getMsbD_spread _ hi hj within, Vector.getElem_replicate, uniform j inside]
  simp only [Bits.ofBytes_replicate uniform, Vector.getElem_replicate]

theorem subkeys_spread_replicate :
    subkeys (Bits.ofBytes (spread (Vector.replicate 7 byte))) =
      List.replicate 16 (Vector.replicate 48 bit) := by
  rw [subkeys_congr (sameUpToParity_spread_replicate uniform), Bits.ofBytes_replicate uniform]
  exact subkeys_replicate bit

end Uniform

end Des

end LanAuth
