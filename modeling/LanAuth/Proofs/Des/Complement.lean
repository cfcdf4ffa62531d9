/-
Module: LanAuth.Proofs.Des.Complement
Layer: Proofs
Purpose: The cipher commutes with complement: the complement of a block under the complement of a key
  encrypts to the complement. Choosing bits by a table and rotation commute with complement, and so do the
  key schedule and the outer permutations. Where a half meets a subkey, the two complements cancel, so the
  boxes see the same bits in both runs; what they give is added to the complement of the other half, which
  goes through. A key that was made from seven bytes turns over with them, up to its parity bits.
Imports: LanAuth.Proofs.Des.KeyBits
Trusted boundary: none
Main exports: Bits.ofBytes_complement, Bits.toBytes_complement, Des.subkeys_complement,
  Des.mix_complement, Des.Halves.rounds_complement, Des.network_complement, Des.encrypt_complement,
  Des.spread_complement, Des.encrypt_spread_complement
Open obligations: none
-/
import LanAuth.Proofs.Des.KeyBits

namespace LanAuth

/-!
### Operations on bits

What each operation does to a complement.
-/

namespace Bits

variable {n m : Nat}

theorem select_complement (table : Vector (Fin n) m) (bits : Bits n) :
    select table bits.complement = (select table bits).complement := by
  refine Vector.ext fun i hi => ?_
  simp only [getElem_select, getElem_complement]

theorem rotateLeft_complement (count : Nat) (bits : Bits n) :
    bits.complement.rotateLeft count = (bits.rotateLeft count).complement := by
  refine Vector.ext fun i hi => ?_
  rw [getElem_rotateLeft, getElem_complement, getElem_rotateLeft]
  exact getElem_complement bits _ _

theorem complement_append (front : Bits n) (back : Bits m) :
    (complement (front ++ back) : Bits (n + m)) = front.complement ++ back.complement :=
  Vector.map_append

/-- Two complements cancel. -/
theorem xor_complement_complement (left right : Bits n) :
    xor left.complement right.complement = xor left right := by
  refine Vector.ext fun i hi => ?_
  rw [getElem_xor, getElem_xor, getElem_complement, getElem_complement, Bool.not_xor_not]

/-- One complement goes through. -/
theorem xor_complement_left (left right : Bits n) :
    xor left.complement right = (xor left right).complement := by
  refine Vector.ext fun i hi => ?_
  rw [getElem_complement, getElem_xor, getElem_xor, getElem_complement, Bool.not_xor]

theorem getMsbD_not (byte : UInt8) {i : Nat} (hi : i < 8) :
    (~~~byte).toBitVec.getMsbD i = !byte.toBitVec.getMsbD i := by
  rw [UInt8.toBitVec_not, BitVec.getMsbD_not, decide_eq_true hi, Bool.true_and]

theorem ofBytes_complement (bytes : Vector UInt8 n) :
    ofBytes (bytes.map (~~~ ·)) = (ofBytes bytes).complement := by
  refine Vector.ext fun i hi => ?_
  rw [getElem_complement, getElem_ofBytes, getElem_ofBytes, Vector.getElem_map]
  exact getMsbD_not _ (Nat.mod_lt _ (by decide))

theorem toBytes_complement (bits : Bits (8 * n)) :
    toBytes bits.complement = (toBytes bits).map (~~~ ·) := by
  calc toBytes bits.complement
      = toBytes (ofBytes (toBytes bits)).complement := by rw [ofBytes_toBytes]
    _ = toBytes (ofBytes ((toBytes bits).map (~~~ ·))) := by rw [ofBytes_complement]
    _ = (toBytes bits).map (~~~ ·) := toBytes_ofBytes _

end Bits

namespace Des

/-!
### The key schedule

By induction on the rotations: the complement stays with the two halves, and each subkey is chosen from
both.
-/

theorem subkeysFrom_complement (counts : List Nat) (left right : Bits 28) :
    subkeysFrom counts left.complement right.complement =
      (subkeysFrom counts left right).map Bits.complement := by
  induction counts generalizing left right with
  | nil => rfl
  | cons count later ih =>
      simp only [subkeysFrom, List.map_cons]
      rw [Bits.rotateLeft_complement, Bits.rotateLeft_complement, ih, ← Bits.complement_append,
        Bits.select_complement]

theorem subkeys_complement (key : Bits 64) :
    subkeys key.complement = (subkeys key).map Bits.complement := by
  have left : leftKey key.complement = (leftKey key).complement := by
    refine Vector.ext fun i hi => ?_
    simp [leftKey]
  have right : rightKey key.complement = (rightKey key).complement := by
    refine Vector.ext fun i hi => ?_
    simp [rightKey]
  unfold subkeys
  rw [left, right, subkeysFrom_complement]

/-!
### The rounds

The invariant of the two runs is that the halves of one are the complement of the halves of the other.
-/

/-- The boxes see the same bits in both runs. -/
theorem mix_complement (subkey : Bits 48) (half : Bits 32) :
    mix subkey.complement half.complement = mix subkey half := by
  unfold mix
  rw [Bits.select_complement, Bits.xor_complement_complement]

namespace Halves

/-- Both halves complemented. -/
def complement (halves : Halves) : Halves := ⟨halves.left.complement, halves.right.complement⟩

theorem round_complement (halves : Halves) (subkey : Bits 48) :
    halves.complement.round subkey.complement = (halves.round subkey).complement := by
  unfold round complement
  simp only
  rw [mix_complement, Bits.xor_complement_left]

theorem rounds_complement (subkeys : List (Bits 48)) (halves : Halves) :
    (subkeys.map Bits.complement).foldl round halves.complement =
      (subkeys.foldl round halves).complement := by
  induction subkeys generalizing halves with
  | nil => rfl
  | cons subkey later ih =>
      simp only [List.map_cons, List.foldl_cons]
      rw [round_complement, ih]

theorem ofBits_complement (bits : Bits 64) : ofBits bits.complement = (ofBits bits).complement := by
  have left : (ofBits bits.complement).left = (ofBits bits).left.complement := by
    refine Vector.ext fun i hi => ?_
    simp [ofBits]
  have right : (ofBits bits.complement).right = (ofBits bits).right.complement := by
    refine Vector.ext fun i hi => ?_
    simp [ofBits]
  calc ofBits bits.complement
      = ⟨(ofBits bits.complement).left, (ofBits bits.complement).right⟩ := rfl
    _ = (ofBits bits).complement := by rw [left, right, complement]

theorem toBits_complement (halves : Halves) : halves.complement.toBits = halves.toBits.complement :=
  (Bits.complement_append halves.left halves.right).symm

end Halves

theorem network_complement (subkeys : List (Bits 48)) (block : Bits 64) :
    network (subkeys.map Bits.complement) block.complement = (network subkeys block).complement := by
  simp only [network]
  rw [Bits.select_complement, Halves.ofBits_complement, Halves.rounds_complement]
  have swapped (halves : Halves) : halves.complement.swap = halves.swap.complement := rfl
  rw [swapped, Halves.toBits_complement, Bits.select_complement]

/-- The complement of a block under the complement of a key encrypts to the complement. -/
theorem encrypt_complement (key block : Vector UInt8 8) :
    encrypt (key.map (~~~ ·)) (block.map (~~~ ·)) = (encrypt key block).map (~~~ ·) := by
  unfold encrypt
  rw [Bits.ofBytes_complement, Bits.ofBytes_complement, subkeys_complement, network_complement,
    Bits.toBytes_complement]

/-!
### Keys made from seven bytes

The complement of such a key has its parity bits set, so it is not made from any seven bytes. The key that
the complement of the bytes makes differs from it there alone, where the cipher does not look.
-/

theorem spread_complement (chunk : Vector UInt8 7) :
    SameUpToParity (spread (chunk.map (~~~ ·))) ((spread chunk).map (~~~ ·)) := by
  intro i hi j hj
  have within : 7 * i + j < 8 * 7 := by omega
  have inside : j < 8 := by omega
  rw [getMsbD_spread _ hi hj within, Bits.ofBytes_complement, Bits.getElem_complement,
    Vector.getElem_map, Bits.getMsbD_not _ inside, getMsbD_spread chunk hi hj within]

theorem encrypt_spread_complement (chunk : Vector UInt8 7) (block : Vector UInt8 8) :
    encrypt (spread (chunk.map (~~~ ·))) (block.map (~~~ ·)) =
      (encrypt (spread chunk) block).map (~~~ ·) := by
  rw [encrypt_congr (spread_complement chunk), encrypt_complement]

end Des

end LanAuth
