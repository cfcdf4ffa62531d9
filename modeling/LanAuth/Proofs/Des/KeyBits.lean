/-
Module: LanAuth.Proofs.Des.KeyBits
Layer: Proofs
Purpose: Which bits of a key count, and where they come from. The upper seven bits of the bytes of a key
  that was made from seven bytes are the 56 bits of these, in order, and its parity bits are zero. The
  cipher never looks at a parity bit, so keys that differ in nothing else encrypt alike.
Imports: LanAuth.Des.Cipher, LanAuth.Des.KeyExpansion
Trusted boundary: none
Main exports: Des.getMsbD_mask, Des.toBitVec_spread, Des.getMsbD_spread, Des.getMsbD_spread_parity,
  Des.SameUpToParity, Des.subkeys_congr, Des.encrypt_congr
Open obligations: none
-/
import LanAuth.Des.Cipher
import LanAuth.Des.KeyExpansion

namespace LanAuth.Des

/-!
### Spreading

Each byte of the key lies across the seam of two bytes of the chunk. One more bit is carried over at each
seam, and the place of the parity bit is cleared.
-/

/-- The mask of the upper seven bits. -/
theorem getMsbD_mask (j : Nat) : (0xfe#8).getMsbD j = decide (j < 7) := by
  have within : ∀ j < 8, (0xfe#8).getMsbD j = decide (j < 7) := by decide
  by_cases inside : j < 8
  · exact within j inside
  · have past : ¬ j < 7 := by omega
    rw [BitVec.getMsbD_of_ge _ _ (Nat.le_of_not_lt inside), decide_eq_false past]

/-- What lies across a seam: the bits that were carried over from the first byte, then the upper bits of
    the second. -/
theorem getMsbD_seam (first second : BitVec 8) {carried j : Nat} (hc : carried < 8) (hj : j < 7) :
    ((first <<< (8 - carried) ||| second >>> carried) &&& 0xfe#8).getMsbD j =
      if j < carried then first.getMsbD (8 - carried + j) else second.getMsbD (j - carried) := by
  have inside : j < 8 := by omega
  simp only [BitVec.getMsbD_and, BitVec.getMsbD_or, BitVec.getMsbD_shiftLeft,
    BitVec.getMsbD_ushiftRight, getMsbD_mask, hj, inside, decide_true, Bool.true_and, Bool.and_true]
  split
  · next before => simp [before, Nat.add_comm]
  · next after =>
      have past : first.getMsbD (j + (8 - carried)) = false := by
        apply BitVec.getMsbD_of_ge
        omega
      simp [past, after]

/-- The bytes of the key all have one form. In front of the first byte and behind the last one nothing is
    carried over. -/
theorem toBitVec_spread (chunk : Vector UInt8 7) {i : Nat} (hi : i < 8) :
    (spread chunk)[i].toBitVec =
      ((chunk.toList.getD (i - 1) 0).toBitVec <<< (8 - i) |||
        (chunk.toList.getD i 0).toBitVec >>> i) &&& 0xfe#8 := by
  match i, hi with
  | 0, _ => simp [spread]
  | 1, _ | 2, _ | 3, _ | 4, _ | 5, _ | 6, _ => simp [spread]
  | 7, _ =>
      -- The last byte is not cleared in the code: its lowest bit is zero from the shift.
      have cleared (byte : BitVec 8) : byte <<< 1 = byte <<< 1 &&& 0xfe#8 := by
        have mask : 0xfe#8 = BitVec.allOnes 8 <<< 1 := by decide
        rw [mask, ← BitVec.shiftLeft_and_distrib, BitVec.and_allOnes]
      simpa [spread] using cleared chunk[6].toBitVec

/-- The upper seven bits of the bytes of the key are the bits of the chunk, in order. -/
theorem getMsbD_spread (chunk : Vector UInt8 7) {i j : Nat} (hi : i < 8) (hj : j < 7)
    (within : 7 * i + j < 8 * 7) :
    (spread chunk)[i].toBitVec.getMsbD j = (Bits.ofBytes chunk)[7 * i + j] := by
  rw [toBitVec_spread chunk hi, getMsbD_seam _ _ hi hj, Bits.getElem_ofBytes]
  split
  · next before =>
      have quotient : (7 * i + j) / 8 = i - 1 := by omega
      have remainder : (7 * i + j) % 8 = 8 - i + j := by omega
      have inside : i - 1 < 7 := by omega
      simp [quotient, remainder, inside]
  · next after =>
      have quotient : (7 * i + j) / 8 = i := by omega
      have remainder : (7 * i + j) % 8 = j - i := by omega
      have inside : i < 7 := by omega
      simp [quotient, remainder, inside]

theorem getMsbD_spread_parity (chunk : Vector UInt8 7) {i : Nat} (hi : i < 8) :
    (spread chunk)[i].toBitVec.getMsbD 7 = false := by
  have cleared : (0xfe#8).getMsbD 7 = false := getMsbD_mask 7
  rw [toBitVec_spread chunk hi, BitVec.getMsbD_and, cleared, Bool.and_false]

/-!
### Parity

The key schedule chooses no parity bit.
-/

/-- Keys whose bytes have the same upper seven bits. -/
def SameUpToParity (key key' : Vector UInt8 8) : Prop :=
  ∀ i (_ : i < 8) j, j < 7 → key[i].toBitVec.getMsbD j = key'[i].toBitVec.getMsbD j

theorem subkeys_congr {key key' : Vector UInt8 8} (same : SameUpToParity key key') :
    subkeys (Bits.ofBytes key) = subkeys (Bits.ofBytes key') := by
  have chosen (i : Nat) (hi : i < 56) :
      (Bits.ofBytes key)[keyChoice[i].val] = (Bits.ofBytes key')[keyChoice[i].val] := by
    have bound : keyChoice[i].val < 64 := keyChoice[i].isLt
    have counts : keyChoice[i].val % 8 ≠ 7 := keyChoice_mod_eight ⟨i, hi⟩
    rw [Bits.getElem_ofBytes, Bits.getElem_ofBytes]
    exact same _ (by omega) _ (by omega)
  have left : leftKey (Bits.ofBytes key) = leftKey (Bits.ofBytes key') := by
    refine Vector.ext fun i hi => ?_
    simpa only [leftKey, Vector.getElem_ofFn] using chosen i (by omega)
  have right : rightKey (Bits.ofBytes key) = rightKey (Bits.ofBytes key') := by
    refine Vector.ext fun i hi => ?_
    simpa only [rightKey, Vector.getElem_ofFn] using chosen (28 + i) (by omega)
  unfold subkeys
  rw [left, right]

/-- Keys that differ in their parity bits alone encrypt alike. -/
theorem encrypt_congr {key key' : Vector UInt8 8} (same : SameUpToParity key key')
    (block : Vector UInt8 8) : encrypt key block = encrypt key' block := by
  unfold encrypt
  rw [subkeys_congr same]

end LanAuth.Des
