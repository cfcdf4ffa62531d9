/-
Module: LanAuth.Bits
Layer: Foundations
Purpose: Strings of bits of a fixed length, the most significant bit first, as a cipher that is defined
  by tables of bit positions needs them: choosing bits by a table, rotation, exclusive or, complement,
  and the two ways between bits and bytes.
Imports: none
Trusted boundary: none
Main exports: Bits, Bits.select, Bits.rotateLeft, Bits.xor, Bits.complement, Bits.ofBytes, Bits.toBytes
Open obligations: none
-/

namespace LanAuth

/-- A string of `n` bits. Bit 0 is the most significant one. -/
abbrev Bits (n : Nat) := Vector Bool n

namespace Bits

variable {n m : Nat}

/-- The bits at the positions that a table lists. A position may be listed more than once, or never. -/
def select (table : Vector (Fin n) m) (bits : Bits n) : Bits m :=
  table.map fun position => bits[position.val]

/-- The bits moved `count` places to the left; those that fall off come back on the right. -/
def rotateLeft (count : Nat) (bits : Bits n) : Bits n :=
  Vector.ofFn fun i =>
    have : (i.val + count) % n < n := Nat.mod_lt _ (Nat.zero_lt_of_lt i.isLt)
    bits[(i.val + count) % n]

/-- Bit by bit, whether exactly one of the two is set. -/
def xor (left right : Bits n) : Bits n :=
  Vector.zipWith (fun a b => a ^^ b) left right

def complement (bits : Bits n) : Bits n :=
  bits.map fun bit => !bit

def ofBitVec (value : BitVec n) : Bits n :=
  Vector.ofFn fun i => value.getMsbD i

/-- The bits of a string of bytes, in order. -/
def ofBytes (bytes : Vector UInt8 n) : Bits (8 * n) :=
  Vector.ofFn fun i => bytes[i.val / 8].toBitVec.getMsbD (i.val % 8)

/-- The byte that eight bits spell. -/
def toByte (bits : Bits 8) : UInt8 :=
  ⟨BitVec.ofBoolListBE
    [bits[0], bits[1], bits[2], bits[3], bits[4], bits[5], bits[6], bits[7]]⟩

/-- The bytes that a string of bits spells, in order. -/
def toBytes (bits : Bits (8 * n)) : Vector UInt8 n :=
  Vector.ofFn fun i => toByte (Vector.ofFn fun j => bits[8 * i.val + j.val])

/-!
### Reading a bit

One equation for each operation, so that nothing has to unfold them.
-/

@[simp] theorem getElem_select (table : Vector (Fin n) m) (bits : Bits n) (i : Nat) (h : i < m) :
    (select table bits)[i] = bits[table[i].val] := by
  simp [select]

@[simp] theorem getElem_rotateLeft (count : Nat) (bits : Bits n) (i : Nat) (h : i < n) :
    (rotateLeft count bits)[i] =
      bits.get ⟨(i + count) % n, Nat.mod_lt _ (Nat.zero_lt_of_lt h)⟩ := by
  simp only [rotateLeft, Vector.getElem_ofFn]
  rfl

@[simp] theorem getElem_xor (left right : Bits n) (i : Nat) (h : i < n) :
    (xor left right)[i] = (left[i] ^^ right[i]) := by
  simp [xor]

@[simp] theorem getElem_complement (bits : Bits n) (i : Nat) (h : i < n) :
    (complement bits)[i] = !bits[i] := by
  simp [complement]

@[simp] theorem getElem_ofBytes (bytes : Vector UInt8 n) (i : Nat) (h : i < 8 * n) :
    (ofBytes bytes)[i] = bytes[i / 8].toBitVec.getMsbD (i % 8) := by
  simp [ofBytes]

/-!
### Bits and bytes

The two ways between bits and bytes undo each other.
-/

@[simp] theorem getMsbD_toByte (bits : Bits 8) (i : Nat) (h : i < 8) :
    (toByte bits).toBitVec.getMsbD i = bits[i] := by
  have value : (toByte bits).toBitVec.getMsbD i =
      [bits[0], bits[1], bits[2], bits[3], bits[4], bits[5], bits[6], bits[7]].getD i false :=
    BitVec.getMsbD_ofBoolListBE
  rw [value]
  match i, h with
  | 0, _ | 1, _ | 2, _ | 3, _ | 4, _ | 5, _ | 6, _ | 7, _ => rfl

theorem byte_ext {x y : UInt8}
    (h : ∀ i, i < 8 → x.toBitVec.getMsbD i = y.toBitVec.getMsbD i) : x = y :=
  UInt8.eq_of_toBitVec_eq (BitVec.eq_of_getMsbD_eq h)

@[simp] theorem toBytes_ofBytes (bytes : Vector UInt8 n) : toBytes (ofBytes bytes) = bytes := by
  refine Vector.ext fun i hi => byte_ext fun j hj => ?_
  have quotient : (8 * i + j) / 8 = i := by omega
  have remainder : j % 8 = j := Nat.mod_eq_of_lt hj
  simp [toBytes, hj, quotient, remainder]

@[simp] theorem ofBytes_toBytes (bits : Bits (8 * n)) : ofBytes (toBytes bits) = bits := by
  refine Vector.ext fun i hi => ?_
  have below : i % 8 < 8 := Nat.mod_lt _ (by decide)
  simp [toBytes, below, Nat.div_add_mod]

end Bits

end LanAuth
