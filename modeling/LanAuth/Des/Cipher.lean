/-
Module: LanAuth.Des.Cipher
Layer: Cipher
Purpose: The DES block cipher. A block is split into two halves that go through one round for each
  subkey; the outer permutations stand around the rounds. Decryption is the same network with the
  subkeys in reverse order.
Imports: LanAuth.Des.KeySchedule
Trusted boundary: human-reviewed spec
Main exports: Halves, substitute, mix, round, network, encrypt, decrypt
Open obligations: none
-/
import LanAuth.Des.KeySchedule

namespace LanAuth.Des

/-- What eight substitution boxes make of 48 bits, six bits to a box. The outer two of the six choose a
    row of the box, the inner four a column. -/
def substitute (bits : Bits 48) : Bits 32 :=
  (Vector.ofFn fun i : Fin 8 =>
    let entry := BitVec.ofBoolListBE [bits[6 * i.val], bits[6 * i.val + 5], bits[6 * i.val + 1],
      bits[6 * i.val + 2], bits[6 * i.val + 3], bits[6 * i.val + 4]]
    Bits.ofBitVec (substitutionBoxes[i].get entry.toFin)).flatten

/-- How a half is disguised under a subkey before it is added to the other half. -/
def mix (subkey : Bits 48) (half : Bits 32) : Bits 32 :=
  Bits.select roundPermutation (substitute (Bits.xor (Bits.select expansion half) subkey))

structure Halves where
  left : Bits 32
  right : Bits 32
deriving DecidableEq, Repr

namespace Halves

def ofBits (bits : Bits 64) : Halves where
  left := Vector.ofFn fun i => bits[i.val]
  right := Vector.ofFn fun i => bits[32 + i.val]

def toBits (halves : Halves) : Bits 64 :=
  halves.left ++ halves.right

def swap (halves : Halves) : Halves := ⟨halves.right, halves.left⟩

/-- One round: the right half moves to the left, and what it is mixed into moves to the right. -/
def round (halves : Halves) (subkey : Bits 48) : Halves :=
  ⟨halves.right, Bits.xor halves.left (mix subkey halves.right)⟩

end Halves

/-- A block through one round for each subkey. The halves are swapped after the last round, and the
    outer permutations stand around all. -/
def network (subkeys : List (Bits 48)) (block : Bits 64) : Bits 64 :=
  let halves := Halves.ofBits (Bits.select initialPermutation block)
  Bits.select finalPermutation (subkeys.foldl Halves.round halves).swap.toBits

/-- The encrypted form of a block of eight bytes under a key of eight bytes. -/
def encrypt (key block : Vector UInt8 8) : Vector UInt8 8 :=
  Bits.toBytes (network (subkeys (Bits.ofBytes key)) (Bits.ofBytes block))

/-- The block of eight bytes that a key of eight bytes encrypts to a given one. -/
def decrypt (key block : Vector UInt8 8) : Vector UInt8 8 :=
  Bits.toBytes (network (subkeys (Bits.ofBytes key)).reverse (Bits.ofBytes block))

end LanAuth.Des
