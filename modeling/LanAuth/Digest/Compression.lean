/-
Module: LanAuth.Digest.Compression
Layer: Digest
Purpose: Digests that fold a compression function over the blocks of a padded message: what such a
  function is, what is written after a message to fill its last block, and the digest by its definition.
Imports: LanAuth.Digest.Block
Trusted boundary: human-reviewed spec
Main exports: Chaining, Compression, paddingZeros, padding, Compression.ofPadded
Open obligations: none
-/
import LanAuth.Digest.Block

namespace LanAuth.Digest

/-- The four words that go from one block to the next. -/
structure Chaining where
  a : UInt32
  b : UInt32
  c : UInt32
  d : UInt32
deriving DecidableEq, Repr

namespace Chaining

/-- The four words as bytes, the lowest byte of each word first. -/
def toBytes (chaining : Chaining) : Vector UInt8 16 :=
  Vector.ofFn fun i =>
    ((#v[chaining.a, chaining.b, chaining.c, chaining.d][i.val / 4]) >>>
      UInt32.ofNat (8 * (i.val % 4))).toUInt8

def add (left right : Chaining) : Chaining :=
  ⟨left.a + right.a, left.b + right.b, left.c + right.c, left.d + right.d⟩

end Chaining

/-- A word moved some places to the left; the bits that fall off come back on the right. The number of
    places is from 1 to 31. -/
def rotateWord (word places : UInt32) : UInt32 :=
  word <<< places ||| word >>> (32 - places)

/-- What makes one digest differ from another: where it starts, and how it takes in a block. -/
structure Compression where
  initial : Chaining
  compress : Chaining → Block → Chaining

/-- The eight bytes that stand for the length of a message: its number of bits modulo 2⁶⁴, the lowest
    byte first. -/
def lengthBytes (length : Nat) : List UInt8 :=
  List.ofFn fun i : Fin 8 => (UInt64.ofNat (8 * length) >>> UInt64.ofNat (8 * i.val)).toUInt8

/-- The number of zeros in the padding: the fewest that leave room for just the length at the end of a
    block. -/
def paddingZeros (length : Nat) : Nat :=
  (119 - length % 64) % 64

/-- What is written after a message of a given length: a set bit, zeros, and the length. -/
def padding (length : Nat) : List UInt8 :=
  0x80 :: List.replicate (paddingZeros length) 0 ++ lengthBytes length

namespace Compression

/-- The digest by its definition: the compression folded over the blocks of the padded message. -/
def ofPadded (compression : Compression) (message : List UInt8) : Vector UInt8 16 :=
  ((blocks (message ++ padding message.length)).1.foldl compression.compress
    compression.initial).toBytes

end Compression

/-!
### Padding

The padded message is a whole number of blocks.
-/

theorem length_padding (length : Nat) : (padding length).length = paddingZeros length + 9 := by
  simp [padding, lengthBytes]

theorem mod_length_padded (length : Nat) : (length + (padding length).length) % 64 = 0 := by
  rw [length_padding]
  unfold paddingZeros
  omega

end LanAuth.Digest
