/-
Module: LanAuth.Digest.Md4.Arithmetic
Layer: Digest
Purpose: MD4 once more, as one would work it out with pen and paper: with whole numbers, four registers that
  keep their names, the forty-eight operations listed one by one, and every word found by its place in the
  message. Nothing here rests on the definitions that run.
Imports: none
Trusted boundary: human-reviewed spec
Main exports: Arithmetic.Registers, Arithmetic.initial, Arithmetic.compress, Arithmetic.fold,
  Arithmetic.Fills, Arithmetic.tail, Arithmetic.output
Open obligations: none
-/

namespace LanAuth.Digest.Md4.Arithmetic

inductive Register where
  | a
  | b
  | c
  | d
deriving DecidableEq, Repr

/-- The numbers that the registers hold, each below 2³². -/
abbrev Registers := Register → Nat

/-- What the registers hold at first. -/
def initial : Registers
  | .a => 0x67452301
  | .b => 0xefcdab89
  | .c => 0x98badcfe
  | .d => 0x10325476

/-!
### The operations

All sums are taken modulo 2³². An operation changes one register; what it adds is made from the three others
and from a word of the block.
-/

/-- A number of 32 binary digits with these moved up, and those that leave at the top put in at the bottom. -/
def rotate (number places : Nat) : Nat :=
  (number <<< places) % 0x100000000 + number >>> (32 - places)

/-- In each digit, the first number chooses between the other two. -/
def choice (x y z : Nat) : Nat :=
  (x &&& y) ||| ((0xffffffff - x) &&& z)

def majority (x y z : Nat) : Nat :=
  (x &&& y) ||| (x &&& z) ||| (y &&& z)

def parity (x y z : Nat) : Nat :=
  x ^^^ y ^^^ z

structure Operation where
  /-- The register that is changed. -/
  changed : Register
  first : Register
  second : Register
  third : Register
  /-- Which word of the block is taken in. -/
  word : Nat
  /-- By how many places the sum is rotated. -/
  places : Nat

/-- Operations that mix in the same way and add the same constant. -/
structure Pass where
  mix : Nat → Nat → Nat → Nat
  constant : Nat
  operations : List Operation

def firstPass : Pass where
  mix := choice
  constant := 0
  operations := [
    ⟨.a, .b, .c, .d, 0, 3⟩, ⟨.d, .a, .b, .c, 1, 7⟩, ⟨.c, .d, .a, .b, 2, 11⟩, ⟨.b, .c, .d, .a, 3, 19⟩,
    ⟨.a, .b, .c, .d, 4, 3⟩, ⟨.d, .a, .b, .c, 5, 7⟩, ⟨.c, .d, .a, .b, 6, 11⟩, ⟨.b, .c, .d, .a, 7, 19⟩,
    ⟨.a, .b, .c, .d, 8, 3⟩, ⟨.d, .a, .b, .c, 9, 7⟩, ⟨.c, .d, .a, .b, 10, 11⟩, ⟨.b, .c, .d, .a, 11, 19⟩,
    ⟨.a, .b, .c, .d, 12, 3⟩, ⟨.d, .a, .b, .c, 13, 7⟩, ⟨.c, .d, .a, .b, 14, 11⟩, ⟨.b, .c, .d, .a, 15, 19⟩]

def secondPass : Pass where
  mix := majority
  constant := 0x5a827999
  operations := [
    ⟨.a, .b, .c, .d, 0, 3⟩, ⟨.d, .a, .b, .c, 4, 5⟩, ⟨.c, .d, .a, .b, 8, 9⟩, ⟨.b, .c, .d, .a, 12, 13⟩,
    ⟨.a, .b, .c, .d, 1, 3⟩, ⟨.d, .a, .b, .c, 5, 5⟩, ⟨.c, .d, .a, .b, 9, 9⟩, ⟨.b, .c, .d, .a, 13, 13⟩,
    ⟨.a, .b, .c, .d, 2, 3⟩, ⟨.d, .a, .b, .c, 6, 5⟩, ⟨.c, .d, .a, .b, 10, 9⟩, ⟨.b, .c, .d, .a, 14, 13⟩,
    ⟨.a, .b, .c, .d, 3, 3⟩, ⟨.d, .a, .b, .c, 7, 5⟩, ⟨.c, .d, .a, .b, 11, 9⟩, ⟨.b, .c, .d, .a, 15, 13⟩]

def thirdPass : Pass where
  mix := parity
  constant := 0x6ed9eba1
  operations := [
    ⟨.a, .b, .c, .d, 0, 3⟩, ⟨.d, .a, .b, .c, 8, 9⟩, ⟨.c, .d, .a, .b, 4, 11⟩, ⟨.b, .c, .d, .a, 12, 15⟩,
    ⟨.a, .b, .c, .d, 2, 3⟩, ⟨.d, .a, .b, .c, 10, 9⟩, ⟨.c, .d, .a, .b, 6, 11⟩, ⟨.b, .c, .d, .a, 14, 15⟩,
    ⟨.a, .b, .c, .d, 1, 3⟩, ⟨.d, .a, .b, .c, 9, 9⟩, ⟨.c, .d, .a, .b, 5, 11⟩, ⟨.b, .c, .d, .a, 13, 15⟩,
    ⟨.a, .b, .c, .d, 3, 3⟩, ⟨.d, .a, .b, .c, 11, 9⟩, ⟨.c, .d, .a, .b, 7, 11⟩, ⟨.b, .c, .d, .a, 15, 15⟩]

/-- What the changed register holds after an operation. -/
def Pass.result (pass : Pass) (words : Nat → Nat) (held : Registers) (operation : Operation) : Nat :=
  rotate
    ((held operation.changed +
      pass.mix (held operation.first) (held operation.second) (held operation.third) +
      words operation.word + pass.constant) % 0x100000000)
    operation.places

def Pass.operate (pass : Pass) (words : Nat → Nat) (held : Registers) (operation : Operation) : Registers :=
  fun register =>
    if register = operation.changed then pass.result words held operation else held register

def Pass.run (words : Nat → Nat) (held : Registers) (pass : Pass) : Registers :=
  pass.operations.foldl (pass.operate words) held

/-- The registers after a block, from the sixteen words of the block and what the registers held before. -/
def compress (held : Registers) (words : Nat → Nat) : Registers :=
  let passed := [firstPass, secondPass, thirdPass].foldl (Pass.run words) held
  fun register => (passed register + held register) % 0x100000000

/-!
### The message
-/

/-- The word at a place, counted from the front of the bytes: four bytes, the lowest first. -/
def wordAt (bytes : List UInt8) (i : Nat) : Nat :=
  (bytes.getD (4 * i) 0).toNat + 0x100 * (bytes.getD (4 * i + 1) 0).toNat +
    0x10000 * (bytes.getD (4 * i + 2) 0).toNat + 0x1000000 * (bytes.getD (4 * i + 3) 0).toNat

/-- The registers after all blocks of the bytes, which have sixteen words each. -/
def fold (bytes : List UInt8) (held : Registers) : Registers :=
  (List.range (bytes.length / 64)).foldl
    (fun held block => compress held fun word => wordAt bytes (16 * block + word)) held

/-- The number of zeros is the smallest that, behind a message of this length and one more byte, leaves
    eight bytes of a block. -/
structure Fills (length zeros : Nat) : Prop where
  leaves_eight : (length + 1 + zeros) % 64 = 56
  smallest : ∀ fewer < zeros, (length + 1 + fewer) % 64 ≠ 56

/-- A number as some bytes, the lowest first. -/
def littleEndian (count number : Nat) : List UInt8 :=
  (List.range count).map fun i => UInt8.ofNat (number >>> (8 * i) % 256)

/-- What stands behind a message of this length: a set bit, zeros, and how many bits the message has, modulo
    2⁶⁴. -/
def tail (length zeros : Nat) : List UInt8 :=
  0x80 :: List.replicate zeros 0 ++ littleEndian 8 (8 * length % 0x10000000000000000)

/-- What the registers hold, as bytes. -/
def output (held : Registers) : List UInt8 :=
  littleEndian 4 (held .a) ++ littleEndian 4 (held .b) ++ littleEndian 4 (held .c) ++
    littleEndian 4 (held .d)

end LanAuth.Digest.Md4.Arithmetic
