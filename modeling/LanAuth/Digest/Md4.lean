/-
Module: LanAuth.Digest.Md4
Layer: Digest
Purpose: The MD4 digest: three rounds of sixteen steps over each block, each round with a constant of its
  own.
Imports: LanAuth.Digest.Stream
Trusted boundary: human-reviewed spec
Main exports: Md4.compression, Md4.digest
Open obligations: none
-/
import LanAuth.Digest.Stream

namespace LanAuth.Digest.Md4

/-- Sixteen steps that mix in the same way. -/
structure Round where
  /-- How three of the words are combined. -/
  mix : UInt32 → UInt32 → UInt32 → UInt32
  /-- What each step adds. -/
  constant : UInt32
  /-- By how many places the steps rotate, four steps in turn. -/
  shifts : Vector UInt32 4
  /-- The words of the block that the steps take in. -/
  order : List (Fin 16)

/-- The round in which the first word chooses between the other two. -/
def firstRound : Round where
  mix x y z := (x &&& y) ||| (~~~x &&& z)
  constant := 0
  shifts := #v[3, 7, 11, 19]
  order := [0, 1, 2, 3, 4, 5, 6, 7, 8, 9, 10, 11, 12, 13, 14, 15]

/-- The round in which the majority of the words decides. -/
def secondRound : Round where
  mix x y z := (x &&& y) ||| (x &&& z) ||| (y &&& z)
  constant := 0x5a827999
  shifts := #v[3, 5, 9, 13]
  order := [0, 4, 8, 12, 1, 5, 9, 13, 2, 6, 10, 14, 3, 7, 11, 15]

/-- The round in which the words are added without carry. -/
def thirdRound : Round where
  mix x y z := x ^^^ y ^^^ z
  constant := 0x6ed9eba1
  shifts := #v[3, 9, 11, 15]
  order := [0, 8, 4, 12, 2, 10, 6, 14, 1, 9, 5, 13, 3, 11, 7, 15]

/-- One step: a word of the block goes into the first of the four words, which then moves to the second
    place. -/
def Round.step (round : Round) (words : Vector UInt32 16) (s : Chaining)
    (entry : Fin 16 × Nat) : Chaining :=
  have turn : entry.2 % 4 < 4 := Nat.mod_lt _ (by decide)
  ⟨s.d,
    rotateWord (s.a + round.mix s.b s.c s.d + words[entry.1.val] + round.constant)
      round.shifts[entry.2 % 4],
    s.b, s.c⟩

def Round.run (words : Vector UInt32 16) (s : Chaining) (round : Round) : Chaining :=
  round.order.zipIdx.foldl (round.step words) s

/-- How MD4 starts and how it takes in a block. -/
def compression : Compression where
  initial := ⟨0x67452301, 0xefcdab89, 0x98badcfe, 0x10325476⟩
  compress chaining block :=
    chaining.add ([firstRound, secondRound, thirdRound].foldl (Round.run block.words) chaining)

def digest (message : List UInt8) : Vector UInt8 16 :=
  compression.digest message

end LanAuth.Digest.Md4
