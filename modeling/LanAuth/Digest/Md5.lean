/-
Module: LanAuth.Digest.Md5
Layer: Digest
Purpose: The MD5 digest: four rounds of sixteen steps over each block, each step with a constant of its
  own.
Imports: LanAuth.Digest.Stream
Trusted boundary: human-reviewed spec
Main exports: Md5.compression
Open obligations: none
-/
import LanAuth.Digest.Stream

namespace LanAuth.Digest.Md5

/-- Sixteen steps that mix in the same way. -/
structure Round where
  /-- How three of the words are combined. -/
  mix : UInt32 → UInt32 → UInt32 → UInt32
  /-- By how many places the steps rotate, four steps in turn. -/
  shifts : Vector UInt32 4
  /-- The word of the block that the first step takes in. -/
  start : Nat
  /-- How many words further the next step goes, in a circle. -/
  stride : Nat
  /-- What the steps add, each its own. -/
  constants : List UInt32

/-- The round in which the first word chooses between the other two. -/
def firstRound : Round where
  mix x y z := (x &&& y) ||| (~~~x &&& z)
  shifts := #v[7, 12, 17, 22]
  start := 0
  stride := 1
  constants := [
    0xd76aa478, 0xe8c7b756, 0x242070db, 0xc1bdceee,
    0xf57c0faf, 0x4787c62a, 0xa8304613, 0xfd469501,
    0x698098d8, 0x8b44f7af, 0xffff5bb1, 0x895cd7be,
    0x6b901122, 0xfd987193, 0xa679438e, 0x49b40821]

def secondRound : Round where
  mix x y z := (x &&& z) ||| (y &&& ~~~z)
  shifts := #v[5, 9, 14, 20]
  start := 1
  stride := 5
  constants := [
    0xf61e2562, 0xc040b340, 0x265e5a51, 0xe9b6c7aa,
    0xd62f105d, 0x02441453, 0xd8a1e681, 0xe7d3fbc8,
    0x21e1cde6, 0xc33707d6, 0xf4d50d87, 0x455a14ed,
    0xa9e3e905, 0xfcefa3f8, 0x676f02d9, 0x8d2a4c8a]

/-- The round in which the words are added without carry. -/
def thirdRound : Round where
  mix x y z := x ^^^ y ^^^ z
  shifts := #v[4, 11, 16, 23]
  start := 5
  stride := 3
  constants := [
    0xfffa3942, 0x8771f681, 0x6d9d6122, 0xfde5380c,
    0xa4beea44, 0x4bdecfa9, 0xf6bb4b60, 0xbebfbc70,
    0x289b7ec6, 0xeaa127fa, 0xd4ef3085, 0x04881d05,
    0xd9d4d039, 0xe6db99e5, 0x1fa27cf8, 0xc4ac5665]

def fourthRound : Round where
  mix x y z := y ^^^ (x ||| ~~~z)
  shifts := #v[6, 10, 15, 21]
  start := 0
  stride := 7
  constants := [
    0xf4292244, 0x432aff97, 0xab9423a7, 0xfc93a039,
    0x655b59c3, 0x8f0ccc92, 0xffeff47d, 0x85845dd1,
    0x6fa87e4f, 0xfe2ce6e0, 0xa3014314, 0x4e0811a1,
    0xf7537e82, 0xbd3af235, 0x2ad7d2bb, 0xeb86d391]

/-- One step: a word of the block and a constant go into the first of the four words, which then moves
    to the second place. -/
def Round.step (round : Round) (words : Vector UInt32 16) (s : Chaining)
    (entry : UInt32 × Nat) : Chaining :=
  have turn : entry.2 % 4 < 4 := Nat.mod_lt _ (by decide)
  have place : (round.start + round.stride * entry.2) % 16 < 16 := Nat.mod_lt _ (by decide)
  let word := words[(round.start + round.stride * entry.2) % 16]
  ⟨s.d,
    s.b + rotateWord (s.a + round.mix s.b s.c s.d + word + entry.1) round.shifts[entry.2 % 4],
    s.b, s.c⟩

def Round.run (words : Vector UInt32 16) (s : Chaining) (round : Round) : Chaining :=
  round.constants.zipIdx.foldl (round.step words) s

/-- How MD5 starts and how it takes in a block. -/
def compression : Compression where
  initial := ⟨0x67452301, 0xefcdab89, 0x98badcfe, 0x10325476⟩
  compress chaining block :=
    chaining.add
      ([firstRound, secondRound, thirdRound, fourthRound].foldl (Round.run block.words) chaining)

end LanAuth.Digest.Md5
