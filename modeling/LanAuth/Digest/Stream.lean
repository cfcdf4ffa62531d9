/-
Module: LanAuth.Digest.Stream
Layer: Digest
Purpose: The digest of a message that arrives in parts. Whole blocks are compressed as they come; at most
  one unfinished block is kept.
Imports: LanAuth.Digest.Compression
Trusted boundary: none
Main exports: Stream, Compression.start, Compression.absorb, Compression.finish, Compression.digest,
  Compression.absorb_append
Open obligations: none
-/
import LanAuth.Digest.Compression

namespace LanAuth.Digest

/-- A digest that is under way. -/
@[ext] structure Stream where
  /-- What came out of the blocks taken in so far. -/
  chaining : Chaining
  /-- The bytes after the last whole block. -/
  pending : List UInt8
  /-- The number of bytes taken in so far. -/
  total : Nat
  pending_lt : pending.length < 64

namespace Compression

/-- The digest before its first byte. -/
def start (compression : Compression) : Stream where
  chaining := compression.initial
  pending := []
  total := 0
  pending_lt := by decide

/-- Take in a part of the message. Whole blocks are compressed at once. -/
def absorb (compression : Compression) (stream : Stream) (part : List UInt8) : Stream :=
  let cut := blocks (stream.pending ++ part)
  { chaining := cut.1.foldl compression.compress stream.chaining
    pending := cut.2
    total := stream.total + part.length
    pending_lt := blocks_rest_lt _ }

/-- The digest of all that was taken in. -/
def finish (compression : Compression) (stream : Stream) : Vector UInt8 16 :=
  ((blocks (stream.pending ++ padding stream.total)).1.foldl compression.compress
    stream.chaining).toBytes

def digest (compression : Compression) (message : List UInt8) : Vector UInt8 16 :=
  compression.finish (compression.absorb compression.start message)

end Compression

/-!
### Parts

Taking in two parts is the same as taking in the two joined, so how a message is split never shows.
-/

namespace Compression

theorem absorb_append (compression : Compression) (stream : Stream) (front back : List UInt8) :
    compression.absorb stream (front ++ back) =
      compression.absorb (compression.absorb stream front) back := by
  apply Stream.ext
  · simp [absorb, ← List.append_assoc, blocks_append (stream.pending ++ front) back]
  · simp [absorb, ← List.append_assoc, blocks_append (stream.pending ++ front) back]
  · simp [absorb, Nat.add_assoc]

end Compression

end LanAuth.Digest
