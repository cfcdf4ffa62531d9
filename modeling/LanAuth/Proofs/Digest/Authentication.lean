/-
Module: LanAuth.Proofs.Digest.Authentication
Layer: Proofs
Purpose: Authentication takes every key and every message. A key of any length fills a block, and how a
  message is cut into parts does not show: a digest that is under way is the same after several parts as
  after the parts joined, whatever blocks they straddle.
Imports: LanAuth.Digest.Hmac
Trusted boundary: none
Main exports: Compression.foldl_absorb, Hmac.length_keyBlock, Hmac.authenticate_congr,
  checkedHmacMd5_eq
Open obligations: none
-/
import LanAuth.Digest.Hmac

namespace LanAuth.Digest

namespace Compression

variable (compression : Compression)

/-- A part without bytes changes nothing: what is pending is too short to be compressed. -/
theorem absorb_nil (stream : Stream) : compression.absorb stream [] = stream := by
  have cut : blocks stream.pending = ([], stream.pending) := blocks_of_lt stream.pending_lt
  apply Stream.ext
  · simp only [absorb, List.append_nil, cut, List.foldl_nil]
  · simp only [absorb, List.append_nil, cut]
  · simp only [absorb, List.length_nil, Nat.add_zero]

/-- Taking in part after part is taking in all of them at once. -/
theorem foldl_absorb (parts : List (List UInt8)) (stream : Stream) :
    parts.foldl compression.absorb stream = compression.absorb stream parts.flatten := by
  induction parts generalizing stream with
  | nil => exact (absorb_nil compression stream).symm
  | cons part later ih =>
      rw [List.foldl_cons, List.flatten_cons, absorb_append]
      exact ih (compression.absorb stream part)

end Compression

namespace Hmac

/-- The key of an authentication code fills a block, whatever its own length is. -/
theorem length_keyBlock (compression : Compression) (key : List UInt8) :
    (keyBlock compression key).length = 64 := by
  simp only [keyBlock]
  split
  · next short =>
      rw [List.length_append, List.length_replicate]
      omega
  · rw [List.length_append, List.length_replicate, Vector.length_toList]

/-- Parts that join to the same message have the same code. -/
theorem authenticate_congr (compression : Compression) (key : List UInt8)
    {parts parts' : List (List UInt8)} (same : parts.flatten = parts'.flatten) :
    authenticate compression key parts = authenticate compression key parts' := by
  simp only [authenticate]
  rw [Compression.foldl_absorb, Compression.foldl_absorb, same]

end Hmac

theorem checkedHmacMd5_eq (key : List UInt8) (parts : List (List UInt8)) :
    checkedHmacMd5 key parts = .ok (hmacMd5 key parts) := by
  unfold checkedHmacMd5
  rw [if_pos (Hmac.length_keyBlock Md5.compression key)]

end LanAuth.Digest
