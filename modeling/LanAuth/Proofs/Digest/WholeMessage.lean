/-
Module: LanAuth.Proofs.Digest.WholeMessage
Layer: Proofs
Purpose: Digests and authentication codes are what their definitions say of whole messages. A digest that is
  fed part by part, with a block kept unfinished in between, is the digest of the padded message; so the code
  that is fed in that way is two digests of whole messages, behind a key block that is made from the key by
  the rule for its length.
Imports: LanAuth.Proofs.Digest.Authentication
Trusted boundary: none
Main exports: Compression.finish_absorb, Compression.digest_eq_ofPadded, Hmac.authenticate_eq_ofMessage, Hmac.keyBlock_of_le,
  Hmac.keyBlock_of_lt, Hmac.keyBlock_append_zeros, Hmac.keyBlock_ofPadded, checkedHmacMd5_congr,
  authentication_code_by_definition, hmacMd5_hi_there
Open obligations: none
-/
import LanAuth.Proofs.Digest.Authentication

namespace LanAuth.Digest

namespace Compression

variable (compression : Compression)

/-- The blocks of the padded message are those that were compressed on the way, then those of what was still
    pending with the padding behind it. -/
theorem finish_absorb (stream : Stream) (part : List UInt8) :
    compression.finish (compression.absorb stream part) =
      ((blocks (stream.pending ++ part ++ padding (stream.total + part.length))).1.foldl
        compression.compress stream.chaining).toBytes := by
  have cut := blocks_append (stream.pending ++ part) (padding (stream.total + part.length))
  simp only [absorb, finish]
  rw [cut, List.foldl_append]

theorem digest_eq_ofPadded (message : List UInt8) :
    compression.digest message = compression.ofPadded message := by
  have fed := compression.finish_absorb compression.start message
  simp only [start, List.nil_append, Nat.zero_add] at fed
  exact fed

end Compression

namespace Hmac

section

variable (compression : Compression)

/-- The code that is fed part by part is the code of the joined message. -/
theorem authenticate_eq_ofMessage (key : List UInt8) (parts : List (List UInt8)) :
    authenticate compression key parts = ofMessage compression key parts.flatten := by
  simp only [authenticate, ofMessage, ← Compression.digest_eq_ofPadded, Compression.digest]
  rw [Compression.foldl_absorb, Compression.absorb_append, Compression.absorb_append]

/-!
### The key block

What is made from a key depends on whether it fits into a block. Both rules give zeros behind what they keep.
-/

theorem keyBlock_of_le {key : List UInt8} (short : key.length ≤ 64) :
    keyBlock compression key = key ++ List.replicate (64 - key.length) 0 := by
  simp only [keyBlock]
  rw [if_pos short]

theorem keyBlock_of_lt {key : List UInt8} (long : 64 < key.length) :
    keyBlock compression key = (compression.ofPadded key).toList ++ List.replicate 48 0 := by
  simp only [keyBlock]
  rw [if_neg (by omega), Vector.length_toList, Compression.digest_eq_ofPadded]

theorem keyBlock_append_zeros {key : List UInt8} {count : Nat} (fits : key.length + count ≤ 64) :
    keyBlock compression (key ++ List.replicate count 0) = keyBlock compression key := by
  have length : (key ++ List.replicate count 0).length = key.length + count := by
    rw [List.length_append, List.length_replicate]
  have zeros : count + (64 - (key.length + count)) = 64 - key.length := by omega
  rw [keyBlock_of_le compression (by omega), keyBlock_of_le compression (by omega), length,
    List.append_assoc, List.replicate_append_replicate, zeros]

theorem keyBlock_ofPadded {key : List UInt8} (long : 64 < key.length) :
    keyBlock compression (compression.ofPadded key).toList = keyBlock compression key := by
  have length : (compression.ofPadded key).toList.length = 16 := Vector.length_toList
  rw [keyBlock_of_lt compression long, keyBlock_of_le compression (by omega), length]

end

end Hmac

/-- Keys with the same block, and parts that join to the same message, have the same code. -/
theorem checkedHmacMd5_congr {key key' : List UInt8} {parts parts' : List (List UInt8)}
    (sameKey : Hmac.keyBlock Md5.compression key = Hmac.keyBlock Md5.compression key')
    (sameMessage : parts.flatten = parts'.flatten) :
    checkedHmacMd5 key parts = checkedHmacMd5 key' parts' := by
  simp only [checkedHmacMd5_eq, hmacMd5, Hmac.authenticate_eq_ofMessage, Hmac.ofMessage, sameKey,
    sameMessage]

/-- The authentication code of a message in parts is given for every key, and is the one of the definition:
    the MD5 digest of the key block in its outer disguise and of the digest of the key block in its inner
    disguise and of the joined parts. The key block is the key with zeros behind it, or the digest of the key
    with zeros behind it if the key is longer than a block. So how a message is cut into parts does not
    show; nor do zeros behind a key, up to the length of a block; and a longer key stands for its digest. -/
theorem authentication_code_by_definition :
    (∀ (key : List UInt8) (parts : List (List UInt8)), ∃ block : List UInt8,
      block.length = 64 ∧
      (key.length ≤ 64 → block = key ++ List.replicate (64 - key.length) 0) ∧
      (64 < key.length →
        block = (Md5.compression.ofPadded key).toList ++ List.replicate 48 0) ∧
      checkedHmacMd5 key parts =
        .ok (Md5.compression.ofPadded (block.map (· ^^^ 0x5c) ++
          (Md5.compression.ofPadded (block.map (· ^^^ 0x36) ++ parts.flatten)).toList))) ∧
    (∀ (key : List UInt8) (parts parts' : List (List UInt8)), parts.flatten = parts'.flatten →
      checkedHmacMd5 key parts = checkedHmacMd5 key parts') ∧
    (∀ (key : List UInt8) (parts : List (List UInt8)) (count : Nat), key.length + count ≤ 64 →
      checkedHmacMd5 (key ++ List.replicate count 0) parts = checkedHmacMd5 key parts) ∧
    ∀ (key : List UInt8) (parts : List (List UInt8)), 64 < key.length →
      checkedHmacMd5 key parts = checkedHmacMd5 (Md5.compression.ofPadded key).toList parts := by
  refine ⟨?_, ?_, ?_, ?_⟩
  · intro key parts
    refine ⟨Hmac.keyBlock Md5.compression key, Hmac.length_keyBlock Md5.compression key,
      Hmac.keyBlock_of_le Md5.compression, Hmac.keyBlock_of_lt Md5.compression, ?_⟩
    rw [checkedHmacMd5_eq, hmacMd5, Hmac.authenticate_eq_ofMessage]
    rfl
  · intro key parts parts' same
    exact checkedHmacMd5_congr rfl same
  · intro key parts count fits
    exact checkedHmacMd5_congr (Hmac.keyBlock_append_zeros Md5.compression fits) rfl
  · intro key parts long
    exact checkedHmacMd5_congr (Hmac.keyBlock_ofPadded Md5.compression long).symm rfl

/-- The published code of `Hi There` under a key of sixteen bytes. -/
theorem hmacMd5_hi_there :
    hmacMd5 (List.replicate 16 0x0b) [[0x48, 0x69, 0x20, 0x54, 0x68, 0x65, 0x72, 0x65]] =
      #v[0x92, 0x94, 0x72, 0x7a, 0x36, 0x38, 0xbb, 0x1c,
        0x13, 0xf4, 0x8e, 0xf8, 0x15, 0x8b, 0xfc, 0x9d] := by
  decide +kernel

/-- One message in two ways, with a part that is empty, and its published code; a key with as many zeros as
    fit; and the shortest key that does not. -/
theorem authentication_code_by_definition_hi_there :
    ([[0x48, 0x69, 0x20], [], [0x54, 0x68, 0x65, 0x72, 0x65]] : List (List UInt8)).flatten =
      [[0x48, 0x69, 0x20, 0x54, 0x68, 0x65, 0x72, 0x65]].flatten ∧
    (List.replicate 16 (0x0b : UInt8)).length + 48 ≤ 64 ∧
    64 < (List.replicate 65 (0x0b : UInt8)).length ∧
    checkedHmacMd5 (List.replicate 16 0x0b) [[0x48, 0x69, 0x20], [], [0x54, 0x68, 0x65, 0x72, 0x65]] =
      checkedHmacMd5 (List.replicate 16 0x0b) [[0x48, 0x69, 0x20, 0x54, 0x68, 0x65, 0x72, 0x65]] ∧
    checkedHmacMd5 (List.replicate 16 0x0b) [[0x48, 0x69, 0x20], [], [0x54, 0x68, 0x65, 0x72, 0x65]] =
      .ok #v[0x92, 0x94, 0x72, 0x7a, 0x36, 0x38, 0xbb, 0x1c,
        0x13, 0xf4, 0x8e, 0xf8, 0x15, 0x8b, 0xfc, 0x9d] ∧
    checkedHmacMd5 (List.replicate 16 0x0b ++ List.replicate 48 0) [] =
      checkedHmacMd5 (List.replicate 16 0x0b) [] ∧
    checkedHmacMd5 (List.replicate 65 0x0b) [] =
      checkedHmacMd5 (Md5.compression.ofPadded (List.replicate 65 0x0b)).toList [] := by
  obtain ⟨-, joined, filled, hashed⟩ := authentication_code_by_definition
  have same : ([[0x48, 0x69, 0x20], [], [0x54, 0x68, 0x65, 0x72, 0x65]] : List (List UInt8)).flatten =
      [[0x48, 0x69, 0x20, 0x54, 0x68, 0x65, 0x72, 0x65]].flatten := rfl
  have fits : (List.replicate 16 (0x0b : UInt8)).length + 48 ≤ 64 := by decide
  have long : 64 < (List.replicate 65 (0x0b : UInt8)).length := by decide
  refine ⟨same, fits, long, joined _ _ _ same, ?_, filled _ _ _ fits, hashed _ _ long⟩
  rw [joined _ _ _ same, checkedHmacMd5_eq, hmacMd5_hi_there]

end LanAuth.Digest
