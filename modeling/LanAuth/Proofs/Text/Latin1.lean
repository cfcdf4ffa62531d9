/-
Module: LanAuth.Proofs.Text.Latin1
Layer: Proofs
Purpose: Text with one byte for each character, read back. Bytes survive being read as text and written
  again, and text that is in uppercase survives uppercase.
Imports: LanAuth.Text.Latin1, LanAuth.Proofs.Text.Uppercase
Trusted boundary: none
Main exports: Latin1.byte_char, Latin1.encode_decode, Latin1.not_isLower_byte,
  Latin1.not_isLower_of_mem_encode_uppercase, Latin1.uppercase_decode
Open obligations: none
-/
import LanAuth.Text.Latin1
import LanAuth.Proofs.Text.Uppercase

namespace LanAuth.Text.Latin1

open Uppercase (IsLower)

@[simp] theorem toNat_char (b : UInt8) : (char b).toNat = b.toNat :=
  toNat_ofNat_of_lt b.toNat_lt_size

@[simp] theorem byte_char (b : UInt8) : byte (char b) = b := by
  have small : (char b).toNat < 256 := by
    rw [toNat_char]
    exact b.toNat_lt_size
  unfold byte
  rw [if_pos small, toNat_char, UInt8.ofNat_toNat]

@[simp] theorem encode_decode (bytes : List UInt8) : encode (decode bytes) = bytes := by
  unfold encode decode
  rw [String.toList_ofList, List.map_map]
  calc bytes.map (byte ∘ char) = bytes.map id := List.map_congr_left fun b _ => byte_char b
    _ = bytes := List.map_id bytes

/-- A character that is not lowercase has no lowercase byte: its own, or a question mark. -/
theorem not_isLower_byte {c : Char} (upper : ¬ IsLower c.toNat) : ¬ IsLower (byte c).toNat := by
  unfold byte
  split
  · next small =>
      have own : (UInt8.ofNat c.toNat).toNat = c.toNat := UInt8.toNat_ofNat_of_lt' small
      rw [own]
      exact upper
  · decide

/-- Text in uppercase is written without lowercase bytes. -/
theorem not_isLower_of_mem_encode_uppercase {text : String} {b : UInt8}
    (h : b ∈ encode (uppercase text)) : ¬ IsLower b.toNat := by
  unfold encode at h
  rw [toList_uppercase] at h
  obtain ⟨c, produced, rfl⟩ := List.mem_map.mp h
  obtain ⟨source, -, image⟩ := List.mem_flatMap.mp produced
  exact not_isLower_byte (Uppercase.not_isLower_of_mem_ofChar image)

/-- Bytes without a lowercase one are read as text that is its own uppercase. -/
theorem uppercase_decode {bytes : List UInt8} (upper : ∀ b ∈ bytes, ¬ IsLower b.toNat) :
    uppercase (decode bytes) = decode bytes := by
  have own : ∀ c ∈ bytes.map char, Uppercase.ofChar c = [c] := by
    intro c listed
    obtain ⟨b, there, rfl⟩ := List.mem_map.mp listed
    have small : (char b).toNat < 256 := by
      rw [toNat_char]
      exact b.toNat_lt_size
    apply Uppercase.ofChar_eq_self small
    rw [toNat_char]
    exact upper b there
  apply String.toList_injective
  rw [toList_uppercase]
  unfold decode
  rw [String.toList_ofList, Uppercase.ofChars_eq_self own]

end LanAuth.Text.Latin1
