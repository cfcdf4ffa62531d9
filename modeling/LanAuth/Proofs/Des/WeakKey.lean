/-
Module: LanAuth.Proofs.Des.WeakKey
Layer: Proofs
Purpose: Keys under which the cipher is its own inverse. Decryption takes the subkeys in reverse order, so
  where these read the same from both ends, to encrypt twice is to do nothing. They do for a key that was
  made from bits that are all the same.
Imports: LanAuth.Proofs.Des.ConstantKey, LanAuth.Proofs.Des.Inverse
Trusted boundary: none
Main exports: Des.decrypt_eq_encrypt, Des.encrypt_involutive, Des.encrypt_spread_replicate_involutive
Open obligations: none
-/
import LanAuth.Proofs.Des.ConstantKey
import LanAuth.Proofs.Des.Inverse

namespace LanAuth.Des

section Palindrome

variable {key : Vector UInt8 8}
  (palindrome : (subkeys (Bits.ofBytes key)).reverse = subkeys (Bits.ofBytes key))
include palindrome

theorem decrypt_eq_encrypt (block : Vector UInt8 8) : decrypt key block = encrypt key block := by
  unfold decrypt encrypt
  rw [palindrome]

theorem encrypt_involutive : Function.Involutive (encrypt key) := by
  intro block
  calc encrypt key (encrypt key block)
      = decrypt key (encrypt key block) := (decrypt_eq_encrypt palindrome _).symm
    _ = block := decrypt_encrypt key block

end Palindrome

/-- Seven bytes whose bits are all the same make a key with sixteen times the same subkey. -/
theorem encrypt_spread_replicate_involutive {byte : UInt8} {bit : Bool}
    (uniform : ∀ j < 8, byte.toBitVec.getMsbD j = bit) :
    Function.Involutive (encrypt (spread (Vector.replicate 7 byte))) := by
  apply encrypt_involutive
  rw [subkeys_spread_replicate uniform, List.reverse_replicate]

end LanAuth.Des
