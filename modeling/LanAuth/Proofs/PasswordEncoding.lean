/-
Module: LanAuth.Proofs.PasswordEncoding
Layer: Proofs
Purpose: What the hash of a password is computed from. The bytes are the form of the password in units of 16
  bits: nothing is added, changed or cut, the password can be read back, and every well-formed string of
  bytes belongs to exactly one password. So two passwords always give the hash different bytes.
Imports: LanAuth.Proofs.Response, LanAuth.Proofs.Text.Surrogates
Trusted boundary: none
Main exports: hashed_bytes_tell_passwords_apart
Open obligations: none
-/
import LanAuth.Proofs.Response
import LanAuth.Proofs.Text.Surrogates

namespace LanAuth

open Text.Utf16 (encode decode? WellFormed)

/-- A text has two bytes for each character up to U+FFFF and four for each one beyond, no mark in front of
    its own first character, and is read back from its bytes; the bytes of some text, and then of that one
    alone, are those that are well formed, and the bytes of a text and of another behind it are those of
    both. The schemes that hash the password answer with what they make of the hash of these bytes, which no
    other password has. -/
theorem hashed_bytes_tell_passwords_apart :
    (∀ text : String,
      (encode text).length =
        2 * text.toList.countP (fun c => c.toNat < 0x10000) +
          4 * text.toList.countP (fun c => 0x10000 ≤ c.toNat) ∧
      ((encode text).take 2 = [0xff, 0xfe] ↔ text.toList.head? = some (Char.ofNat 0xfeff)) ∧
      decode? (encode text) = some text) ∧
    (∀ bytes : List UInt8, WellFormed bytes ↔
      ∃ text, encode text = bytes ∧ ∀ text', encode text' = bytes → text' = text) ∧
    (∀ front back : String, encode (front ++ back) = encode front ++ encode back) ∧
    (∀ (password : String) (challenge : Challenge),
      (∀ username domain : Option String,
        (respond .ntlmV1 password challenge.toList username domain).outcome =
          .ok (chain (extendHash (Digest.Md4.digest (encode password))).toList challenge 3).toList) ∧
      (∀ username domain : String,
        (respond .ntlmV2 password challenge.toList (some username) (some domain)).outcome =
          .ok (Digest.hmacMd5 (Digest.Md4.digest (encode password)).toList
            [Ntlm.identity username domain]).toList) ∧
      ∀ username domain : Option String,
        (respond .ntHash password challenge.toList username domain).outcome =
          .ok (Digest.Md4.digest (encode password)).toList) ∧
    ∀ password password' : String, encode password = encode password' ↔ password = password' := by
  refine ⟨?_, ?_, ?_, ?_, ?_⟩
  · intro text
    refine ⟨?_, ?_, ?_⟩
    · exact Text.Utf16.length_encode text
    · exact Text.Utf16.take_two_encode_eq_mark_iff text
    · exact Text.Utf16.decode?_encode text
  · intro bytes
    exact Text.Utf16.wellFormed_iff
  · exact Text.Utf16.encode_append
  · intro password challenge
    refine ⟨?_, ?_, ?_⟩
    · intro username domain
      exact congrArg Traced.outcome (respond_ntlmV1 password username domain challenge)
    · intro username domain
      exact congrArg Traced.outcome (respond_ntlmV2 password username domain challenge)
    · intro username domain
      exact congrArg Traced.outcome (respond_ntHash password username domain challenge)
  · intro password password'
    exact Text.Utf16.encode_inj

/-- One pair of units is one text, and a letter with its accent is not the letter and the accent. -/
theorem hashed_bytes_tell_passwords_apart_accent :
    WellFormed [0x3d, 0xd8, 0x00, 0xde] ∧
    (∃ text, encode text = [0x3d, 0xd8, 0x00, 0xde] ∧
      ∀ text', encode text' = [0x3d, 0xd8, 0x00, 0xde] → text' = text) ∧
    encode "\u00e9" ≠ encode "e\u0301" := by
  obtain ⟨-, belongs, -, -, apart⟩ := hashed_bytes_tell_passwords_apart
  have formed : WellFormed [0x3d, 0xd8, 0x00, 0xde] :=
    (Text.Utf16.isSome_decode?_iff _).mp (by decide)
  have different : "\u00e9" ≠ "e\u0301" := by decide
  refine ⟨formed, (belongs _).mp formed, ?_⟩
  intro same
  exact different ((apart _ _).mp same)

end LanAuth
