/-
Module: LanAuth.LanMan
Layer: Schemes
Purpose: The LAN Manager hash of a password and the answer that it gives to a challenge.
Imports: LanAuth.ChallengeResponse, LanAuth.Text.Uppercase, LanAuth.Text.Latin1
Trusted boundary: none
Main exports: LanMan.keyMaterial, LanMan.oneWay, LanMan.oneWay_eq_encryptUnderEach, LanMan.magic, LanMan.hash,
  LanMan.response
Open obligations: none
-/
import LanAuth.ChallengeResponse
import LanAuth.Text.Uppercase
import LanAuth.Text.Latin1

namespace LanAuth.LanMan

/-- The password as material for two keys: in uppercase, with one byte for each character, cut or filled
    up with zeros to fourteen bytes. A password that the encoding has no form for is refused. -/
def keyMaterial (password : String) : Except HashError (Vector UInt8 14) :=
  match Text.Latin1.encode? (Text.uppercase password) with
  | some bytes => .ok (fit 14 bytes)
  | none => .error (.unmet .unencodablePassword)

/-- No password is refused: the encoding has a form for every text. -/
theorem keyMaterial_eq (password : String) :
    keyMaterial password = .ok (fit 14 (Text.Latin1.encode (Text.uppercase password))) := rfl

/-- A block encrypted under both halves of the password, the results side by side. -/
def oneWay (password : String) (block : Vector UInt8 8) : Traced (Vector UInt8 16) := do
  let material ← Traced.ofExcept (keyMaterial password)
  let first ← encryptUnder material.toList 0 block
  let second ← encryptUnder material.toList 7 block
  return first ++ second

/-- The halves are the first two chunks of the material. -/
theorem oneWay_eq_encryptUnderEach (password : String) (block : Vector UInt8 8) :
    oneWay password block =
      Traced.ofExcept (keyMaterial password) >>= fun material =>
        encryptUnderEach material.toList block 2 := by
  unfold oneWay
  simp only [encryptUnderEach_two]

/-- The block whose encrypted form is the hash: the characters `KGS!@#$%`. -/
def magic : Vector UInt8 8 := #v[0x4b, 0x47, 0x53, 0x21, 0x40, 0x23, 0x24, 0x25]

def hash (password : String) : Traced (Vector UInt8 16) :=
  oneWay password magic

def response (password : String) (challenge : Challenge) : Traced (Vector UInt8 24) := do
  let hash ← hash password
  answer (extendHash hash) challenge

end LanAuth.LanMan
