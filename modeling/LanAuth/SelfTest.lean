/-
Module: LanAuth.SelfTest
Layer: Schemes
Purpose: The primitives compared with published answers, before any password is entrusted to them.
Imports: LanAuth.KeyMaterial, LanAuth.Digest.Md4, LanAuth.Digest.Hmac
Trusted boundary: human-reviewed data
Main exports: SelfTest.demandAnswer, SelfTest.Suite, SelfTest.Suite.run, SelfTest.run, SelfTest.available
Open obligations: none
-/
import LanAuth.KeyMaterial
import LanAuth.Digest.Md4
import LanAuth.Digest.Hmac

namespace LanAuth.SelfTest

def cipherKey : List UInt8 := [0x01, 0x23, 0x45, 0x67, 0x89, 0xab, 0xcd, 0xef]

/-- The block of the cipher's published answer: the characters `Now is t`. -/
def cipherBlock : Vector UInt8 8 := #v[0x4e, 0x6f, 0x77, 0x20, 0x69, 0x73, 0x20, 0x74]

def cipherAnswer : Vector UInt8 8 := #v[0x3f, 0xa4, 0x0e, 0x8a, 0x98, 0x4d, 0x48, 0x15]

/-- The message of the digest's published answer: the characters `abc`. -/
def digestMessage : List UInt8 := [0x61, 0x62, 0x63]

def digestAnswer : Vector UInt8 16 := #v[
  0xa4, 0x48, 0x01, 0x7a, 0xaf, 0x21, 0xd8, 0x52, 0x5f, 0xc1, 0x0a, 0xe8, 0x7a, 0xa6, 0x72, 0x9d]

def codeKey : List UInt8 := List.replicate 16 0x0b

/-- The message of the published authentication code: the characters `Hi There`. -/
def codeMessage : List UInt8 := [0x48, 0x69, 0x20, 0x54, 0x68, 0x65, 0x72, 0x65]

def codeAnswer : Vector UInt8 16 := #v[
  0x92, 0x94, 0x72, 0x7a, 0x36, 0x38, 0xbb, 0x1c, 0x13, 0xf4, 0x8e, 0xf8, 0x15, 0x8b, 0xfc, 0x9d]

/-- Warn of a primitive that does not give its published answer, and refuse to go on. -/
def demandAnswer (primitive : Primitive) (given : Bool) : Traced Unit := do
  if given then
    return ()
  else
    Traced.record (.checkFailed primitive)
    Traced.refuse (.unavailable primitive)

/-- Implementations of the primitives. -/
structure Suite where
  encrypt : List UInt8 → Vector UInt8 8 → Traced (Vector UInt8 8)
  digest : List UInt8 → Vector UInt8 16
  authenticate : List UInt8 → List (List UInt8) → Except HashError (Vector UInt8 16)

namespace Suite

/-- Compare each primitive with its published answer. The first that differs is the one refused. -/
def run (suite : Suite) : Traced Unit := do
  let encrypted ← (suite.encrypt cipherKey cipherBlock).attempt
  demandAnswer .des (encrypted == some cipherAnswer)
  demandAnswer .md4 (suite.digest digestMessage == digestAnswer)
  demandAnswer .hmacMd5 ((suite.authenticate codeKey [codeMessage]).toOption == some codeAnswer)

/-- Every primitive gives its published answer. -/
def available (suite : Suite) : Traced Bool := do
  return (← suite.run.attempt).isSome

end Suite

/-- The implementations that passwords are entrusted to. -/
def inUse : Suite where
  encrypt := encryptBlock
  digest := Digest.Md4.digest
  authenticate := Digest.checkedHmacMd5

def run : Traced Unit :=
  inUse.run

def available : Traced Bool :=
  inUse.available

end LanAuth.SelfTest
