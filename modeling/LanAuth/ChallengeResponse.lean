/-
Module: LanAuth.ChallengeResponse
Layer: Schemes
Purpose: The answer to a challenge that proves knowledge of a hash: the challenge encrypted under each of
  the three chunks that the hash makes after zeros are put behind it.
Imports: LanAuth.KeyMaterial
Trusted boundary: none
Main exports: Challenge, challengeOfBytes, extendHash, answer
Open obligations: none
-/
import LanAuth.KeyMaterial

namespace LanAuth

/-- What a server sends for a client to encrypt. -/
abbrev Challenge := Vector UInt8 challengeLength

/-- The bytes as a challenge; any other number of bytes than a challenge has is refused. -/
def challengeOfBytes (bytes : List UInt8) : Except HashError Challenge :=
  if fits : bytes.length = challengeLength then
    .ok ⟨bytes.toArray, by simpa using fits⟩
  else
    .error (.unmet (.challengeLength bytes.length))

/-- A hash as material for three keys: five zeros behind it. -/
def extendHash (hash : Vector UInt8 16) : Vector UInt8 21 :=
  fit 21 hash.toList

/-- The answer to a challenge, from material for three keys. -/
def answer (material : Vector UInt8 21) (challenge : Challenge) : Traced (Vector UInt8 24) :=
  encryptUnderEach material.toList challenge 3

end LanAuth
