/-
Module: LanAuth.Ntlm
Layer: Schemes
Purpose: The NT hash of a password, the answer that it gives to a challenge, and the hash that binds it to
  a username and a domain.
Imports: LanAuth.ChallengeResponse, LanAuth.Digest.Md4, LanAuth.Digest.Hmac, LanAuth.Text.Uppercase,
  LanAuth.Text.Utf16
Trusted boundary: none
Main exports: Ntlm.hash, Ntlm.response, Ntlm.boundHash, Ntlm.boundHashOfStored, Ntlm.boundResponse,
  Ntlm.boundResponseOfStored
Open obligations: none
-/
import LanAuth.ChallengeResponse
import LanAuth.Digest.Md4
import LanAuth.Digest.Hmac
import LanAuth.Text.Uppercase
import LanAuth.Text.Utf16

namespace LanAuth.Ntlm

/-- The hash of the password, exactly as it was typed. -/
def hash (password : String) : Vector UInt8 16 :=
  Digest.Md4.digest (Text.Utf16.encode password)

/-- The answer to a challenge. -/
def response (password : String) (challenge : Challenge) : Traced (Vector UInt8 24) :=
  answer (extendHash (hash password)) challenge

/-- The message that names a user and a domain, both in uppercase. -/
def identity (username domain : String) : List UInt8 :=
  Text.Utf16.encode (Text.uppercase username ++ Text.uppercase domain)

/-- The hash of the password bound to a username and a domain, whatever their case. -/
def boundHash (password username domain : String) : Vector UInt8 16 :=
  Digest.hmacMd5 (hash password).toList [identity username domain]

/-- A stored hash bound to a username and a domain. The case of the username does not matter; the domain
    is taken as it is written. -/
def boundHashOfStored (stored : Vector UInt8 16) (username domain : String) : Vector UInt8 16 :=
  Digest.hmacMd5 stored.toList
    [Text.Utf16.encode (Text.uppercase username), Text.Utf16.encode domain]

/-- What is sent for a password, a username and a domain, if the hash of the password can be a key. -/
def boundResponse (password username domain : String) : Except HashError (Vector UInt8 16) :=
  Digest.checkedHmacMd5 (hash password).toList [identity username domain]

/-- What is sent for a stored hash, a username and a domain, if the stored hash can be a key. -/
def boundResponseOfStored (stored : Vector UInt8 16) (username domain : String) :
    Except HashError (Vector UInt8 16) :=
  Digest.checkedHmacMd5 stored.toList
    [Text.Utf16.encode (Text.uppercase username), Text.Utf16.encode domain]

end LanAuth.Ntlm
