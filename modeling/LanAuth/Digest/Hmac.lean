/-
Module: LanAuth.Digest.Hmac
Layer: Digest
Purpose: Message authentication with a keyed digest. The key is brought to the length of a block and goes
  in front of the message and, in another disguise, in front of the digest of that.
Imports: LanAuth.Error, LanAuth.Digest.Md5
Trusted boundary: human-reviewed spec
Main exports: Hmac.keyBlock, Hmac.authenticate, Hmac.ofMessage, hmacMd5, checkedHmacMd5
Open obligations: none
-/
import LanAuth.Error
import LanAuth.Digest.Md5

namespace LanAuth.Digest

namespace Hmac

/-- A key brought to the length of a block: zeros after it, and its digest in its place if it is longer
    than a block. -/
def keyBlock (compression : Compression) (key : List UInt8) : List UInt8 :=
  let short := if key.length ≤ 64 then key else (compression.digest key).toList
  short ++ List.replicate (64 - short.length) 0

/-- A key block in the disguise that one byte gives it. -/
def pad (byte : UInt8) (keyBlock : List UInt8) : List UInt8 :=
  keyBlock.map fun b => b ^^^ byte

/-- The byte that disguises the key in front of the message. -/
def innerByte : UInt8 := 0x36

/-- The byte that disguises the key in front of the inner digest. -/
def outerByte : UInt8 := 0x5c

/-- The code that authenticates a message that arrives in parts. -/
def authenticate (compression : Compression) (key : List UInt8) (parts : List (List UInt8)) :
    Vector UInt8 16 :=
  let block := keyBlock compression key
  let keyed := compression.absorb compression.start (pad innerByte block)
  let inner := compression.finish (parts.foldl compression.absorb keyed)
  compression.finish
    (compression.absorb (compression.absorb compression.start (pad outerByte block)) inner.toList)

/-- The code by its definition: two digests of whole messages. -/
def ofMessage (compression : Compression) (key message : List UInt8) : Vector UInt8 16 :=
  let block := keyBlock compression key
  compression.ofPadded
    (pad outerByte block ++ (compression.ofPadded (pad innerByte block ++ message)).toList)

end Hmac

/-- The code that authenticates the parts of a message under a key, with MD5 as the digest. -/
def hmacMd5 (key : List UInt8) (parts : List (List UInt8)) : Vector UInt8 16 :=
  Hmac.authenticate Md5.compression key parts

/-- The same code where any string of bytes may come as the key. A key that does not fill a block, once it
    is brought to that length, is refused. -/
def checkedHmacMd5 (key : List UInt8) (parts : List (List UInt8)) :
    Except HashError (Vector UInt8 16) :=
  if (Hmac.keyBlock Md5.compression key).length = 64 then
    .ok (hmacMd5 key parts)
  else
    .error (.invalidKey .hmacMd5 key.length)

end LanAuth.Digest
