/-
Module: LanAuth.Des.KeyExpansion
Layer: Cipher
Purpose: The 56 bits of seven bytes as a key of eight bytes, seven bits to a byte, and back.
Imports: none
Trusted boundary: human-reviewed spec
Main exports: spread, gather
Open obligations: none
-/

namespace LanAuth.Des

/-- Seven bytes as a key: seven bits go into the upper part of each key byte, and its lowest bit, the
    parity bit, stays zero. What does not fit into one key byte is carried into the next. -/
def spread (chunk : Vector UInt8 7) : Vector UInt8 8 := #v[
  chunk[0] &&& 0xfe,
  (chunk[0] <<< 7 ||| chunk[1] >>> 1) &&& 0xfe,
  (chunk[1] <<< 6 ||| chunk[2] >>> 2) &&& 0xfe,
  (chunk[2] <<< 5 ||| chunk[3] >>> 3) &&& 0xfe,
  (chunk[3] <<< 4 ||| chunk[4] >>> 4) &&& 0xfe,
  (chunk[4] <<< 3 ||| chunk[5] >>> 5) &&& 0xfe,
  (chunk[5] <<< 2 ||| chunk[6] >>> 6) &&& 0xfe,
  chunk[6] <<< 1]

/-- The upper seven bits of each key byte, joined into seven bytes. The parity bits are left out. -/
def gather (key : Vector UInt8 8) : Vector UInt8 7 :=
  Vector.ofFn fun i =>
    (key[i.val] &&& 0xfe) <<< UInt8.ofNat i.val ||| key[i.val + 1] >>> UInt8.ofNat (7 - i.val)

end LanAuth.Des
