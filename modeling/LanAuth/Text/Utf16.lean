/-
Module: LanAuth.Text.Utf16
Layer: Text
Purpose: Text in units of 16 bits, the lower byte of each unit first, and back. Characters beyond U+FFFF
  take a pair of units; nothing is written in front of the text.
Imports: none
Trusted boundary: none
Main exports: Utf16.units, Utf16.encode, Utf16.decode?, Utf16.encode_append
Open obligations: none
-/

namespace LanAuth.Text.Utf16

/-- The units of a character: itself up to U+FFFF; beyond that the upper and the lower ten bits of what
    exceeds U+FFFF, each marked by the range that it is moved to. -/
def units (c : Char) : List UInt16 :=
  if c.toNat < 0x10000 then
    [UInt16.ofNat c.toNat]
  else
    [UInt16.ofNat (0xd800 + (c.toNat - 0x10000) / 0x400),
      UInt16.ofNat (0xdc00 + (c.toNat - 0x10000) % 0x400)]

/-- The two bytes of a unit, the lower one first. -/
def unitBytes (unit : UInt16) : List UInt8 :=
  [unit.toUInt8, (unit >>> 8).toUInt8]

/-- The bytes of a string of characters. -/
def encodeChars (chars : List Char) : List UInt8 :=
  (chars.flatMap units).flatMap unitBytes

/-- The text as bytes. -/
def encode (text : String) : List UInt8 :=
  encodeChars text.toList

/-- The unit that two bytes spell, the lower one first. -/
def unitOfBytes (low high : UInt8) : UInt16 :=
  low.toUInt16 ||| high.toUInt16 <<< 8

/-- The units that bytes spell. An odd number of bytes is refused. -/
def unitsOfBytes? : List UInt8 → Option (List UInt16)
  | [] => some []
  | [_] => none
  | low :: high :: rest => (unitsOfBytes? rest).map (unitOfBytes low high :: ·)

/-- The unit is the first of a pair. -/
def isHigh (unit : UInt16) : Bool :=
  0xd800 ≤ unit.toNat && unit.toNat < 0xdc00

/-- The unit is the second of a pair. -/
def isLow (unit : UInt16) : Bool :=
  0xdc00 ≤ unit.toNat && unit.toNat < 0xe000

/-- The character that a pair of units stands for. -/
def pairChar (high low : UInt16) : Char :=
  Char.ofNat (0x10000 + (high.toNat - 0xd800) * 0x400 + (low.toNat - 0xdc00))

/-- The characters that units stand for. A unit of a pair without the other is refused. -/
def charsOfUnits? : List UInt16 → Option (List Char)
  | [] => some []
  | [unit] => if isHigh unit || isLow unit then none else some [Char.ofNat unit.toNat]
  | unit :: next :: rest =>
      if isHigh unit then
        if isLow next then (charsOfUnits? rest).map (pairChar unit next :: ·) else none
      else if isLow unit then
        none
      else
        (charsOfUnits? (next :: rest)).map (Char.ofNat unit.toNat :: ·)

/-- The text that bytes stand for. Bytes that are not well formed are refused. -/
def decode? (bytes : List UInt8) : Option String := do
  let units ← unitsOfBytes? bytes
  let chars ← charsOfUnits? units
  return String.ofList chars

theorem encodeChars_append (front back : List Char) :
    encodeChars (front ++ back) = encodeChars front ++ encodeChars back := by
  simp [encodeChars]

@[simp] theorem encode_append (front back : String) :
    encode (front ++ back) = encode front ++ encode back := by
  simp [encode, encodeChars_append]

end LanAuth.Text.Utf16
