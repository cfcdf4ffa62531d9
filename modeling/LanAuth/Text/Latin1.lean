/-
Module: LanAuth.Text.Latin1
Layer: Text
Purpose: Text with one byte for each character. The first 256 characters are their own bytes; every other
  character is written as a question mark.
Imports: none
Trusted boundary: none
Main exports: Latin1.byte, Latin1.encode, Latin1.encode?, Latin1.decode, Latin1.encode_append
Open obligations: none
-/

namespace LanAuth.Text.Latin1

/-- What stands for a character that has no byte of its own: a question mark. -/
def replacement : UInt8 := 0x3f

/-- The byte for a character. -/
def byte (c : Char) : UInt8 :=
  if c.toNat < 256 then UInt8.ofNat c.toNat else replacement

/-- The text as bytes, one for each character. -/
def encode (text : String) : List UInt8 :=
  text.toList.map byte

/-- The text as bytes, if the encoding has a form for it. This encoding has one for every text: it
    replaces what it lacks. -/
def encode? (text : String) : Option (List UInt8) :=
  some (encode text)

/-- The character that a byte stands for. -/
def char (b : UInt8) : Char :=
  Char.ofNat b.toNat

/-- The text that bytes stand for, one character for each. -/
def decode (bytes : List UInt8) : String :=
  String.ofList (bytes.map char)

@[simp] theorem length_encode (text : String) : (encode text).length = text.toList.length := by
  simp [encode]

@[simp] theorem encode_append (front back : String) :
    encode (front ++ back) = encode front ++ encode back := by
  simp [encode]

end LanAuth.Text.Latin1
