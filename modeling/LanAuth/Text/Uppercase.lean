/-
Module: LanAuth.Text.Uppercase
Layer: Text
Purpose: Text in uppercase: each character by its own full mapping, without regard to its neighbours or to
  any language, so that one character may become up to three.
Imports: LanAuth.Text.Uppercase.Table
Trusted boundary: none
Main exports: Uppercase.ofChar, Uppercase.ofChars, uppercase, uppercase_append
Open obligations: none
-/
import LanAuth.Text.Uppercase.Table

namespace LanAuth.Text

namespace Uppercase

/-- The uppercase of a code point: one code point or more. A code point that the tables do not list is its
    own uppercase. -/
def ofCode (code : Nat) : List Nat :=
  match runs.findSome? fun run => run.image? code with
  | some image => [image]
  | none =>
      match expansions.lookup code with
      | some images => images
      | none => [code]

/-- The uppercase of a character. -/
def ofChar (c : Char) : List Char :=
  (ofCode c.toNat).map Char.ofNat

/-- The uppercase of a string of characters. -/
def ofChars (chars : List Char) : List Char :=
  chars.flatMap ofChar

theorem ofChars_append (front back : List Char) :
    ofChars (front ++ back) = ofChars front ++ ofChars back := by
  simp [ofChars]

end Uppercase

/-- The text in uppercase. -/
def uppercase (text : String) : String :=
  String.ofList (Uppercase.ofChars text.toList)

@[simp] theorem toList_uppercase (text : String) :
    (uppercase text).toList = Uppercase.ofChars text.toList := by
  simp [uppercase]

/-- Uppercase does not depend on what stands next to a character. -/
theorem uppercase_append (front back : String) :
    uppercase (front ++ back) = uppercase front ++ uppercase back := by
  apply String.toList_injective
  simp [Uppercase.ofChars_append]

end LanAuth.Text
