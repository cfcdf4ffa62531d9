/-
Module: LanAuth.Proofs.Text.Utf16
Layer: Proofs
Purpose: Text in units of 16 bits can be read back. Each step of the encoding is undone by the step of the
  decoding that answers it: two bytes spell the unit that they were made from, and the units of a character,
  one or a pair, are read as that character whatever follows them. So no two texts have the same bytes.
Imports: LanAuth.Text.Utf16
Trusted boundary: none
Main exports: Utf16.unitOfBytes_unitBytes, Utf16.unitsOfBytes?_flatMap, Utf16.toNat_highUnit,
  Utf16.charsOfUnits?_units, Utf16.decode?_encode, Utf16.encode_inj
Open obligations: none
-/
import LanAuth.Text.Utf16

namespace LanAuth.Text.Utf16

/-!
### Bytes and units
-/

theorem unitOfBytes_unitBytes (unit : UInt16) :
    unitOfBytes unit.toUInt8 (unit >>> 8).toUInt8 = unit := by
  have bound := unit.toNat_lt
  have low : unit.toUInt8.toUInt16.toNat = unit.toNat % 256 := by simp
  have high : ((unit >>> 8).toUInt8.toUInt16 <<< 8).toNat = (unit.toNat / 256) <<< 8 := by
    simp [Nat.shiftLeft_eq, Nat.shiftRight_eq_div_pow]
    omega
  apply UInt16.toNat_inj.mp
  -- The two bytes do not overlap, so joining them bit by bit is adding them.
  calc (unitOfBytes unit.toUInt8 (unit >>> 8).toUInt8).toNat
      = unit.toNat % 256 ||| (unit.toNat / 256) <<< 8 := by
        rw [unitOfBytes, UInt16.toNat_or, low, high]
    _ = (unit.toNat / 256) <<< 8 + unit.toNat % 256 := by
        rw [Nat.or_comm, Nat.shiftLeft_add_eq_or_of_lt (Nat.mod_lt _ (by decide))]
    _ = unit.toNat := by
        rw [Nat.shiftLeft_eq]
        omega

theorem unitsOfBytes?_flatMap (units : List UInt16) :
    unitsOfBytes? (units.flatMap unitBytes) = some units := by
  induction units with
  | nil => rfl
  | cons unit later ih =>
      calc unitsOfBytes? ((unit :: later).flatMap unitBytes)
          = (unitsOfBytes? (later.flatMap unitBytes)).map
              (unitOfBytes unit.toUInt8 (unit >>> 8).toUInt8 :: ·) := rfl
        _ = some (unit :: later) := by rw [ih, unitOfBytes_unitBytes, Option.map_some]

/-!
### Units and characters

A character up to U+FFFF is a unit of its own, and as it is no surrogate, not one that belongs to a pair.
Beyond that, what exceeds U+FFFF has twenty bits, which the two units of the pair hold.
-/

theorem charsOfUnits?_cons {unit : UInt16} (notHigh : isHigh unit = false)
    (notLow : isLow unit = false) (later : List UInt16) :
    charsOfUnits? (unit :: later) = (charsOfUnits? later).map (Char.ofNat unit.toNat :: ·) := by
  cases later with
  | nil => simp [charsOfUnits?, notHigh, notLow]
  | cons next rest => simp [charsOfUnits?, notHigh, notLow]

theorem charsOfUnits?_pair {high low : UInt16} (first : isHigh high = true)
    (second : isLow low = true) (later : List UInt16) :
    charsOfUnits? (high :: low :: later) = (charsOfUnits? later).map (pairChar high low :: ·) := by
  simp [charsOfUnits?, first, second]

/-- The number of the first unit of a pair. -/
theorem toNat_highUnit (c : Char) :
    (UInt16.ofNat (0xd800 + (c.toNat - 0x10000) / 0x400)).toNat =
      0xd800 + (c.toNat - 0x10000) / 0x400 := by
  have valid : c.toNat < 0xd800 ∨ 0xdfff < c.toNat ∧ c.toNat < 0x110000 := c.valid
  apply UInt16.toNat_ofNat_of_lt'
  simp only [UInt16.size]
  omega

/-- The number of the second unit of a pair. -/
theorem toNat_lowUnit (c : Char) :
    (UInt16.ofNat (0xdc00 + (c.toNat - 0x10000) % 0x400)).toNat =
      0xdc00 + (c.toNat - 0x10000) % 0x400 := by
  apply UInt16.toNat_ofNat_of_lt'
  simp only [UInt16.size]
  omega

/-- The units of a character are read as the character, whatever follows them. -/
theorem charsOfUnits?_units (c : Char) (later : List UInt16) :
    charsOfUnits? (units c ++ later) = (charsOfUnits? later).map (c :: ·) := by
  have valid : c.toNat < 0xd800 ∨ 0xdfff < c.toNat ∧ c.toNat < 0x110000 := c.valid
  unfold units
  split
  · next small =>
      have own : (UInt16.ofNat c.toNat).toNat = c.toNat := UInt16.toNat_ofNat_of_lt' small
      have notHigh : isHigh (UInt16.ofNat c.toNat) = false := by
        simp only [isHigh, own, Bool.and_eq_false_iff, decide_eq_false_iff_not]
        omega
      have notLow : isLow (UInt16.ofNat c.toNat) = false := by
        simp only [isLow, own, Bool.and_eq_false_iff, decide_eq_false_iff_not]
        omega
      rw [List.singleton_append, charsOfUnits?_cons notHigh notLow, own, Char.ofNat_toNat]
  · next large =>
      have high := toNat_highUnit c
      have low := toNat_lowUnit c
      have first : isHigh (UInt16.ofNat (0xd800 + (c.toNat - 0x10000) / 0x400)) = true := by
        simp only [isHigh, high, Bool.and_eq_true, decide_eq_true_eq]
        omega
      have second : isLow (UInt16.ofNat (0xdc00 + (c.toNat - 0x10000) % 0x400)) = true := by
        simp only [isLow, low, Bool.and_eq_true, decide_eq_true_eq]
        omega
      have joined : 0x10000 + (0xd800 + (c.toNat - 0x10000) / 0x400 - 0xd800) * 0x400 +
          (0xdc00 + (c.toNat - 0x10000) % 0x400 - 0xdc00) = c.toNat := by omega
      rw [List.cons_append, List.singleton_append, charsOfUnits?_pair first second, pairChar, high,
        low, joined, Char.ofNat_toNat]

theorem charsOfUnits?_flatMap (chars : List Char) :
    charsOfUnits? (chars.flatMap units) = some chars := by
  induction chars with
  | nil => rfl
  | cons c later ih => rw [List.flatMap_cons, charsOfUnits?_units, ih, Option.map_some]

/-!
### Text
-/

/-- What was encoded is read back. -/
theorem decode?_encode (text : String) : decode? (encode text) = some text := by
  have read : unitsOfBytes? (encode text) = some (text.toList.flatMap units) :=
    unitsOfBytes?_flatMap (text.toList.flatMap units)
  unfold decode?
  rw [read, Option.bind_eq_bind, Option.bind_some, charsOfUnits?_flatMap, Option.bind_eq_bind,
    Option.bind_some, String.ofList_toList]
  rfl

/-- No two texts have the same bytes. -/
theorem encode_inj {text text' : String} : encode text = encode text' ↔ text = text' := by
  constructor
  · intro same
    have read := decode?_encode text
    rw [same, decode?_encode] at read
    cases read
    rfl
  · rintro rfl
    rfl

end LanAuth.Text.Utf16
