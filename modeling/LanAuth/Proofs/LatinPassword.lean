/-
Module: LanAuth.Proofs.LatinPassword
Layer: Proofs
Purpose: The key material of a password of Latin letters, character by character. Uppercase followed by the
  encoding gives each character bytes that depend on it alone: one, or two for the sharp s. Three characters
  are written as a question mark, two of them because their uppercase lies beyond the first 256. Where a
  character stands in the material is told by how many stand before it, a sharp s counting twice.
Imports: LanAuth.Proofs.KeyMaterial
Trusted boundary: none
Main exports: Text.Latin1.upperBytes, Text.Latin1.place, Text.Latin1.encode_uppercase_eq_flatMap,
  Text.Latin1.length_flatMap_upperBytes, Text.Latin1.getElem?_flatMap_upperBytes,
  Text.Latin1.getElem?_eq_mark_iff, LanMan.material_of_latin_password
Open obligations: none
-/
import LanAuth.Proofs.KeyMaterial

namespace LanAuth

namespace Text.Latin1

/-- The bytes of one of the first 256 characters in uppercase. Its uppercase is 32 before it, twice the
    letter S, beyond the first 256, or itself. -/
def upperBytes (c : Char) : List UInt8 :=
  if (0x61 ≤ c.toNat ∧ c.toNat ≤ 0x7a) ∨ (0xe0 ≤ c.toNat ∧ c.toNat ≤ 0xfe ∧ c.toNat ≠ 0xf7) then
    [UInt8.ofNat (c.toNat - 0x20)]
  else if c = 'ß' then
    [0x53, 0x53]
  else if c = 'µ' ∨ c = 'ÿ' then
    [0x3f]
  else
    [UInt8.ofNat c.toNat]

/-- The place at which the bytes begin that come after those of the characters. -/
def place (chars : List Char) : Nat :=
  chars.length + chars.count 'ß'

/-!
### One character

Only the lowercase characters among the first 256 have to be looked at one by one: the tables leave the others
alone.
-/

theorem map_byte_of_isLower : ∀ code < 256, Uppercase.IsLower code →
    (Uppercase.ofChar (Char.ofNat code)).map byte = upperBytes (Char.ofNat code) := by
  decide +kernel

theorem upperBytes_of_not_isLower {c : Char} (upper : ¬ Uppercase.IsLower c.toNat) :
    upperBytes c = [UInt8.ofNat c.toNat] := by
  have notMapped : ¬ ((0x61 ≤ c.toNat ∧ c.toNat ≤ 0x7a) ∨
      (0xe0 ≤ c.toNat ∧ c.toNat ≤ 0xfe ∧ c.toNat ≠ 0xf7)) := by
    unfold Uppercase.IsLower at upper
    omega
  have notSharp : c ≠ 'ß' := by
    rintro rfl
    exact upper (by decide)
  have notBeyond : ¬ (c = 'µ' ∨ c = 'ÿ') := by
    rintro (rfl | rfl)
    · exact upper (by decide)
    · exact upper (by decide)
  unfold upperBytes
  rw [if_neg notMapped, if_neg notSharp, if_neg notBeyond]

theorem map_byte_ofChar {c : Char} (latin : c.toNat ≤ 0xff) :
    (Uppercase.ofChar c).map byte = upperBytes c := by
  have small := Nat.lt_succ_of_le latin
  by_cases lower : Uppercase.IsLower c.toNat
  · have checked := map_byte_of_isLower c.toNat small lower
    rwa [Char.ofNat_toNat] at checked
  · rw [Uppercase.ofChar_eq_self small lower, upperBytes_of_not_isLower lower, List.map_singleton,
      byte, if_pos small]

/-- A character has one byte, unless it is the sharp s. -/
theorem upperBytes_eq_singleton {c : Char} (plain : c ≠ 'ß') : ∃ b, upperBytes c = [b] := by
  unfold upperBytes
  rw [if_neg plain]
  split
  · exact ⟨_, rfl⟩
  · split
    · exact ⟨_, rfl⟩
    · exact ⟨_, rfl⟩

theorem upperBytes_eq_mark_iff {c : Char} (latin : c.toNat ≤ 0xff) :
    upperBytes c = [0x3f] ↔ c = '?' ∨ c = 'µ' ∨ c = 'ÿ' := by
  have all : ∀ code < 256, upperBytes (Char.ofNat code) = [0x3f] ↔
      Char.ofNat code = '?' ∨ Char.ofNat code = 'µ' ∨ Char.ofNat code = 'ÿ' := by
    decide +kernel
  have checked := all c.toNat (Nat.lt_succ_of_le latin)
  rwa [Char.ofNat_toNat] at checked

theorem length_upperBytes (c : Char) : (upperBytes c).length = place [c] := by
  by_cases sharp : c = 'ß'
  · subst sharp
    decide
  · obtain ⟨b, single⟩ := upperBytes_eq_singleton sharp
    rw [single, place, List.count_singleton, if_neg (by simpa using sharp)]
    rfl

/-!
### Text

Bytes follow bytes as characters follow characters, so each character's bytes stand at the place that the
characters before it leave to it.
-/

theorem encode_uppercase_eq_flatMap {text : String} (latin : ∀ c ∈ text.toList, c.toNat ≤ 0xff) :
    encode (uppercase text) = text.toList.flatMap upperBytes := by
  unfold encode
  rw [toList_uppercase, Uppercase.ofChars, List.map_flatMap]
  unfold List.flatMap
  congr 1
  exact List.map_congr_left fun c listed => map_byte_ofChar (latin c listed)

theorem place_append (front back : List Char) : place (front ++ back) = place front + place back := by
  unfold place
  rw [List.length_append, List.count_append]
  omega

theorem length_flatMap_upperBytes (chars : List Char) :
    (chars.flatMap upperBytes).length = place chars := by
  induction chars with
  | nil => rfl
  | cons c later ih =>
      rw [List.flatMap_cons, List.length_append, ih, length_upperBytes, ← place_append,
        List.singleton_append]

/-- The bytes of a character stand at the place behind those of the characters before it. -/
theorem getElem?_flatMap_upperBytes (front : List Char) (c : Char) (back : List Char) {i : Nat}
    (own : i < (upperBytes c).length) :
    ((front ++ c :: back).flatMap upperBytes)[place front + i]? = (upperBytes c)[i]? := by
  rw [List.flatMap_append, List.flatMap_cons, ← length_flatMap_upperBytes,
    List.getElem?_append_right (Nat.le_add_right _ i), Nat.add_sub_cancel_left,
    List.getElem?_append_left own]

/-- A question mark stands exactly at the places of the characters that are written as one. -/
theorem getElem?_eq_mark_iff {chars : List Char} (latin : ∀ c ∈ chars, c.toNat ≤ 0xff) (i : Nat) :
    (chars.flatMap upperBytes)[i]? = some 0x3f ↔
      ∃ front c back, chars = front ++ c :: back ∧ i = place front ∧
        (c = '?' ∨ c = 'µ' ∨ c = 'ÿ') := by
  constructor
  · intro mark
    induction chars generalizing i with
    | nil => cases mark
    | cons c later ih =>
        have small := latin c List.mem_cons_self
        have rest := fun c' listed => latin c' (List.mem_cons_of_mem c listed)
        rw [List.flatMap_cons] at mark
        by_cases own : i < (upperBytes c).length
        · rw [List.getElem?_append_left own] at mark
          by_cases sharp : c = 'ß'
          · -- Both bytes of the sharp s are the letter S.
            subst sharp
            have letter : (0x3f : UInt8) ∈ upperBytes 'ß' := List.mem_of_getElem? mark
            exact absurd letter (by decide)
          · obtain ⟨b, single⟩ := upperBytes_eq_singleton sharp
            rw [single] at own mark
            have first : i = 0 := Nat.lt_one_iff.mp own
            rw [first] at mark ⊢
            cases mark
            exact ⟨[], c, later, rfl, rfl, (upperBytes_eq_mark_iff small).mp single⟩
        · rw [List.getElem?_append_right (Nat.le_of_not_lt own)] at mark
          obtain ⟨front, c', back, split, there, kind⟩ := ih rest _ mark
          refine ⟨c :: front, c', back, by rw [split, List.cons_append], ?_, kind⟩
          have whole := place_append [c] front
          rw [List.singleton_append, ← length_upperBytes] at whole
          omega
  · rintro ⟨front, c, back, rfl, rfl, kind⟩
    have small := latin c (List.mem_append_right front List.mem_cons_self)
    have single := (upperBytes_eq_mark_iff small).mpr kind
    have there := getElem?_flatMap_upperBytes front c back (i := 0) (by rw [single]; decide)
    rw [single] at there
    exact there

end Text.Latin1

namespace LanMan

open Text.Latin1 (upperBytes place)

theorem getElem?_toList_fit {n i : Nat} (inside : i < n) (bytes : List UInt8) :
    (fit n bytes).toList[i]? = some (bytes.getD i 0) := by
  rw [List.getElem?_eq_getElem (by simpa using inside), Vector.getElem_toList, getElem_fit]

/-- Nothing but zeros is added, so any other byte of the material is one that was written. -/
theorem getElem?_toList_fit_eq_some_iff {n i : Nat} (inside : i < n) (bytes : List UInt8) {b : UInt8}
    (shown : b ≠ 0) : (fit n bytes).toList[i]? = some b ↔ bytes[i]? = some b := by
  rw [getElem?_toList_fit inside, List.getD_eq_getElem?_getD]
  cases bytes[i]? with
  | some b' => rfl
  | none =>
      constructor
      · intro zero
        exact absurd (Option.some.inj zero).symm shown
      · intro missing
        cases missing

theorem keyMaterial_of_latin {password : String} (latin : ∀ c ∈ password.toList, c.toNat ≤ 0xff) :
    keyMaterial password = .ok (fit 14 (password.toList.flatMap upperBytes)) := by
  rw [keyMaterial_eq, Text.Latin1.encode_uppercase_eq_flatMap latin]

theorem keyMaterial_of_latin_chars {chars : List Char} (latin : ∀ c ∈ chars, c.toNat ≤ 0xff) :
    keyMaterial (String.ofList chars) = .ok (fit 14 (chars.flatMap upperBytes)) := by
  have latin' : ∀ c ∈ (String.ofList chars).toList, c.toNat ≤ 0xff := by
    rw [String.toList_ofList]
    exact latin
  have made := keyMaterial_of_latin latin'
  rwa [String.toList_ofList] at made

/-- What stands behind a character moves with the number of its bytes. -/
theorem getElem?_behind (front : List Char) (c : Char) (back : List Char) (i : Nat) :
    ((front ++ c :: back).flatMap upperBytes)[place front + (upperBytes c).length + i]? =
      (back.flatMap upperBytes)[i]? := by
  rw [List.flatMap_append, List.flatMap_cons, ← Text.Latin1.length_flatMap_upperBytes,
    List.getElem?_append_right (by omega), List.getElem?_append_right (by omega)]
  congr 1
  omega

/-- The material of a password of the first 256 characters is what its characters are written as, one after
    another, cut or filled up with zeros to fourteen bytes. Each character is written at the place that
    those before it leave to it; a question mark stands there exactly for the question mark, the micro sign
    and the y with diaeresis. A sharp s in place of another character moves everything behind it by one
    place, whichever half of the material that was in. -/
theorem material_of_latin_password :
    (∀ password : String, (∀ c ∈ password.toList, c.toNat ≤ 0xff) →
      ∃ material : Vector UInt8 14,
        keyMaterial password = .ok material ∧
        material.toList = (password.toList.flatMap upperBytes).take 14 ++
          List.replicate (14 - (password.toList.flatMap upperBytes).length) 0 ∧
        (password.toList.flatMap upperBytes).length = password.length + password.toList.count 'ß' ∧
        (∀ (front : List Char) (c : Char) (back : List Char), password.toList = front ++ c :: back →
          ∀ i < (upperBytes c).length, front.length + front.count 'ß' + i < 14 →
            material.toList[front.length + front.count 'ß' + i]? = (upperBytes c)[i]?) ∧
        ∀ position < 14, material.toList[position]? = some 0x3f ↔
          ∃ front c back, password.toList = front ++ c :: back ∧
            position = front.length + front.count 'ß' ∧ (c = '?' ∨ c = 'µ' ∨ c = 'ÿ')) ∧
    ∀ (front : List Char) (c : Char) (back : List Char),
      (∀ c' ∈ front ++ c :: back, c'.toNat ≤ 0xff) → c ≠ 'ß' →
      ∃ material moved : Vector UInt8 14,
        keyMaterial (String.ofList (front ++ c :: back)) = .ok material ∧
        keyMaterial (String.ofList (front ++ 'ß' :: back)) = .ok moved ∧
        ∀ position, front.length + front.count 'ß' < position → position + 1 < 14 →
          moved.toList[position + 1]? = material.toList[position]? := by
  constructor
  · intro password latin
    refine ⟨_, keyMaterial_of_latin latin, toList_fit 14 _, ?_, ?_, ?_⟩
    · rw [Text.Latin1.length_flatMap_upperBytes, place, String.length_toList]
    · intro front c back split i own inside
      have there := Text.Latin1.getElem?_flatMap_upperBytes front c back own
      rw [← split, place] at there
      rw [getElem?_toList_fit inside, List.getD_eq_getElem?_getD, there,
        List.getElem?_eq_getElem own, Option.getD_some]
    · intro position inside
      rw [getElem?_toList_fit_eq_some_iff inside _ (by decide)]
      exact Text.Latin1.getElem?_eq_mark_iff latin position
  · intro front c back latin plain
    have sharpened : ∀ c' ∈ front ++ 'ß' :: back, c'.toNat ≤ 0xff := by
      intro c' listed
      rcases List.mem_append.mp listed with before | behind
      · exact latin c' (List.mem_append_left _ before)
      · rcases List.mem_cons.mp behind with rfl | later
        · decide
        · exact latin c' (List.mem_append_right front (List.mem_cons_of_mem c later))
    refine ⟨_, _, keyMaterial_of_latin_chars latin, keyMaterial_of_latin_chars sharpened, ?_⟩
    intro position behind inside
    obtain ⟨b, single⟩ := Text.Latin1.upperBytes_eq_singleton plain
    obtain ⟨i, rfl⟩ := Nat.exists_eq_add_of_lt behind
    have kept := getElem?_behind front c back i
    have shifted := getElem?_behind front 'ß' back i
    have pair : (upperBytes 'ß').length = 2 := by decide
    rw [single, place, List.length_singleton] at kept
    rw [pair, place] at shifted
    have here : front.length + front.count 'ß' + i + 1 = front.length + front.count 'ß' + 1 + i := by
      omega
    have next : front.length + front.count 'ß' + i + 1 + 1 =
        front.length + front.count 'ß' + 2 + i := by omega
    rw [getElem?_toList_fit inside, getElem?_toList_fit (by omega), List.getD_eq_getElem?_getD,
      List.getD_eq_getElem?_getD, next, shifted, here, kept]

/-- A sharp s pushes a micro sign into the second half of the material, where it is a question mark. -/
theorem material_of_latin_password_groesse :
    (∀ c ∈ "Größe µ".toList, c.toNat ≤ 0xff) ∧
    "Größe µ".toList = "Größe ".toList ++ 'µ' :: [] ∧
    (∀ c ∈ "Grö".toList ++ 's' :: "e µ".toList, c.toNat ≤ 0xff) ∧ 's' ≠ 'ß' ∧
    (∃ material : Vector UInt8 14,
      keyMaterial "Größe µ" = .ok material ∧ material.toList[7]? = some 0x3f) ∧
    ∃ material moved : Vector UInt8 14,
      keyMaterial (String.ofList ("Grö".toList ++ 's' :: "e µ".toList)) = .ok material ∧
      keyMaterial (String.ofList ("Grö".toList ++ 'ß' :: "e µ".toList)) = .ok moved ∧
      moved.toList[7]? = material.toList[6]? := by
  obtain ⟨written, moving⟩ := material_of_latin_password
  -- The check goes through the list, not through all characters that there are.
  have small : "Größe µ".toList.all (fun c => c.toNat ≤ 0xff) = true := by decide
  have small' : ("Grö".toList ++ 's' :: "e µ".toList).all (fun c => c.toNat ≤ 0xff) = true := by decide
  have latin : ∀ c ∈ "Größe µ".toList, c.toNat ≤ 0xff := fun c listed =>
    of_decide_eq_true (List.all_eq_true.mp small c listed)
  have latin' : ∀ c ∈ "Grö".toList ++ 's' :: "e µ".toList, c.toNat ≤ 0xff := fun c listed =>
    of_decide_eq_true (List.all_eq_true.mp small' c listed)
  have split : "Größe µ".toList = "Größe ".toList ++ 'µ' :: [] := by decide
  have plain : 's' ≠ 'ß' := by decide
  obtain ⟨material, made, -, -, placed, -⟩ := written "Größe µ" latin
  obtain ⟨before, moved, made', made'', shift⟩ := moving "Grö".toList 's' "e µ".toList latin' plain
  exact ⟨latin, split, latin', plain,
    ⟨material, made, placed "Größe ".toList 'µ' [] split 0 (by decide) (by decide)⟩,
    before, moved, made', made'', shift 6 (by decide) (by decide)⟩

end LanMan

end LanAuth
