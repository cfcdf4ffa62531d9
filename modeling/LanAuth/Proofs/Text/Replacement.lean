/-
Module: LanAuth.Proofs.Text.Replacement
Layer: Proofs
Purpose: What is lost when text is written with one byte for each character. A character keeps its place,
  and it keeps itself if it is among the first 256; every other one is read back as a question mark, also
  where its code point ends like that of a character that has a byte. So two texts have the same bytes
  exactly if they differ in nothing but which of the characters written as a question mark stand where.
Imports: LanAuth.Proofs.Text.Latin1
Trusted boundary: none
Main exports: Latin1.readBack, Latin1.WrittenAsMark, Latin1.char_byte, Latin1.byte_eq_iff,
  Latin1.decode_encode, Latin1.decode_encode_eq_self_iff, Latin1.encode_eq_iff,
  Latin1.bytes_tell_all_but_the_replaced
Open obligations: none
-/
import LanAuth.Proofs.Text.Latin1

namespace LanAuth.Text.Latin1

/-- The character that is read back where a character was written. -/
def readBack (c : Char) : Char :=
  if c.toNat ≤ 0xff then c else '?'

/-- The characters that are written as a question mark: it, and all that have no byte of their own. -/
def WrittenAsMark (c : Char) : Prop :=
  c = '?' ∨ 0xff < c.toNat

instance (c : Char) : Decidable (WrittenAsMark c) :=
  inferInstanceAs (Decidable (_ ∨ _))

/-!
### One character
-/

theorem char_byte (c : Char) : char (byte c) = readBack c := by
  unfold byte readBack
  by_cases small : c.toNat ≤ 0xff
  · have own : (UInt8.ofNat c.toNat).toNat = c.toNat := UInt8.toNat_ofNat_of_lt' (by
      simp only [UInt8.size]
      omega)
    rw [if_pos (Nat.lt_succ_of_le small), if_pos small, char, own, Char.ofNat_toNat]
  · rw [if_neg (by omega), if_neg small]
    rfl

theorem readBack_eq_self_iff {c : Char} : readBack c = c ↔ c.toNat ≤ 0xff := by
  unfold readBack
  split
  · next small => simp only [small]
  · next large =>
      constructor
      · intro own
        rw [← own] at large
        exact absurd (by decide) large
      · intro small
        exact absurd small large

/-- A character is read back as a question mark exactly if it is written as one. -/
theorem readBack_eq_mark_iff {c : Char} : readBack c = '?' ↔ WrittenAsMark c := by
  unfold readBack WrittenAsMark
  split
  · next small =>
      constructor
      · exact .inl
      · rintro (mark | large)
        · exact mark
        · omega
  · next large =>
      constructor
      · intro _
        exact .inr (by omega)
      · intro _
        rfl

theorem readBack_cases (c : Char) : readBack c = c ∨ WrittenAsMark c := by
  by_cases small : c.toNat ≤ 0xff
  · exact .inl (readBack_eq_self_iff.mpr small)
  · exact .inr (.inr (by omega))

theorem readBack_eq_iff {c c' : Char} :
    readBack c = readBack c' ↔ c = c' ∨ WrittenAsMark c ∧ WrittenAsMark c' := by
  constructor
  · intro same
    rcases readBack_cases c with own | mark
    · rcases readBack_cases c' with own' | mark'
      · exact .inl (own.symm.trans (same.trans own'))
      · exact .inr ⟨readBack_eq_mark_iff.mp (same.trans (readBack_eq_mark_iff.mpr mark')), mark'⟩
    · have mark' := readBack_eq_mark_iff.mp (same.symm.trans (readBack_eq_mark_iff.mpr mark))
      exact .inr ⟨mark, mark'⟩
  · rintro (rfl | ⟨mark, mark'⟩)
    · rfl
    · rw [readBack_eq_mark_iff.mpr mark, readBack_eq_mark_iff.mpr mark']

/-- Bytes can be read, so what two characters share in writing is what they share when read back. -/
theorem byte_eq_iff {c c' : Char} :
    byte c = byte c' ↔ c = c' ∨ WrittenAsMark c ∧ WrittenAsMark c' := by
  rw [← readBack_eq_iff, ← char_byte, ← char_byte]
  constructor
  · intro same
    rw [same]
  · intro same
    calc byte c = byte (char (byte c)) := (byte_char (byte c)).symm
      _ = byte (char (byte c')) := by rw [same]
      _ = byte c' := byte_char (byte c')

/-!
### Text
-/

/-- Every character is read back in its place, if it has a byte of its own. -/
theorem decode_encode (text : String) :
    decode (encode text) = String.ofList (text.toList.map readBack) := by
  unfold decode encode
  rw [List.map_map]
  congr 1
  exact List.map_congr_left fun c _ => char_byte c

theorem decode_encode_eq_self_iff {text : String} :
    decode (encode text) = text ↔ ∀ c ∈ text.toList, c.toNat ≤ 0xff := by
  rw [decode_encode]
  constructor
  · intro whole c listed
    have kept : text.toList.map readBack = text.toList.map id := by
      rw [List.map_id, ← String.toList_ofList (l := text.toList.map readBack), whole]
    exact readBack_eq_self_iff.mp (List.map_inj_left.mp kept c listed)
  · intro small
    have kept : text.toList.map readBack = text.toList.map id :=
      List.map_congr_left fun c listed => readBack_eq_self_iff.mpr (small c listed)
    rw [kept, List.map_id, String.ofList_toList]

/-- Two texts have the same bytes exactly if they are equally long and, place by place, have the same
    character or two that are written as a question mark. -/
theorem encode_eq_iff {text text' : String} :
    encode text = encode text' ↔
      text.length = text'.length ∧
        ∀ (i : Nat) (c c' : Char), text.toList[i]? = some c → text'.toList[i]? = some c' →
          c = c' ∨ WrittenAsMark c ∧ WrittenAsMark c' := by
  constructor
  · intro same
    constructor
    · rw [← String.length_toList, ← String.length_toList, ← length_encode, same, length_encode]
    · intro i c c' there there'
      have written : (encode text)[i]? = some (byte c) := by
        rw [encode, List.getElem?_map, there, Option.map_some]
      have written' : (encode text')[i]? = some (byte c') := by
        rw [encode, List.getElem?_map, there', Option.map_some]
      rw [same, written'] at written
      exact byte_eq_iff.mp (Option.some.inj written).symm
  · rintro ⟨long, alike⟩
    rw [← String.length_toList, ← String.length_toList] at long
    apply List.ext_getElem
    · rw [length_encode, length_encode, long]
    · intro i inside inside'
      rw [length_encode] at inside inside'
      simp only [encode, List.getElem_map]
      exact byte_eq_iff.mpr
        (alike i _ _ (List.getElem?_eq_getElem inside) (List.getElem?_eq_getElem inside'))

/-- Every text is written, with exactly one byte for each character. Read back, it has a question mark in
    place of every character beyond the first 256, so it comes back whole exactly if there are none; and
    bytes that are read as text are written as the same bytes. Two texts share their bytes exactly if they
    are equally long and, place by place, have the same character or two that are written as a question
    mark. A joined text is written part by part. -/
theorem bytes_tell_all_but_the_replaced :
    (∀ text : String, ∃ bytes : List UInt8,
      encode? text = some bytes ∧ bytes.length = text.length ∧
      decode bytes = String.ofList (text.toList.map fun c => if c.toNat ≤ 0xff then c else '?') ∧
      (decode bytes = text ↔ ∀ c ∈ text.toList, c.toNat ≤ 0xff)) ∧
    (∀ bytes : List UInt8, encode? (decode bytes) = some bytes) ∧
    (∀ text text' : String, encode? text = encode? text' ↔
      text.length = text'.length ∧
        ∀ (i : Nat) (c c' : Char), text.toList[i]? = some c → text'.toList[i]? = some c' →
          c = c' ∨ (c = '?' ∨ 0xff < c.toNat) ∧ (c' = '?' ∨ 0xff < c'.toNat)) ∧
    ∀ front back : String, ∃ bytes bytes' : List UInt8,
      encode? front = some bytes ∧ encode? back = some bytes' ∧
      encode? (front ++ back) = some (bytes ++ bytes') := by
  refine ⟨?_, ?_, ?_, ?_⟩
  · intro text
    refine ⟨encode text, rfl, ?_, decode_encode text, decode_encode_eq_self_iff⟩
    rw [length_encode, String.length_toList]
  · intro bytes
    exact congrArg some (encode_decode bytes)
  · intro text text'
    constructor
    · intro same
      exact encode_eq_iff.mp (Option.some.inj same)
    · intro alike
      exact congrArg some (encode_eq_iff.mpr alike)
  · intro front back
    exact ⟨encode front, encode back, rfl, rfl, congrArg some (encode_append front back)⟩

/-- A text of Latin letters comes back whole. Characters beyond U+FFFF, others that have no byte, and the
    question mark itself cannot be told apart, place by place. -/
theorem bytes_tell_all_but_the_replaced_euro :
    (∀ c ∈ "Ärÿ".toList, c.toNat ≤ 0xff) ∧
    (∃ bytes : List UInt8, encode? "Ärÿ" = some bytes ∧ decode bytes = "Ärÿ") ∧
    encode? "a€?" = encode? "a😀€" ∧
    "a€?".toList[1]? = some '€' ∧ "a😀€".toList[1]? = some '😀' ∧
    ('€' = '😀' ∨ ('€' = '?' ∨ 0xff < '€'.toNat) ∧ ('😀' = '?' ∨ 0xff < '😀'.toNat)) := by
  obtain ⟨written, -, shared, -⟩ := bytes_tell_all_but_the_replaced
  have latin : "Ärÿ".toList.all (fun c => c.toNat ≤ 0xff) = true := by decide
  have small : ∀ c ∈ "Ärÿ".toList, c.toNat ≤ 0xff := fun c listed =>
    of_decide_eq_true (List.all_eq_true.mp latin c listed)
  have same : encode? "a€?" = encode? "a😀€" := by decide
  have there : "a€?".toList[1]? = some '€' := by decide
  have there' : "a😀€".toList[1]? = some '😀' := by decide
  obtain ⟨bytes, encoded, -, -, whole⟩ := written "Ärÿ"
  obtain ⟨-, alike⟩ := (shared "a€?" "a😀€").mp same
  exact ⟨small, ⟨bytes, encoded, whole.mpr small⟩, same, there, there', alike 1 '€' '😀' there there'⟩

end LanAuth.Text.Latin1
