/-
Module: LanAuth.Proofs.Truncation
Layer: Proofs
Purpose: How much of a password the LAN Manager scheme looks at. Its material is cut after fourteen bytes of
  the encoded uppercase, and zeros stand for what a shorter one lacks. Uppercase works character by character
  and loses none, so the first fourteen characters decide, or fewer if they grow; what stands behind them
  does not count, and neither do null characters at the end.
Imports: LanAuth.Proofs.KeyMaterial
Trusted boundary: none
Main exports: Text.length_le_length_uppercase, LanMan.keyMaterial_append_of_le, LanMan.keyMaterial_take,
  LanMan.keyMaterial_congr_of_take, LanMan.keyMaterial_append_nulls,
  LanMan.first_fourteen_characters_decide
Open obligations: none
-/
import LanAuth.Proofs.KeyMaterial

namespace LanAuth

open Text (uppercase)

theorem Text.length_le_length_uppercase (text : String) : text.length ≤ (uppercase text).length := by
  rw [← String.length_toList, ← String.length_toList, toList_uppercase]
  exact Uppercase.length_le_length_ofChars text.toList

theorem Text.Latin1.length_encode_uppercase (text : String) :
    (encode (uppercase text)).length = (uppercase text).length := by
  rw [length_encode, String.length_toList]

/-- The null character is its own uppercase and is written as a zero. -/
theorem Text.Latin1.encode_uppercase_nulls (count : Nat) :
    encode (uppercase (String.ofList (List.replicate count (Char.ofNat 0)))) =
      List.replicate count 0 := by
  have own : Uppercase.ofChars (List.replicate count (Char.ofNat 0)) =
      List.replicate count (Char.ofNat 0) := by
    apply Uppercase.ofChars_eq_self
    intro c listed
    rw [List.eq_of_mem_replicate listed]
    decide +kernel
  have zero : byte (Char.ofNat 0) = 0 := by decide
  unfold encode
  rw [toList_uppercase, String.toList_ofList, own, List.map_replicate, zero]

namespace LanMan

/-!
### What stands behind the cut

Uppercase and the encoding go through a joined text part by part, so once the first part fills the material,
the second is cut off.
-/

theorem keyMaterial_append_of_le {front : String} (enough : 14 ≤ (uppercase front).length)
    (back : String) : keyMaterial (front ++ back) = keyMaterial front := by
  have filled : 14 ≤ (Text.Latin1.encode (uppercase front)).length := by
    rw [Text.Latin1.length_encode_uppercase]
    exact enough
  rw [keyMaterial_eq, keyMaterial_eq, Text.uppercase_append, Text.Latin1.encode_append,
    fit_append_of_le filled]

/-- The first fourteen characters have the material of the whole password. -/
theorem keyMaterial_take (password : String) :
    keyMaterial (String.ofList (password.toList.take 14)) = keyMaterial password := by
  by_cases long : 14 ≤ password.length
  · have cut : String.ofList (password.toList.take 14) ++ String.ofList (password.toList.drop 14) =
        password := by
      rw [← String.ofList_append, List.take_append_drop, String.ofList_toList]
    have enough : 14 ≤ (uppercase (String.ofList (password.toList.take 14))).length := by
      apply Nat.le_trans _ (Text.length_le_length_uppercase _)
      rw [String.length_ofList, List.length_take, String.length_toList]
      omega
    have kept := keyMaterial_append_of_le enough (String.ofList (password.toList.drop 14))
    rw [cut] at kept
    exact kept.symm
  · have whole : password.toList.take 14 = password.toList := by
      apply List.take_of_length_le
      rw [String.length_toList]
      omega
    rw [whole, String.ofList_toList]

theorem keyMaterial_congr_of_take {password password' : String}
    (same : password.toList.take 14 = password'.toList.take 14) :
    keyMaterial password = keyMaterial password' := by
  rw [← keyMaterial_take password, same, keyMaterial_take]

theorem keyMaterial_append_nulls (password : String) (count : Nat) :
    keyMaterial (password ++ String.ofList (List.replicate count (Char.ofNat 0))) =
      keyMaterial password := by
  rw [keyMaterial_eq, keyMaterial_eq, Text.uppercase_append, Text.Latin1.encode_append,
    Text.Latin1.encode_uppercase_nulls, fit_append_zeros]

/-- The material of a password is the first fourteen bytes of its encoded uppercase, with zeros in place of
    those that it lacks; a password of fourteen characters lacks none. The first fourteen characters of a
    password have its material, so passwords that share them have the same one-way function, the same hash
    and the same responses. Where fewer characters already fill the material, nothing behind them counts.
    Null characters at the end of a password never do. -/
theorem first_fourteen_characters_decide :
    (∀ password : String, ∃ (bytes : List UInt8) (material : Vector UInt8 14),
      Text.Latin1.encode? (uppercase password) = some bytes ∧
      keyMaterial password = .ok material ∧
      material.toList = bytes.take 14 ++ List.replicate (14 - bytes.length) 0 ∧
      (14 ≤ password.length → 14 ≤ bytes.length ∧ material.toList = bytes.take 14)) ∧
    (∀ password : String,
      keyMaterial password = keyMaterial (String.ofList (password.toList.take 14))) ∧
    (∀ password password' : String, password.toList.take 14 = password'.toList.take 14 →
      (∀ seed : Vector UInt8 8, oneWay password seed = oneWay password' seed) ∧
      hash password = hash password' ∧
      ∀ (challenge : List UInt8) (username domain : Option String),
        respond .lanMan password challenge username domain =
          respond .lanMan password' challenge username domain) ∧
    (∀ front back : String, 14 ≤ (uppercase front).length →
      keyMaterial (front ++ back) = keyMaterial front) ∧
    (∃ front : String, front.length < 14 ∧ 14 ≤ (uppercase front).length) ∧
    ∀ (password : String) (count : Nat),
      keyMaterial (password ++ String.ofList (List.replicate count (Char.ofNat 0))) =
        keyMaterial password := by
  refine ⟨?_, ?_, ?_, ?_, ?_, keyMaterial_append_nulls⟩
  · intro password
    have filled := toList_fit 14 (Text.Latin1.encode (uppercase password))
    refine ⟨_, _, rfl, keyMaterial_eq password, filled, ?_⟩
    intro long
    have enough : 14 ≤ (Text.Latin1.encode (uppercase password)).length := by
      rw [Text.Latin1.length_encode_uppercase]
      exact Nat.le_trans long (Text.length_le_length_uppercase password)
    rw [Nat.sub_eq_zero_of_le enough, List.replicate_zero, List.append_nil] at filled
    exact ⟨enough, filled⟩
  · intro password
    exact (keyMaterial_take password).symm
  · intro password password' shared
    have same := keyMaterial_congr_of_take shared
    exact ⟨oneWay_congr same, hash_congr same, respond_lanMan_congr same⟩
  · intro front back enough
    exact keyMaterial_append_of_le enough back
  · exact ⟨"ßßßßßßß", by decide, by decide +kernel⟩

/-- Seven characters that fill the material, and two passwords that differ in their fifteenth. -/
theorem first_fourteen_characters_decide_sharp_s :
    14 ≤ (uppercase "ßßßßßßß").length ∧ keyMaterial ("ßßßßßßß" ++ "x") = keyMaterial "ßßßßßßß" ∧
    "0123456789abcde".toList.take 14 = "0123456789abcdß".toList.take 14 ∧
    hash "0123456789abcde" = hash "0123456789abcdß" ∧
    14 ≤ "0123456789abcde".length ∧
    ∃ (bytes : List UInt8) (material : Vector UInt8 14),
      Text.Latin1.encode? (uppercase "0123456789abcde") = some bytes ∧
      keyMaterial "0123456789abcde" = .ok material ∧ material.toList = bytes.take 14 := by
  obtain ⟨written, -, shared, cut, -, -⟩ := first_fourteen_characters_decide
  have enough : 14 ≤ (uppercase "ßßßßßßß").length := by decide +kernel
  have start : "0123456789abcde".toList.take 14 = "0123456789abcdß".toList.take 14 := by decide
  have long : 14 ≤ "0123456789abcde".length := by decide
  obtain ⟨bytes, material, encoded, made, -, whole⟩ := written "0123456789abcde"
  exact ⟨enough, cut "ßßßßßßß" "x" enough, start, (shared _ _ start).2.1, long, bytes, material,
    encoded, made, (whole long).2⟩

end LanMan

end LanAuth
