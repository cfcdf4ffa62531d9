/-
Module: LanAuth.Proofs.KeyExpansion
Layer: Proofs
Purpose: Expansion into a key loses nothing and looks at nothing else. Wherever seven bytes of the material
  stand, the key that is derived there holds their 56 bits in order, seven to a byte. So a key tells the
  bytes that it was made from, and every key without parity bits is made from some.
Imports: LanAuth.Proofs.Fit, LanAuth.Proofs.Chaining, LanAuth.Proofs.Des.Repacking
Trusted boundary: none
Main exports: deriveKey_outcome_eq_iff, deriveKey_inside, deriveKey_toList, key_expansion_is_lossless
Open obligations: none
-/
import LanAuth.Proofs.Fit
import LanAuth.Proofs.Chaining
import LanAuth.Proofs.Des.Repacking

namespace LanAuth

/-- A key tells the bytes that it was made from. -/
theorem deriveKey_outcome_eq_iff {material material' : List UInt8} {offset offset' : UInt64}
    (small : material.length < UInt64.size) (within : offset.toNat + 7 ≤ material.length)
    (small' : material'.length < UInt64.size) (within' : offset'.toNat + 7 ≤ material'.length) :
    (deriveKey material offset).outcome = (deriveKey material' offset').outcome ↔
      material.extract offset.toNat (offset.toNat + 7) =
        material'.extract offset'.toNat (offset'.toNat + 7) := by
  rw [deriveKey_of_within small within, deriveKey_of_within small' within', Except.ok.injEq,
    Des.spread_injective.eq_iff, ← toList_fit_drop within, ← toList_fit_drop within',
    Vector.toList_inj]

/-- What stands before and after the seven bytes does not count. -/
theorem deriveKey_inside (front back : List UInt8) (chunk : Vector UInt8 7)
    (small : (front ++ chunk.toList ++ back).length < UInt64.size) :
    (deriveKey (front ++ chunk.toList ++ back) (UInt64.ofNat front.length)).outcome =
      .ok (Des.spread chunk) := by
  have length : (front ++ chunk.toList ++ back).length = front.length + 7 + back.length := by
    rw [List.length_append, List.length_append, Vector.length_toList]
  have position : (UInt64.ofNat front.length).toNat = front.length :=
    UInt64.toNat_ofNat_of_lt' (by omega)
  have within : (UInt64.ofNat front.length).toNat + 7 ≤
      (front ++ chunk.toList ++ back).length := by omega
  have found : fit 7 ((front ++ chunk.toList ++ back).drop front.length) = chunk := by
    rw [List.append_assoc, List.drop_left, fit_append_of_le (by rw [Vector.length_toList]),
      fit_toList]
  have derived := deriveKey_of_within small within
  rw [position, found] at derived
  exact congrArg Traced.outcome derived

theorem deriveKey_toList (chunk : Vector UInt8 7) :
    (deriveKey chunk.toList 0).outcome = .ok (Des.spread chunk) := by
  have alone := deriveKey_inside [] [] chunk
  rw [List.nil_append, List.append_nil, Vector.length_toList] at alone
  exact alone (by decide)

/-- Key expansion repacks 56 bits and loses none. Wherever the material has seven bytes, bit `n` of these is
    bit `n % 7` of byte `n / 7` of the key that is derived there, and the lowest bit of each byte of the key
    is zero. So a key depends on its seven bytes alone, whatever stands before and after them, and different
    bytes make different keys; and between the chunks of seven bytes and the keys without parity bits,
    expansion is a bijection, with the joined upper seven bits of the key bytes as its inverse. -/
theorem key_expansion_is_lossless :
    (∀ (material : List UInt8) (offset : UInt64), material.length < UInt64.size →
      ∀ _ : offset.toNat + 7 ≤ material.length, ∃ key : Vector UInt8 8,
        (deriveKey material offset).outcome = .ok key ∧
        (∀ n (_ : n < 56), material[offset.toNat + n / 8].toBitVec.getMsbD (n % 8) =
          key[n / 7].toBitVec.getMsbD (n % 7)) ∧
        ∀ i (_ : i < 8), key[i].toBitVec.getMsbD 7 = false) ∧
    (∀ (front back : List UInt8) (chunk : Vector UInt8 7),
      (front ++ chunk.toList ++ back).length < UInt64.size → ∃ key : Vector UInt8 8,
        (deriveKey (front ++ chunk.toList ++ back) (UInt64.ofNat front.length)).outcome = .ok key ∧
        (deriveKey chunk.toList 0).outcome = .ok key) ∧
    (∀ (material material' : List UInt8) (offset offset' : UInt64),
      material.length < UInt64.size → offset.toNat + 7 ≤ material.length →
      material'.length < UInt64.size → offset'.toNat + 7 ≤ material'.length →
      ((deriveKey material offset).outcome = (deriveKey material' offset').outcome ↔
        material.extract offset.toNat (offset.toNat + 7) =
          material'.extract offset'.toNat (offset'.toNat + 7))) ∧
    (∀ chunk : Vector UInt8 7, (deriveKey chunk.toList 0).outcome = .ok (Des.spread chunk)) ∧
    Set.BijOn Des.spread Set.univ {key | Des.ParityClear key} ∧
    Set.InvOn Des.gather Des.spread Set.univ {key | Des.ParityClear key} ∧
    ∀ (key : Vector UInt8 8) n (_ : n < 56),
      (Bits.ofBytes (Des.gather key))[n] = key[n / 7].toBitVec.getMsbD (n % 7) := by
  refine ⟨?_, ?_, ?_, deriveKey_toList, Des.bijOn_spread, Des.invOn_gather_spread, ?_⟩
  · intro material offset small within
    have derived := deriveKey_of_within small within
    refine ⟨_, congrArg Traced.outcome derived, ?_, Des.parityClear_spread _⟩
    intro n hn
    have byte : n / 8 < 7 := by omega
    rw [Des.getMsbD_spread_of_lt _ hn, Bits.getElem_ofBytes, getElem_fit_drop within byte]
  · intro front back chunk small
    exact ⟨_, deriveKey_inside front back chunk small, deriveKey_toList chunk⟩
  · intro material material' offset offset' small within small' within'
    exact deriveKey_outcome_eq_iff small within small' within'
  · intro key n hn
    exact Des.getElem_ofBytes_gather key hn

/-- Nine bytes have a key at each of their first three positions, and no two of these are the same. -/
theorem key_expansion_is_lossless_nine_bytes :
    ([0x10, 0x21, 0x32, 0x43, 0x54, 0x65, 0x76, 0x87, 0x98] : List UInt8).length < UInt64.size ∧
    (0 : UInt64).toNat + 7 ≤
      ([0x10, 0x21, 0x32, 0x43, 0x54, 0x65, 0x76, 0x87, 0x98] : List UInt8).length ∧
    (2 : UInt64).toNat + 7 ≤
      ([0x10, 0x21, 0x32, 0x43, 0x54, 0x65, 0x76, 0x87, 0x98] : List UInt8).length ∧
    (∃ key : Vector UInt8 8,
      (deriveKey [0x10, 0x21, 0x32, 0x43, 0x54, 0x65, 0x76, 0x87, 0x98] 2).outcome = .ok key ∧
      ∀ i (_ : i < 8), key[i].toBitVec.getMsbD 7 = false) ∧
    (∃ key : Vector UInt8 8,
      (deriveKey [0x10, 0x21, 0x32, 0x43, 0x54, 0x65, 0x76, 0x87, 0x98] 1).outcome = .ok key ∧
      (deriveKey [0x21, 0x32, 0x43, 0x54, 0x65, 0x76, 0x87] 0).outcome = .ok key) ∧
    (deriveKey [0x10, 0x21, 0x32, 0x43, 0x54, 0x65, 0x76, 0x87, 0x98] 0).outcome ≠
      (deriveKey [0x10, 0x21, 0x32, 0x43, 0x54, 0x65, 0x76, 0x87, 0x98] 2).outcome := by
  obtain ⟨repacked, alone, told, -⟩ := key_expansion_is_lossless
  have small : ([0x10, 0x21, 0x32, 0x43, 0x54, 0x65, 0x76, 0x87, 0x98] : List UInt8).length <
      UInt64.size := by decide
  have first : (0 : UInt64).toNat + 7 ≤
      ([0x10, 0x21, 0x32, 0x43, 0x54, 0x65, 0x76, 0x87, 0x98] : List UInt8).length := by decide
  have last : (2 : UInt64).toNat + 7 ≤
      ([0x10, 0x21, 0x32, 0x43, 0x54, 0x65, 0x76, 0x87, 0x98] : List UInt8).length := by decide
  obtain ⟨key, derived, -, clear⟩ := repacked _ _ small last
  have middle := alone [0x10] [0x98] #v[0x21, 0x32, 0x43, 0x54, 0x65, 0x76, 0x87] small
  refine ⟨small, first, last, ⟨key, derived, clear⟩, middle, ?_⟩
  rw [Ne, told _ _ _ _ small first small last]
  decide

end LanAuth
