/-
Module: LanAuth.Proofs.Fit
Layer: Proofs
Purpose: Bytes brought to a fixed length. They are cut where they are too long and followed by zeros where
  they are too short, so bytes beyond the length do not count, nor do zeros at the end.
Imports: LanAuth.KeyMaterial, Mathlib.Data.List.GetD
Trusted boundary: none
Main exports: fit_congr, toList_fit, toList_fit_of_le, fit_toList, mem_fit, getElem_fit_drop,
  toList_fit_drop, fit_take, fit_append_of_le, fit_append_zeros, fit_zeros
Open obligations: none
-/
import LanAuth.KeyMaterial
import Mathlib.Data.List.GetD

namespace LanAuth

variable {n : Nat} {bytes : List UInt8}

/-- What is looked at is each of the first `n` positions, where zero is read behind the end. -/
theorem fit_congr {bytes' : List UInt8} (same : ∀ i < n, bytes.getD i 0 = bytes'.getD i 0) :
    fit n bytes = fit n bytes' := by
  refine Vector.ext fun i hi => ?_
  rw [getElem_fit, getElem_fit, same i hi]

theorem toList_fit (n : Nat) (bytes : List UInt8) :
    (fit n bytes).toList = bytes.take n ++ List.replicate (n - bytes.length) 0 := by
  apply List.ext_getElem
  · simp only [Vector.length_toList, List.length_append, List.length_take, List.length_replicate]
    omega
  · intro i hi hi'
    have inside : i < n := by simpa using hi
    rw [Vector.getElem_toList, getElem_fit]
    by_cases within : i < bytes.length
    · have front : i < (bytes.take n).length := by
        rw [List.length_take]
        omega
      rw [List.getElem_append_left front, List.getElem_take, List.getD_eq_getElem bytes 0 within]
    · have behind : (bytes.take n).length ≤ i := by
        rw [List.length_take]
        omega
      rw [List.getElem_append_right behind, List.getElem_replicate,
        List.getD_eq_default bytes 0 (by omega)]

theorem toList_fit_of_le (enough : n ≤ bytes.length) : (fit n bytes).toList = bytes.take n := by
  rw [toList_fit, Nat.sub_eq_zero_of_le enough, List.replicate_zero, List.append_nil]

/-!
### What is kept

Bytes that already have the length are left alone, and nothing but zeros is added to others.
-/

theorem fit_toList (bytes : Vector UInt8 n) : fit n bytes.toList = bytes := by
  refine Vector.ext fun i hi => ?_
  rw [getElem_fit]
  simp [hi]

theorem mem_fit {b : UInt8} (h : b ∈ fit n bytes) : b ∈ bytes ∨ b = 0 := by
  rw [← Vector.mem_toList_iff, toList_fit] at h
  rcases List.mem_append.mp h with kept | added
  · exact .inl (List.mem_of_mem_take kept)
  · exact .inr (List.eq_of_mem_replicate added)

section Range

variable {position : Nat} (within : position + n ≤ bytes.length)
include within

theorem getElem_fit_drop {i : Nat} (hi : i < n) :
    (fit n (bytes.drop position))[i] = bytes[position + i] := by
  have inside : i < (bytes.drop position).length := by
    rw [List.length_drop]
    omega
  rw [getElem_fit, List.getD_eq_getElem _ 0 inside, List.getElem_drop]

theorem toList_fit_drop :
    (fit n (bytes.drop position)).toList = bytes.extract position (position + n) := by
  have enough : n ≤ (bytes.drop position).length := by
    rw [List.length_drop]
    omega
  rw [toList_fit_of_le enough, List.extract_eq_take_drop, Nat.add_sub_cancel_left]

end Range

/-!
### What does not count
-/

theorem fit_take (n : Nat) (bytes : List UInt8) : fit n (bytes.take n) = fit n bytes := by
  apply fit_congr
  intro i hi
  simp [List.getD_eq_getElem?_getD, hi]

theorem fit_append_of_le {front : List UInt8} (enough : n ≤ front.length) (back : List UInt8) :
    fit n (front ++ back) = fit n front := by
  apply fit_congr
  intro i hi
  exact List.getD_append front back 0 i (by omega)

theorem fit_append_zeros (n : Nat) (bytes : List UInt8) (count : Nat) :
    fit n (bytes ++ List.replicate count 0) = fit n bytes := by
  apply fit_congr
  intro i hi
  by_cases within : i < bytes.length
  · exact List.getD_append bytes _ 0 i within
  · rw [List.getD_append_right bytes _ 0 i (by omega), List.getD_eq_default bytes 0 (by omega)]
    simp [List.getD_eq_getElem?_getD]

theorem fit_zeros (n count : Nat) : fit n (List.replicate count 0) = Vector.replicate n 0 := by
  refine Vector.ext fun i hi => ?_
  rw [getElem_fit, Vector.getElem_replicate]
  simp [List.getD_eq_getElem?_getD]

end LanAuth
