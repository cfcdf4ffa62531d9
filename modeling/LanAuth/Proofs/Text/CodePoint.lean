/-
Module: LanAuth.Proofs.Text.CodePoint
Layer: Proofs
Purpose: Characters by their numbers. A number below the surrogates or above them is the number of its
  character; a number that is of no character stands for the null character.
Imports: none
Trusted boundary: none
Main exports: toNat_ofNat_of_valid, toNat_ofNat_of_lt, toNat_ofNat_cases
Open obligations: none
-/

namespace LanAuth.Text

variable {code : Nat}

theorem toNat_ofNat_of_valid (valid : code.isValidChar) : (Char.ofNat code).toNat = code := by
  rw [Char.ofNat, dif_pos valid]
  rfl

theorem toNat_ofNat_of_lt (small : code < 256) : (Char.ofNat code).toNat = code :=
  toNat_ofNat_of_valid (.inl (by omega))

theorem toNat_ofNat_cases (code : Nat) :
    (Char.ofNat code).toNat = code ∨ (Char.ofNat code).toNat = 0 := by
  by_cases valid : code.isValidChar
  · exact .inl (toNat_ofNat_of_valid valid)
  · right
    rw [Char.ofNat, dif_neg valid]
    rfl

end LanAuth.Text
