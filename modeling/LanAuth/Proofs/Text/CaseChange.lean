/-
Module: LanAuth.Proofs.Text.CaseChange
Layer: Proofs
Purpose: Changes of a text that uppercase does not see: uppercase itself, and the other case for the ASCII
  letters at any positions. One change leaves the uppercase of a text alone, and so does any number of
  them, one after another.
Imports: LanAuth.Proofs.Text.Idempotence
Trusted boundary: none
Main exports: CaseChange, CaseChange.apply, recase, ofChars_flipAt, CaseChange.uppercase_apply,
  uppercase_recase
Open obligations: none
-/
import LanAuth.Proofs.Text.Idempotence

namespace LanAuth.Text

/-- An ASCII letter in the other case, which is 32 further on or back. Every other character is left as it
    is. -/
def flipCase (c : Char) : Char :=
  if 0x41 ≤ c.toNat ∧ c.toNat ≤ 0x5a then
    Char.ofNat (c.toNat + 0x20)
  else if 0x61 ≤ c.toNat ∧ c.toNat ≤ 0x7a then
    Char.ofNat (c.toNat - 0x20)
  else
    c

/-- The ASCII letters at the chosen positions in the other case. -/
def flipAt (chosen : Nat → Bool) (chars : List Char) : List Char :=
  chars.mapIdx fun i c => if chosen i then flipCase c else c

/-- A change of the case of a text. -/
inductive CaseChange where
  | uppercase
  /-- The other case for the ASCII letters at the chosen positions. -/
  | flip (chosen : Nat → Bool)

def CaseChange.apply (change : CaseChange) (text : String) : String :=
  match change with
  | .uppercase => Text.uppercase text
  | .flip chosen => String.ofList (flipAt chosen text.toList)

/-- The text after the changes, one after another. -/
def recase (changes : List CaseChange) (text : String) : String :=
  changes.foldl (fun text change => change.apply text) text

/-!
### One character

Both cases of an ASCII letter have the same uppercase: the tables lead from the one to the other, and leave
that one alone.
-/

theorem ofCode_ascii_lower {code : Nat} (above : 0x61 ≤ code) (below : code ≤ 0x7a) :
    Uppercase.ofCode code = [code - 0x20] := by
  have all : ∀ i < 26, Uppercase.ofCode (0x61 + i) = [0x41 + i] := by decide +kernel
  obtain ⟨i, rfl⟩ := Nat.exists_eq_add_of_le above
  rw [all i (by omega)]
  congr 1
  omega

theorem ofChar_ascii_lower {c : Char} (above : 0x61 ≤ c.toNat) (below : c.toNat ≤ 0x7a) :
    Uppercase.ofChar c = [Char.ofNat (c.toNat - 0x20)] := by
  unfold Uppercase.ofChar
  rw [ofCode_ascii_lower above below, List.map_singleton]

theorem ofChar_ascii_upper {c : Char} (above : 0x41 ≤ c.toNat) (below : c.toNat ≤ 0x5a) :
    Uppercase.ofChar c = [c] := by
  apply Uppercase.ofChar_eq_self
  · omega
  · unfold Uppercase.IsLower
    omega

theorem ofChar_flipCase (c : Char) : Uppercase.ofChar (flipCase c) = Uppercase.ofChar c := by
  unfold flipCase
  split
  · next upper =>
      have place : (Char.ofNat (c.toNat + 0x20)).toNat = c.toNat + 0x20 :=
        toNat_ofNat_of_lt (by omega)
      rw [ofChar_ascii_lower (by omega) (by omega), ofChar_ascii_upper upper.1 upper.2, place,
        Nat.add_sub_cancel, Char.ofNat_toNat]
  · split
    · next lower =>
        have place : (Char.ofNat (c.toNat - 0x20)).toNat = c.toNat - 0x20 :=
          toNat_ofNat_of_lt (by omega)
        rw [ofChar_ascii_lower lower.1 lower.2, ofChar_ascii_upper (by omega) (by omega)]
    · rfl

/-!
### One change, and any number of them
-/

theorem ofChars_flipAt (chosen : Nat → Bool) (chars : List Char) :
    Uppercase.ofChars (flipAt chosen chars) = Uppercase.ofChars chars := by
  induction chars generalizing chosen with
  | nil => rfl
  | cons c later ih =>
      have first : Uppercase.ofChar (if chosen 0 then flipCase c else c) = Uppercase.ofChar c := by
        split
        · exact ofChar_flipCase c
        · rfl
      have rest := ih fun i => chosen (i + 1)
      unfold Uppercase.ofChars flipAt at rest ⊢
      rw [List.mapIdx_cons, List.flatMap_cons, List.flatMap_cons, first, rest]

theorem CaseChange.uppercase_apply (change : CaseChange) (text : String) :
    Text.uppercase (change.apply text) = Text.uppercase text := by
  cases change with
  | uppercase => exact uppercase_uppercase text
  | flip chosen =>
      apply String.toList_injective
      simp only [CaseChange.apply, toList_uppercase, String.toList_ofList]
      exact ofChars_flipAt chosen text.toList

/-- No number of changes shows in the uppercase of a text. -/
theorem uppercase_recase (changes : List CaseChange) (text : String) :
    uppercase (recase changes text) = uppercase text := by
  induction changes generalizing text with
  | nil => rfl
  | cons change later ih =>
      calc uppercase (recase (change :: later) text)
          = uppercase (recase later (change.apply text)) := rfl
        _ = uppercase (change.apply text) := ih (change.apply text)
        _ = uppercase text := change.uppercase_apply text

example : recase [.flip fun i => i % 2 == 0, .flip fun i => i == 1] "Straße 1ä" = "sTRaße 1ä" := by
  decide +kernel

end LanAuth.Text
