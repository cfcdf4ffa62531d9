/-
Module: LanAuth.Des.KeySchedule
Layer: Cipher
Purpose: The sixteen subkeys of a DES key. The key bits that count are split into two halves; before each
  round both halves are rotated, and a subkey is chosen from the two.
Imports: LanAuth.Bits, LanAuth.Des.Tables
Trusted boundary: human-reviewed spec
Main exports: subkeysFrom, subkeys
Open obligations: none
-/
import LanAuth.Bits
import LanAuth.Des.Tables

namespace LanAuth.Des

/-- One subkey for each rotation, starting from the two halves given. -/
def subkeysFrom : List Nat → Bits 28 → Bits 28 → List (Bits 48)
  | [], _, _ => []
  | count :: later, left, right =>
      let left := left.rotateLeft count
      let right := right.rotateLeft count
      Bits.select subkeyChoice (left ++ right) :: subkeysFrom later left right

def leftKey (key : Bits 64) : Bits 28 :=
  Vector.ofFn fun i => key[keyChoice[i.val].val]

def rightKey (key : Bits 64) : Bits 28 :=
  Vector.ofFn fun i => key[keyChoice[28 + i.val].val]

/-- The subkeys of a key, in the order in which encryption uses them. -/
def subkeys (key : Bits 64) : List (Bits 48) :=
  subkeysFrom rotations (leftKey key) (rightKey key)

end LanAuth.Des
