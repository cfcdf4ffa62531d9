/-
Module: LanAuth.Proofs.Des.Evaluation
Layer: Proofs
Purpose: The cipher computed on lists of bits. A list gives its elements up one by one, where a string of
  bits of a fixed length is built anew for each of them, so a ciphertext that is needed in a proof is
  computed here. Each step on lists is the step of the cipher, and so are all the rounds and the key schedule.
Imports: LanAuth.Des.Cipher
Trusted boundary: none
Main exports: Listed.network, toList_select, toList_substitute, toLists_round, toLists_rounds,
  toList_network, toLists_subkeys, encrypt_eq_of_listed
Open obligations: none
-/
import Mathlib.Data.List.Rotate
import LanAuth.Des.Cipher

namespace LanAuth.Des

variable {n m : Nat}

namespace Listed

def select (table : Vector (Fin n) m) (bits : List Bool) : List Bool :=
  table.toList.map fun position => bits.getD position.val false

def xor (left right : List Bool) : List Bool :=
  List.zipWith (fun a b => a ^^ b) left right

/-- What a substitution box makes of six bits. -/
def entry (box : Fin 8) (first second third fourth fifth sixth : Bool) : List Bool :=
  let place := BitVec.ofBoolListBE [first, sixth, second, third, fourth, fifth]
  List.ofFn fun i : Fin 4 => ((substitutionBoxes.get box).get place.toFin).getMsbD i

def substitute (bits : List Bool) : List Bool :=
  (List.ofFn fun box : Fin 8 =>
    let bit i := bits.getD (6 * box.val + i) false
    entry box (bit 0) (bit 1) (bit 2) (bit 3) (bit 4) (bit 5)).flatten

def mix (subkey half : List Bool) : List Bool :=
  select roundPermutation (substitute (xor (select expansion half) subkey))

def round (halves : List Bool × List Bool) (subkey : List Bool) : List Bool × List Bool :=
  (halves.2, xor halves.1 (mix subkey halves.2))

def network (subkeys : List (List Bool)) (block : List Bool) : List Bool :=
  let permuted := select initialPermutation block
  let halves := subkeys.foldl round (permuted.take 32, permuted.drop 32)
  select finalPermutation (halves.2 ++ halves.1)

def subkeysFrom : List Nat → List Bool → List Bool → List (List Bool)
  | [], _, _ => []
  | count :: later, left, right =>
      let left := left.rotate count
      let right := right.rotate count
      select subkeyChoice (left ++ right) :: subkeysFrom later left right

def subkeys (key : List Bool) : List (List Bool) :=
  let chosen := select keyChoice key
  subkeysFrom rotations (chosen.take 28) (chosen.drop 28)

end Listed

/-!
### One step
-/

theorem toList_select (table : Vector (Fin n) m) (bits : Bits n) :
    (Bits.select table bits).toList = Listed.select table bits.toList := by
  unfold Bits.select Listed.select
  rw [Vector.toList_map]
  simp

theorem toList_xor (left right : Bits n) :
    (Bits.xor left right).toList = Listed.xor left.toList right.toList := by
  unfold Bits.xor Listed.xor
  rw [Vector.toList_zipWith]

theorem toList_flatten (pieces : Vector (Bits n) m) :
    pieces.flatten.toList = (pieces.toList.map Vector.toList).flatten := by
  calc pieces.flatten.toList
      = (pieces.toArray.map Vector.toArray).flatten.toList := rfl
    _ = ((pieces.toArray.toList.map Vector.toArray).map Array.toList).flatten := by
        rw [Array.toList_flatten, Array.toList_map]
    _ = (pieces.toList.map Vector.toList).flatten := by
        rw [List.map_map]
        rfl

theorem toList_substitute (bits : Bits 48) :
    (substitute bits).toList = Listed.substitute bits.toList := by
  have read (box : Fin 8) {i : Nat} (hi : i < 6) :
      bits.toList.getD (6 * box.val + i) false = bits[6 * box.val + i] := by
    have inside : 6 * box.val + i < 48 := by omega
    simp [List.getD_eq_getElem?_getD, inside]
  have pieces : (substitute bits).toList =
      (List.ofFn fun box : Fin 8 => Listed.entry box bits[6 * box.val] bits[6 * box.val + 1]
        bits[6 * box.val + 2] bits[6 * box.val + 3] bits[6 * box.val + 4]
        bits[6 * box.val + 5]).flatten := by
    unfold substitute
    rw [toList_flatten, Vector.toList_ofFn, List.map_ofFn]
    apply congrArg (fun piece : Fin 8 → List Bool => (List.ofFn piece).flatten)
    funext box
    exact Vector.toList_ofFn
  rw [pieces]
  unfold Listed.substitute
  apply congrArg (fun piece : Fin 8 → List Bool => (List.ofFn piece).flatten)
  funext box
  have first : bits.toList.getD (6 * box.val) false = bits[6 * box.val] :=
    read box (by decide : 0 < 6)
  simp only [Nat.add_zero, first, read box (by decide : 1 < 6), read box (by decide : 2 < 6),
    read box (by decide : 3 < 6), read box (by decide : 4 < 6), read box (by decide : 5 < 6)]

theorem toList_mix (subkey : Bits 48) (half : Bits 32) :
    (mix subkey half).toList = Listed.mix subkey.toList half.toList := by
  unfold mix Listed.mix
  rw [toList_select, toList_substitute, toList_xor, toList_select]

/-!
### The rounds
-/

def Halves.toLists (halves : Halves) : List Bool × List Bool :=
  (halves.left.toList, halves.right.toList)

theorem toLists_ofBits (bits : Bits 64) :
    (Halves.ofBits bits).toLists = (bits.toList.take 32, bits.toList.drop 32) := by
  have left : (Halves.ofBits bits).left.toList = bits.toList.take 32 := by
    apply List.ext_getElem
    · rw [Vector.length_toList, List.length_take, Vector.length_toList]
      rfl
    · intro i hi hi'
      simp [Halves.ofBits]
  have right : (Halves.ofBits bits).right.toList = bits.toList.drop 32 := by
    apply List.ext_getElem
    · rw [Vector.length_toList, List.length_drop, Vector.length_toList]
    · intro i hi hi'
      simp [Halves.ofBits]
  rw [Halves.toLists, left, right]

theorem toLists_round (halves : Halves) (subkey : Bits 48) :
    (halves.round subkey).toLists = Listed.round halves.toLists subkey.toList := by
  unfold Halves.round Halves.toLists Listed.round
  rw [toList_xor, toList_mix]

theorem toLists_rounds (subkeys : List (Bits 48)) (halves : Halves) :
    (subkeys.foldl Halves.round halves).toLists =
      (subkeys.map Vector.toList).foldl Listed.round halves.toLists := by
  induction subkeys generalizing halves with
  | nil => rfl
  | cons subkey later ih =>
      rw [List.foldl_cons, List.map_cons, List.foldl_cons, ih (halves.round subkey), toLists_round]

theorem toList_network (subkeys : List (Bits 48)) (block : Bits 64) :
    (network subkeys block).toList =
      Listed.network (subkeys.map Vector.toList) block.toList := by
  have rounds := toLists_rounds subkeys (Halves.ofBits (Bits.select initialPermutation block))
  rw [toLists_ofBits, toList_select] at rounds
  unfold network Listed.network
  simp only [← rounds]
  rw [toList_select]
  unfold Halves.toBits Halves.swap Halves.toLists
  rw [Vector.toList_append]

/-!
### The key schedule
-/

theorem toList_rotateLeft (count : Nat) (bits : Bits n) :
    (bits.rotateLeft count).toList = bits.toList.rotate count := by
  apply List.ext_getElem
  · simp
  · intro i hi hi'
    simp [Bits.rotateLeft, List.getElem_rotate]

theorem toLists_subkeysFrom (counts : List Nat) (left right : Bits 28) :
    (subkeysFrom counts left right).map Vector.toList =
      Listed.subkeysFrom counts left.toList right.toList := by
  induction counts generalizing left right with
  | nil => rfl
  | cons count later ih =>
      rw [subkeysFrom, List.map_cons, ih, toList_select, Vector.toList_append, toList_rotateLeft,
        toList_rotateLeft]
      rfl

theorem toLists_subkeys (key : Bits 64) :
    (subkeys key).map Vector.toList = Listed.subkeys key.toList := by
  have left : (leftKey key).toList = (Listed.select keyChoice key.toList).take 28 := by
    rw [← toList_select]
    apply List.ext_getElem
    · simp
    · intro i hi hi'
      simp [leftKey]
  have right : (rightKey key).toList = (Listed.select keyChoice key.toList).drop 28 := by
    rw [← toList_select]
    apply List.ext_getElem
    · simp
    · intro i hi hi'
      simp [rightKey]
  rw [subkeys, toLists_subkeysFrom, left, right]
  rfl

/-!
### Ciphertexts
-/

/-- A ciphertext is confirmed by its bits. -/
theorem encrypt_eq_of_listed {key block cipher : Vector UInt8 8} {schedule : List (Bits 48)}
    (scheduled : subkeys (Bits.ofBytes key) = schedule)
    (same : Listed.network (schedule.map Vector.toList) (Bits.ofBytes block).toList =
      (Bits.ofBytes cipher).toList) :
    encrypt key block = cipher := by
  have bits : network (subkeys (Bits.ofBytes key)) (Bits.ofBytes block) = Bits.ofBytes cipher := by
    apply Vector.toList_inj.mp
    rw [toList_network, scheduled, same]
  unfold encrypt
  rw [bits, Bits.toBytes_ofBytes]

end LanAuth.Des
