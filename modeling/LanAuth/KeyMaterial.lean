/-
Module: LanAuth.KeyMaterial
Layer: Schemes
Purpose: Bytes that serve as keys, seven at a time. A block is encrypted under one chunk of the material,
  or under several chunks one after another, and the trace says which chunks were used.
Imports: LanAuth.Trace, LanAuth.Des.Cipher, LanAuth.Des.KeyExpansion
Trusted boundary: none
Main exports: fit, chunkAt?, deriveKey, encryptBlock, encryptUnder, encryptUnderEach, deriveKey_of_none,
  deriveKey_of_some, encryptUnder_of_chunk, encryptUnderEach_two
Open obligations: none
-/
import LanAuth.Trace
import LanAuth.Des.Cipher
import LanAuth.Des.KeyExpansion

namespace LanAuth

/-- The first `n` bytes of a string of bytes, with zeros in place of those that it lacks. -/
def fit (n : Nat) (bytes : List UInt8) : Vector UInt8 n :=
  Vector.ofFn fun i => bytes.getD i.val 0

/-- A range of seven positions whose end does not wrap around ends seven after its start. -/
theorem toNat_add_seven {offset : UInt64} (h : offset ≤ offset + 7) :
    (offset + 7).toNat = offset.toNat + 7 := by
  have bound := offset.toNat_lt
  rw [UInt64.le_iff_toNat_le, UInt64.toNat_add] at h
  rw [UInt64.toNat_add]
  simp only [UInt64.reduceToNat] at h ⊢
  omega

theorem toNat_add_seven_of_lt {offset : UInt64} (small : offset.toNat + 7 < UInt64.size) :
    (offset + 7).toNat = offset.toNat + 7 := by
  rw [UInt64.toNat_add]
  simp only [UInt64.reduceToNat]
  exact Nat.mod_eq_of_lt small

/-- The seven bytes of the material from a position on, if it has them. Positions are machine words, so
    the end of the range may wrap around; such a range is not in the material. -/
def chunkAt? (material : List UInt8) (offset : UInt64) : Option (Vector UInt8 7) :=
  if inside : offset ≤ offset + 7 ∧ (offset + 7).toNat ≤ material.length then
    have past := toNat_add_seven inside.1
    some (Vector.ofFn fun i => material[offset.toNat + i.val])
  else
    none

/-- The key that seven bytes of the material make. -/
def deriveKey (material : List UInt8) (offset : UInt64) : Traced (Vector UInt8 8) := do
  match chunkAt? material offset with
  | none => Traced.outOfRange
  | some chunk =>
      Traced.record (.derivingKey offset (offset + 7))
      return Des.spread chunk

/-- A block encrypted under a key. A key that is not eight bytes long is refused; every other key is
    taken, whatever its parity bits are. -/
def encryptBlock (key : List UInt8) (block : Vector UInt8 8) : Traced (Vector UInt8 8) := do
  if fits : key.length = 8 then
    Traced.record .encryptedBlock
    return Des.encrypt ⟨key.toArray, by simpa using fits⟩ block
  else
    Traced.refuse (.invalidKey .des key.length)

/-- A block encrypted under the key that seven bytes of the material make. -/
def encryptUnder (material : List UInt8) (offset : UInt64) (block : Vector UInt8 8) :
    Traced (Vector UInt8 8) := do
  let key ← deriveKey material offset
  encryptBlock key.toList block

/-- A block encrypted under each of the first `n` chunks of the material, the results side by side. -/
def encryptUnderEach (material : List UInt8) (block : Vector UInt8 8) :
    (n : Nat) → Traced (Vector UInt8 (8 * n))
  | 0 => return #v[]
  | n + 1 => do
      let before ← encryptUnderEach material block n
      let last ← encryptUnder material (UInt64.ofNat (7 * n)) block
      return before ++ last

/-!
### Which positions hold a chunk

A position does exactly if there are seven bytes from there on, also where the end of the range would wrap
around. One equation for each way to end says what a derivation logs and yields, and one more what
encryption under a chunk does.
-/

theorem getElem_fit (n : Nat) (bytes : List UInt8) (i : Nat) (h : i < n) :
    (fit n bytes)[i] = bytes.getD i 0 := by
  simp [fit]

theorem chunkAt?_eq_none_iff {material : List UInt8} {offset : UInt64}
    (small : material.length < UInt64.size) :
    chunkAt? material offset = none ↔ material.length < offset.toNat + 7 := by
  have bound := offset.toNat_lt_size
  simp only [UInt64.size] at small bound
  unfold chunkAt?
  split
  · next inside =>
      have past := toNat_add_seven inside.1
      constructor
      · intro h
        cases h
      · intro h
        omega
  · next outside =>
      simp only [true_iff]
      apply Nat.lt_of_not_le
      intro le
      have past : (offset + 7).toNat = offset.toNat + 7 := by
        apply toNat_add_seven_of_lt
        simp only [UInt64.size]
        omega
      apply outside
      rw [UInt64.le_iff_toNat_le]
      omega

theorem deriveKey_of_none {material : List UInt8} {offset : UInt64}
    (found : chunkAt? material offset = none) :
    deriveKey material offset = ⟨[], .error .outOfRange⟩ := by
  unfold deriveKey
  rw [found]
  rfl

theorem deriveKey_of_some {material : List UInt8} {offset : UInt64} {chunk : Vector UInt8 7}
    (found : chunkAt? material offset = some chunk) :
    deriveKey material offset = ⟨[.derivingKey offset (offset + 7)], .ok (Des.spread chunk)⟩ := by
  unfold deriveKey
  rw [found]
  rfl

@[simp] theorem encryptBlock_toList (key block : Vector UInt8 8) :
    encryptBlock key.toList block = ⟨[.encryptedBlock], .ok (Des.encrypt key block)⟩ := by
  have fits : key.toList.length = 8 := Vector.length_toList
  unfold encryptBlock
  rw [dif_pos fits]
  rfl

theorem encryptUnder_of_chunk {material : List UInt8} {offset : UInt64} {chunk : Vector UInt8 7}
    (found : chunkAt? material offset = some chunk) (block : Vector UInt8 8) :
    encryptUnder material offset block =
      ⟨[.derivingKey offset (offset + 7), .encryptedBlock],
        .ok (Des.encrypt (Des.spread chunk) block)⟩ := by
  unfold encryptUnder
  rw [deriveKey_of_some found, Traced.mk_ok_bind, encryptBlock_toList]
  rfl

/-- The first two chunks, one after the other. -/
theorem encryptUnderEach_two (material : List UInt8) (block : Vector UInt8 8) :
    encryptUnderEach material block 2 = do
      let first ← encryptUnder material 0 block
      let second ← encryptUnder material 7 block
      return first ++ second := by
  have nothing (bytes : Vector UInt8 8) : (#v[] : Vector UInt8 0) ++ bytes = bytes := by
    apply Vector.toArray_inj.mp
    rw [Vector.toArray_append]
    exact Array.empty_append
  simp only [encryptUnderEach, pure_bind, bind_assoc]
  refine bind_congr fun first => bind_congr fun second => ?_
  -- the block before the first chunk has no bytes
  exact congrArg (fun front : Vector UInt8 8 => (pure (front ++ second) : Traced (Vector UInt8 16)))
    (nothing first)

end LanAuth
