/-
Module: LanAuth.Proofs.Digest.Md4Block
Layer: Proofs
Purpose: MD4 takes in a block as the arithmetic says. The steps move the four words on from one to the next,
  where the operations name the registers and leave the words in place; so what is kept from step to step is
  which register holds the first of the words. After every four steps it is the same one again.
Imports: LanAuth.Digest.Md4, LanAuth.Digest.Md4.Arithmetic
Trusted boundary: none
Main exports: Md4.registers, Md4.held, Md4.operationAt, Md4.Follows, Md4.operate_held, Md4.foldl_operate_held,
  Md4.run_registers, Md4.compress_registers
Open obligations: none
-/
import LanAuth.Digest.Md4
import LanAuth.Digest.Md4.Arithmetic

namespace LanAuth.Digest

/-!
### Words as numbers
-/

/-- Moving the digits of a word in a circle is adding what goes up to what comes in at the bottom. -/
theorem toNat_rotateWord (word : UInt32) {places : UInt32} (positive : 0 < places.toNat)
    (bounded : places.toNat < 32) :
    (rotateWord word places).toNat = Md4.Arithmetic.rotate word.toNat places.toNat := by
  have bound : word.toNat < 0x100000000 := word.toNat_lt
  have rest : (32 - places).toNat = 32 - places.toNat :=
    UInt32.toNat_sub_of_le _ _ (Nat.le_of_lt bounded)
  have split : 2 ^ (32 - places.toNat) * 2 ^ places.toNat = 0x100000000 := by
    have sum : 2 ^ (32 - places.toNat) * 2 ^ places.toNat = 2 ^ 32 := by
      rw [← Nat.pow_add, Nat.sub_add_cancel (Nat.le_of_lt bounded)]
    exact sum
  have whole : (word <<< places).toNat = (word.toNat <<< places.toNat) % 0x100000000 := by
    rw [UInt32.toNat_shiftLeft, Nat.mod_eq_of_lt bounded]
  have upper : (word.toNat <<< places.toNat) % 0x100000000 =
      (word.toNat % 2 ^ (32 - places.toNat)) <<< places.toNat := by
    rw [← split, Nat.shiftLeft_eq, Nat.shiftLeft_eq, Nat.mul_mod_mul_right]
  have lower : (word >>> (32 - places)).toNat = word.toNat >>> (32 - places.toNat) := by
    rw [UInt32.toNat_shiftRight, rest, Nat.mod_eq_of_lt (by omega)]
  have apart : word.toNat >>> (32 - places.toNat) < 2 ^ places.toNat := by
    rw [Nat.shiftRight_eq_div_pow]
    apply Nat.div_lt_of_lt_mul
    rw [split]
    exact bound
  rw [rotateWord, UInt32.toNat_or, whole, lower, upper, ← Nat.shiftLeft_add_eq_or_of_lt apart, ← upper,
    Md4.Arithmetic.rotate]

namespace Md4

open Arithmetic (Register Registers Operation Pass)

/-- The four words as what the registers hold. -/
def registers (s : Chaining) : Registers
  | .a => s.a.toNat
  | .b => s.b.toNat
  | .c => s.c.toNat
  | .d => s.d.toNat

/-!
### One step

The registers follow each other in a circle. A step changes the one that leads; the one before it leads next.
-/

def next : Register → Register
  | .a => .b
  | .b => .c
  | .c => .d
  | .d => .a

def previous : Register → Register
  | .a => .d
  | .b => .a
  | .c => .b
  | .d => .c

/-- What the registers hold if the first of the four words is in a given one and the others follow. -/
def held (leading : Register) (s : Chaining) : Registers :=
  match leading with
  | .a => registers s
  | .b => registers ⟨s.d, s.a, s.b, s.c⟩
  | .c => registers ⟨s.c, s.d, s.a, s.b⟩
  | .d => registers ⟨s.b, s.c, s.d, s.a⟩

/-- The leading register holds the first of the words, and the registers behind it the others. -/
theorem held_in_order (leading : Register) (s : Chaining) :
    held leading s leading = s.a.toNat ∧
    held leading s (next leading) = s.b.toNat ∧
    held leading s (next (next leading)) = s.c.toNat ∧
    held leading s (next (next (next leading))) = s.d.toNat := by
  cases leading with
  | a => exact ⟨rfl, rfl, rfl, rfl⟩
  | b => exact ⟨rfl, rfl, rfl, rfl⟩
  | c => exact ⟨rfl, rfl, rfl, rfl⟩
  | d => exact ⟨rfl, rfl, rfl, rfl⟩

/-- The register that holds the first of the words at a step. -/
def leadingAt : Nat → Register
  | 0 => .a
  | i + 1 => previous (leadingAt i)

/-- The operation that a step of a round carries out. -/
def operationAt (round : Round) (entry : Fin 16 × Nat) : Operation :=
  let leading := leadingAt entry.2
  ⟨leading, next leading, next (next leading), next (next (next leading)), entry.1.val,
    (round.shifts.get (Fin.ofNat 4 entry.2)).toNat⟩

/-- A round of steps follows the operations of a pass. -/
structure Follows (round : Round) (pass : Pass) : Prop where
  mix : ∀ x y z, (round.mix x y z).toNat = pass.mix x.toNat y.toNat z.toNat
  constant : round.constant.toNat = pass.constant
  places : ∀ i : Fin 4, 0 < round.shifts[i.val].toNat ∧ round.shifts[i.val].toNat < 32
  steps : round.order.length = 16
  operations : pass.operations = round.order.zipIdx.map (operationAt round)

section

variable {round : Round} {pass : Pass} (follows : Follows round pass)
variable {words : Vector UInt32 16} {numbers : Nat → Nat}
  (same : ∀ i : Fin 16, numbers i.val = (words.get i).toNat)
include follows same

/-- The new word of a step is what the operation computes. -/
theorem toNat_step_b (s : Chaining) (entry : Fin 16 × Nat) :
    (round.step words s entry).b.toNat =
      pass.result numbers (held (leadingAt entry.2) s) (operationAt round entry) := by
  have turn : entry.2 % 4 < 4 := Nat.mod_lt _ (by decide)
  obtain ⟨positive, bounded⟩ := follows.places ⟨entry.2 % 4, turn⟩
  obtain ⟨first, second, third, fourth⟩ := held_in_order (leadingAt entry.2) s
  have shift : round.shifts.get (Fin.ofNat 4 entry.2) = round.shifts[entry.2 % 4] := rfl
  have word : words.get entry.1 = words[entry.1.val] := rfl
  simp only [Pass.result, operationAt, first, second, third, fourth, shift, same entry.1, word,
    ← follows.mix, ← follows.constant, Round.step, toNat_rotateWord _ positive bounded,
    UInt32.toNat_add, Nat.mod_add_mod]

/-- A step does with the words what its operation does with the registers, and the first of the words is
    then in the register before. -/
theorem operate_held (s : Chaining) (entry : Fin 16 × Nat) :
    pass.operate numbers (held (leadingAt entry.2) s) (operationAt round entry) =
      held (leadingAt (entry.2 + 1)) (round.step words s entry) := by
  have changed : (operationAt round entry).changed = leadingAt entry.2 := rfl
  have moved : leadingAt (entry.2 + 1) = previous (leadingAt entry.2) := rfl
  funext register
  simp only [Pass.operate, ← toNat_step_b follows same, changed, moved]
  -- Whichever register leads, it has the new word, and the others have what they had.
  cases leadingAt entry.2 <;> cases register <;> rfl

theorem foldl_operate_held (order : List (Fin 16)) (i : Nat) (s : Chaining) :
    ((order.zipIdx i).map (operationAt round)).foldl (pass.operate numbers) (held (leadingAt i) s) =
      held (leadingAt (i + order.length)) ((order.zipIdx i).foldl (round.step words) s) := by
  induction order generalizing i s with
  | nil => rfl
  | cons word later ih =>
      rw [List.zipIdx_cons, List.map_cons, List.foldl_cons, List.foldl_cons,
        operate_held follows same s (word, i), ih, List.length_cons, Nat.add_assoc, Nat.add_comm 1]

/-- After sixteen steps the words are where they were. -/
theorem run_registers (s : Chaining) :
    Pass.run numbers (registers s) pass = registers (Round.run words s round) := by
  have run := foldl_operate_held follows same round.order 0 s
  rw [← follows.operations, follows.steps] at run
  exact run

end

/-!
### The rounds
-/

theorem follows_firstRound : Follows firstRound Arithmetic.firstPass where
  mix x y z := by
    rw [firstRound, UInt32.toNat_or, UInt32.toNat_and, UInt32.toNat_and, UInt32.toNat_not]
    rfl
  constant := rfl
  places := by decide
  steps := rfl
  operations := rfl

theorem follows_secondRound : Follows secondRound Arithmetic.secondPass where
  mix x y z := by
    rw [secondRound, UInt32.toNat_or, UInt32.toNat_or, UInt32.toNat_and, UInt32.toNat_and,
      UInt32.toNat_and]
    rfl
  constant := rfl
  places := by decide
  steps := rfl
  operations := rfl

theorem follows_thirdRound : Follows thirdRound Arithmetic.thirdPass where
  mix x y z := by
    rw [thirdRound, UInt32.toNat_xor, UInt32.toNat_xor]
    rfl
  constant := rfl
  places := by decide
  steps := rfl
  operations := rfl

/-- A block is taken in as the arithmetic says. -/
theorem compress_registers (s : Chaining) {block : Block} {numbers : Nat → Nat}
    (same : ∀ i : Fin 16, numbers i.val = (block.words.get i).toNat) :
    Arithmetic.compress (registers s) numbers = registers (compression.compress s block) := by
  have passed : [Arithmetic.firstPass, Arithmetic.secondPass, Arithmetic.thirdPass].foldl
      (Pass.run numbers) (registers s) =
        registers ([firstRound, secondRound, thirdRound].foldl (Round.run block.words) s) := by
    simp only [List.foldl_cons, List.foldl_nil, run_registers follows_firstRound same,
      run_registers follows_secondRound same, run_registers follows_thirdRound same]
  have sum (x y : UInt32) : (y.toNat + x.toNat) % 0x100000000 = (x + y).toNat := by
    rw [UInt32.toNat_add, Nat.add_comm]
  unfold Arithmetic.compress
  rw [passed]
  funext register
  cases register with
  | a => exact sum _ _
  | b => exact sum _ _
  | c => exact sum _ _
  | d => exact sum _ _

end Md4

end LanAuth.Digest
