/-
Module: LanAuth.Digest.Block
Layer: Digest
Purpose: The blocks of 64 bytes that a message is cut into, and the 32-bit words of a block.
Imports: none
Trusted boundary: none
Main exports: Block, Block.words, blocks, blocks_append, blocks_rest_lt
Open obligations: none
-/

namespace LanAuth.Digest

/-- The unit in which a digest consumes its message: 64 bytes. -/
abbrev Block := Vector UInt8 64

namespace Block

def first (message : List UInt8) (enough : 64 ≤ message.length) : Block :=
  ⟨(message.take 64).toArray, by rw [List.size_toArray, List.length_take, Nat.min_eq_left enough]⟩

/-- The number that four bytes spell, the lowest byte first. -/
def word (b₀ b₁ b₂ b₃ : UInt8) : UInt32 :=
  b₀.toUInt32 ||| b₁.toUInt32 <<< 8 ||| b₂.toUInt32 <<< 16 ||| b₃.toUInt32 <<< 24

def words (block : Block) : Vector UInt32 16 :=
  Vector.ofFn fun i =>
    word block[4 * i.val] block[4 * i.val + 1] block[4 * i.val + 2] block[4 * i.val + 3]

end Block

/-- The whole blocks of a message, in order, and the bytes that remain after them. -/
def blocks (message : List UInt8) : List Block × List UInt8 :=
  if enough : 64 ≤ message.length then
    let later := blocks (message.drop 64)
    (Block.first message enough :: later.1, later.2)
  else
    ([], message)
termination_by message.length

/-!
### Cutting

What remains is shorter than a block, and a message may be cut piece by piece: what remains of one piece
goes in front of the next.
-/

theorem blocks_of_lt {message : List UInt8} (short : message.length < 64) :
    blocks message = ([], message) := by
  rw [blocks, dif_neg (by omega)]

theorem blocks_of_le {message : List UInt8} (enough : 64 ≤ message.length) :
    blocks message =
      (Block.first message enough :: (blocks (message.drop 64)).1, (blocks (message.drop 64)).2) := by
  rw [blocks, dif_pos enough]

theorem blocks_rest_lt (message : List UInt8) : (blocks message).2.length < 64 := by
  fun_induction blocks message with
  | case1 message enough later ih => exact ih
  | case2 message short => exact Nat.lt_of_not_le short

/-- Cutting a joined message is cutting the front, then what remains of it together with the back. -/
theorem blocks_append (front back : List UInt8) :
    blocks (front ++ back) =
      ((blocks front).1 ++ (blocks ((blocks front).2 ++ back)).1,
        (blocks ((blocks front).2 ++ back)).2) := by
  fun_induction blocks front with
  | case1 front enough later ih =>
      have enough' : 64 ≤ (front ++ back).length := by
        rw [List.length_append]
        omega
      have same : Block.first (front ++ back) enough' = Block.first front enough := by
        simp [Block.first, List.take_append_of_le_length enough]
      rw [blocks_of_le enough', same, List.drop_append_of_le_length enough, ih]
      rfl
  | case2 front short => rfl

end LanAuth.Digest
