/-
Module: LanAuth.Proofs.Digest.Md4Message
Layer: Proofs
Purpose: The MD4 digest is the one that the arithmetic gives, for messages of every length. The blocks that a
  message is cut into are those that are found by their place, each byte in one of them; the padding fills
  the last one with the fewest zeros. So a digest goes on from what whole blocks have left, and needs
  nothing but their number.
Imports: LanAuth.Proofs.Digest.Md4Block, LanAuth.Proofs.Digest.WholeMessage
Trusted boundary: none
Main exports: Block.toNat_word, Block.toNat_words_first, Md4.fold_registers, lengthBytes_eq_littleEndian,
  Md4.fills_paddingZeros, Md4.output_registers, Md4.digest_by_definition
Open obligations: none
-/
import LanAuth.Proofs.Digest.Md4Block
import LanAuth.Proofs.Digest.WholeMessage

namespace LanAuth.Digest

open Md4.Arithmetic (wordAt littleEndian)

namespace Block

/-!
### The words of a block
-/

/-- Bits that do not overlap are joined by adding. -/
theorem or_shiftLeft {lower places : Nat} (apart : lower < 1 <<< places) (upper : Nat) :
    lower ||| upper <<< places = lower + upper <<< places := by
  rw [Nat.one_shiftLeft] at apart
  rw [Nat.or_comm, ← Nat.shiftLeft_add_eq_or_of_lt apart, Nat.add_comm]

/-- The word that four bytes spell, as a number. -/
theorem toNat_word (b₀ b₁ b₂ b₃ : UInt8) :
    (word b₀ b₁ b₂ b₃).toNat =
      b₀.toNat + 0x100 * b₁.toNat + 0x10000 * b₂.toNat + 0x1000000 * b₃.toNat := by
  have bound₀ : b₀.toNat < 1 <<< 8 := b₀.toNat_lt
  have bound₁ := b₁.toNat_lt
  have bound₂ := b₂.toNat_lt
  have bound₃ := b₃.toNat_lt
  have second : (b₁.toUInt32 <<< 8).toNat = b₁.toNat <<< 8 := by
    simp [Nat.shiftLeft_eq]
    omega
  have third : (b₂.toUInt32 <<< 16).toNat = b₂.toNat <<< 16 := by
    simp [Nat.shiftLeft_eq]
    omega
  have fourth : (b₃.toUInt32 <<< 24).toNat = b₃.toNat <<< 24 := by
    simp [Nat.shiftLeft_eq]
    omega
  have apart₂ : b₀.toNat + b₁.toNat <<< 8 < 1 <<< 16 := by omega
  have apart₃ : b₀.toNat + b₁.toNat <<< 8 + b₂.toNat <<< 16 < 1 <<< 24 := by omega
  rw [word, UInt32.toNat_or, UInt32.toNat_or, UInt32.toNat_or, second, third, fourth,
    UInt8.toNat_toUInt32, or_shiftLeft bound₀, or_shiftLeft apart₂, or_shiftLeft apart₃]
  omega

theorem getElem_first {message : List UInt8} (enough : 64 ≤ message.length) {i : Nat} (inside : i < 64) :
    (first message enough)[i] = message.getD i 0 := by
  have there : i < message.length := Nat.lt_of_lt_of_le inside enough
  simp [first, there]

/-- The words of the first block stand at the front of the message. -/
theorem toNat_words_first {message : List UInt8} (enough : 64 ≤ message.length) (i : Fin 16) :
    wordAt message i.val = ((first message enough).words.get i).toNat := by
  have word : (first message enough).words.get i = (first message enough).words[i.val] := rfl
  rw [word]
  simp only [words, Vector.getElem_ofFn, toNat_word, getElem_first]
  rfl

end Block

namespace Md4

/-!
### The blocks of a message
-/

/-- The word at a place behind the first block. -/
theorem wordAt_drop (bytes : List UInt8) (i : Nat) : wordAt (bytes.drop 64) i = wordAt bytes (16 + i) := by
  have there (j : Nat) : (bytes.drop 64).getD (4 * i + j) 0 = bytes.getD (4 * (16 + i) + j) 0 := by
    have place : 64 + (4 * i + j) = 4 * (16 + i) + j := by omega
    rw [List.getD_eq_getElem?_getD, List.getElem?_drop, place, List.getD_eq_getElem?_getD]
  unfold wordAt
  rw [there 1, there 2, there 3]
  have front := there 0
  rw [Nat.add_zero, Nat.add_zero] at front
  rw [front]

theorem fold_of_lt {bytes : List UInt8} (short : bytes.length < 64) (held : Arithmetic.Registers) :
    Arithmetic.fold bytes held = held := by
  rw [Arithmetic.fold, Nat.div_eq_of_lt short]
  rfl

theorem fold_of_le {bytes : List UInt8} (enough : 64 ≤ bytes.length) (held : Arithmetic.Registers) :
    Arithmetic.fold bytes held =
      Arithmetic.fold (bytes.drop 64) (Arithmetic.compress held (wordAt bytes)) := by
  have blocks : bytes.length / 64 = (bytes.length - 64) / 64 + 1 := by omega
  have first : (fun word => wordAt bytes (16 * 0 + word)) = wordAt bytes := by
    funext word
    rw [Nat.mul_zero, Nat.zero_add]
  have later (block word : Nat) :
      wordAt bytes (16 * (block + 1) + word) = wordAt (bytes.drop 64) (16 * block + word) := by
    rw [wordAt_drop, Nat.mul_succ, Nat.add_comm _ 16, Nat.add_assoc]
  unfold Arithmetic.fold
  rw [List.length_drop, blocks, List.range_succ_eq_map, List.foldl_cons, List.foldl_map, first]
  simp only [Nat.succ_eq_add_one, later]

/-- Block by block, the arithmetic does what the compression does. -/
theorem fold_registers (bytes : List UInt8) (s : Chaining) :
    Arithmetic.fold bytes (registers s) =
      registers ((blocks bytes).1.foldl compression.compress s) := by
  fun_induction blocks bytes generalizing s with
  | case1 bytes enough later ih =>
      rw [fold_of_le enough, compress_registers s (Block.toNat_words_first enough), ih]
      rfl
  | case2 bytes short => exact fold_of_lt (Nat.lt_of_not_le short) (registers s)

/-- What remains behind the last whole block is what the length exceeds a multiple of 64 by. -/
theorem length_blocks_rest (bytes : List UInt8) : (blocks bytes).2.length = bytes.length % 64 := by
  fun_induction blocks bytes with
  | case1 bytes enough later ih =>
      rw [ih, List.length_drop]
      omega
  | case2 bytes short => exact (Nat.mod_eq_of_lt (Nat.lt_of_not_le short)).symm

theorem blocks_rest_of_whole {bytes : List UInt8} (whole : bytes.length % 64 = 0) :
    (blocks bytes).2 = [] := by
  apply List.eq_nil_of_length_eq_zero
  rw [length_blocks_rest, whole]

/-!
### Padding and output
-/

theorem fills_paddingZeros (length : Nat) : Arithmetic.Fills length (paddingZeros length) := by
  unfold paddingZeros
  constructor
  · omega
  · intro fewer less
    omega

/-- A byte of a word, the lowest counted as the first. -/
theorem toUInt8_shiftRight (word : UInt32) {i : Nat} (inside : i < 4) :
    (word >>> UInt32.ofNat (8 * i)).toUInt8 = UInt8.ofNat (word.toNat >>> (8 * i) % 256) := by
  have places : (UInt32.ofNat (8 * i)).toNat % 32 = 8 * i := by
    rw [UInt32.toNat_ofNat_of_lt' (by simp only [UInt32.size]; omega)]
    omega
  apply UInt8.toNat_inj.mp
  rw [UInt32.toNat_toUInt8, UInt32.toNat_shiftRight, places, UInt8.toNat_ofNat', Nat.mod_mod]

theorem toUInt8_ofNat_shiftRight (number : Nat) {i : Nat} (inside : i < 8) :
    (UInt64.ofNat number >>> UInt64.ofNat (8 * i)).toUInt8 =
      UInt8.ofNat ((number % 0x10000000000000000) >>> (8 * i) % 256) := by
  have places : (UInt64.ofNat (8 * i)).toNat % 64 = 8 * i := by
    rw [UInt64.toNat_ofNat_of_lt' (by simp only [UInt64.size]; omega)]
    omega
  apply UInt8.toNat_inj.mp
  rw [UInt64.toNat_toUInt8, UInt64.toNat_shiftRight, places, UInt64.toNat_ofNat',
    UInt8.toNat_ofNat', Nat.mod_mod]

theorem lengthBytes_eq_littleEndian (length : Nat) :
    lengthBytes length = littleEndian 8 (8 * length % 0x10000000000000000) := by
  unfold lengthBytes littleEndian
  apply List.ext_getElem
  · rw [List.length_ofFn, List.length_map, List.length_range]
  · intro i inside inside'
    rw [List.length_ofFn] at inside
    rw [List.getElem_ofFn, List.getElem_map, List.getElem_range, toUInt8_ofNat_shiftRight _ inside]

theorem padding_eq_tail (length : Nat) : padding length = Arithmetic.tail length (paddingZeros length) := by
  rw [padding, lengthBytes_eq_littleEndian, Arithmetic.tail]

theorem output_registers (s : Chaining) : Arithmetic.output (registers s) = s.toBytes.toList := by
  have wordBytes (word : UInt32) : littleEndian 4 word.toNat =
      [(word >>> UInt32.ofNat (8 * 0)).toUInt8, (word >>> UInt32.ofNat (8 * 1)).toUInt8,
        (word >>> UInt32.ofNat (8 * 2)).toUInt8, (word >>> UInt32.ofNat (8 * 3)).toUInt8] := by
    rw [toUInt8_shiftRight word (by decide), toUInt8_shiftRight word (by decide),
      toUInt8_shiftRight word (by decide), toUInt8_shiftRight word (by decide)]
    rfl
  unfold Arithmetic.output registers
  rw [wordBytes, wordBytes, wordBytes, wordBytes, Chaining.toBytes, Vector.toList_ofFn]
  rfl

/-!
### The digest

A digest goes on from any point at which no block is unfinished in the same way; the front of the message is
such a point.
-/

theorem initial_eq_registers : Arithmetic.initial = registers compression.initial := by
  funext register
  cases register <;> rfl

/-- What follows on whole blocks, and how many bytes there were in all, decide the digest from there. -/
theorem finish_absorb_of_whole {stream : Stream} (whole : stream.pending = []) (part : List UInt8) :
    (compression.finish (compression.absorb stream part)).toList =
      Arithmetic.output (Arithmetic.fold
        (part ++ Arithmetic.tail (stream.total + part.length) (paddingZeros (stream.total + part.length)))
        (registers stream.chaining)) := by
  rw [Compression.finish_absorb, whole, List.nil_append, ← padding_eq_tail, fold_registers,
    output_registers]

theorem length_append_tail (message : List UInt8) :
    (message ++ Arithmetic.tail message.length (paddingZeros message.length)).length % 64 = 0 := by
  rw [← padding_eq_tail, List.length_append]
  exact mod_length_padded message.length

/-- Every digest is the one that the arithmetic gives: behind the message a set bit, the fewest zeros that
    leave eight bytes of a block, and the number of bits; then the operations for one block after another,
    and the registers as bytes. After whole blocks nothing is kept but what the registers hold and the
    number of bytes, and these with the rest of the message give the digest of all of it. -/
theorem digest_by_definition :
    (∀ message : List UInt8, ∃ zeros,
      Arithmetic.Fills message.length zeros ∧
      (message ++ Arithmetic.tail message.length zeros).length % 64 = 0 ∧
      (digest message).toList =
        Arithmetic.output
          (Arithmetic.fold (message ++ Arithmetic.tail message.length zeros) Arithmetic.initial)) ∧
    ∀ front : List UInt8, front.length % 64 = 0 → ∃ stream : Stream,
      compression.absorb compression.start front = stream ∧
      stream.pending = [] ∧
      stream.total = front.length ∧
      registers stream.chaining = Arithmetic.fold front Arithmetic.initial ∧
      ∀ back : List UInt8,
        digest (front ++ back) = compression.finish (compression.absorb stream back) ∧
        ∃ zeros, Arithmetic.Fills (front.length + back.length) zeros ∧
          (digest (front ++ back)).toList =
            Arithmetic.output (Arithmetic.fold
              (back ++ Arithmetic.tail (front.length + back.length) zeros)
              (Arithmetic.fold front Arithmetic.initial)) := by
  constructor
  · intro message
    refine ⟨paddingZeros message.length, fills_paddingZeros message.length,
      length_append_tail message, ?_⟩
    have finished : (digest message).toList = Arithmetic.output (Arithmetic.fold
        (message ++ Arithmetic.tail (0 + message.length) (paddingZeros (0 + message.length)))
        (registers compression.initial)) := finish_absorb_of_whole rfl message
    rw [Nat.zero_add] at finished
    rw [initial_eq_registers]
    exact finished
  · intro front whole
    have pending : (compression.absorb compression.start front).pending = [] :=
      blocks_rest_of_whole whole
    have total : (compression.absorb compression.start front).total = front.length :=
      Nat.zero_add front.length
    have reached : registers (compression.absorb compression.start front).chaining =
        Arithmetic.fold front Arithmetic.initial := by
      rw [initial_eq_registers, fold_registers]
      rfl
    refine ⟨_, rfl, pending, total, reached, ?_⟩
    intro back
    have resumed : digest (front ++ back) =
        compression.finish (compression.absorb (compression.absorb compression.start front) back) :=
      congrArg compression.finish (compression.absorb_append compression.start front back)
    refine ⟨resumed, paddingZeros (front.length + back.length), fills_paddingZeros _, ?_⟩
    rw [resumed, finish_absorb_of_whole pending, total, reached]

/-- One whole block in front, and behind it a part that with the padding takes two more. -/
theorem digest_by_definition_behind_a_block :
    (List.replicate 64 (0x61 : UInt8)).length % 64 = 0 ∧
    ∃ zeros, Arithmetic.Fills (64 + 60) zeros ∧
      (digest (List.replicate 64 0x61 ++ List.replicate 60 0x62)).toList =
        Arithmetic.output (Arithmetic.fold
          (List.replicate 60 0x62 ++ Arithmetic.tail (64 + 60) zeros)
          (Arithmetic.fold (List.replicate 64 0x61) Arithmetic.initial)) := by
  have whole : (List.replicate 64 (0x61 : UInt8)).length % 64 = 0 := by
    rw [List.length_replicate]
  obtain ⟨-, resumed⟩ := digest_by_definition
  obtain ⟨stream, -, -, -, -, goesOn⟩ := resumed (List.replicate 64 0x61) whole
  obtain ⟨-, zeros, fills, same⟩ := goesOn (List.replicate 60 0x62)
  rw [List.length_replicate, List.length_replicate] at fills same
  exact ⟨whole, zeros, fills, same⟩

end Md4

end LanAuth.Digest
