/-
Module: LanAuth.Proofs.Chaining
Layer: Proofs
Purpose: What encryption under chunk after chunk of key material yields and logs, in closed form. Material
  that holds all its chunks is never refused, and each block of the result depends on one chunk alone. The
  LAN Manager and the NTLM computations are instances, so what is proved here of a block holds of theirs.
Imports: LanAuth.LanMan, LanAuth.Ntlm
Trusted boundary: none
Main exports: chunk, chunkKey, blockAt, chain, chainLog, deriveKey_of_within, deriveKey_of_short,
  deriveKey_chunk, deriveKey_outcome, encryptUnderEach_eq, blockAt_chain, answer_eq, answer_outcome,
  LanMan.oneWay_eq, LanMan.oneWay_outcome, LanMan.response_eq, Ntlm.response_eq
Open obligations: none
-/
import LanAuth.LanMan
import LanAuth.Ntlm

namespace LanAuth

/-- The seven bytes of the material at a place, counted in chunks. -/
def chunk (material : List UInt8) (place : Nat) : Vector UInt8 7 :=
  fit 7 (material.drop (7 * place))

/-- The key that the chunk at a place makes. -/
def chunkKey (material : List UInt8) (place : Nat) : Vector UInt8 8 :=
  Des.spread (chunk material place)

theorem byte_of_block_lt {n : Nat} (place : Fin n) (i : Fin 8) : 8 * place.val + i.val < 8 * n := by
  omega

/-- The eight bytes at a place, counted in blocks. -/
def blockAt {n : Nat} (place : Fin n) (bytes : Vector UInt8 (8 * n)) : Vector UInt8 8 :=
  Vector.ofFn fun i =>
    have within := byte_of_block_lt place i
    bytes[8 * place.val + i.val]

/-- A block encrypted under each of the first `n` chunks of the material, the results side by side. -/
def chain (material : List UInt8) (block : Vector UInt8 8) (n : Nat) : Vector UInt8 (8 * n) :=
  Vector.ofFn fun i => (Des.encrypt (chunkKey material (i.val / 8)) block)[i.val % 8]

/-- What encryption under the first `n` chunks logs: for each chunk that it is used, and that a block
    was encrypted. -/
def chainLog : Nat → List Event
  | 0 => []
  | n + 1 => chainLog n ++
      [.derivingKey (UInt64.ofNat (7 * n)) (UInt64.ofNat (7 * n) + 7), .encryptedBlock]

/-!
### One chunk

The range check of the code passes for every chunk that lies in the material, and what it finds there is
the chunk.
-/

theorem getElem_chunkAt? {material : List UInt8} {offset : UInt64} {found : Vector UInt8 7}
    (h : chunkAt? material offset = some found) (i : Nat) (hi : i < 7) :
    found[i] = material.getD (offset.toNat + i) 0 := by
  unfold chunkAt? at h
  split at h
  · next inside =>
      have past := toNat_add_seven inside.1
      have within : offset.toNat + i < material.length := by omega
      cases h
      simp [within]
  · cases h

/-- The seven bytes from a position on are found if the material has them. -/
theorem chunkAt?_of_within {material : List UInt8} {offset : UInt64}
    (small : material.length < UInt64.size) (within : offset.toNat + 7 ≤ material.length) :
    chunkAt? material offset = some (fit 7 (material.drop offset.toNat)) := by
  cases h : chunkAt? material offset with
  | none =>
      have short := (chunkAt?_eq_none_iff small).mp h
      omega
  | some found =>
      have same : found = fit 7 (material.drop offset.toNat) := by
        refine Vector.ext fun i hi => ?_
        rw [getElem_chunkAt? h i hi, getElem_fit]
        simp
      rw [same]

theorem deriveKey_of_within {material : List UInt8} {offset : UInt64}
    (small : material.length < UInt64.size) (within : offset.toNat + 7 ≤ material.length) :
    deriveKey material offset =
      ⟨[.derivingKey offset (offset + 7)], .ok (Des.spread (fit 7 (material.drop offset.toNat)))⟩ :=
  deriveKey_of_some (chunkAt?_of_within small within)

theorem deriveKey_of_short {material : List UInt8} {offset : UInt64}
    (small : material.length < UInt64.size) (short : material.length < offset.toNat + 7) :
    deriveKey material offset = ⟨[], .error .outOfRange⟩ :=
  deriveKey_of_none ((chunkAt?_eq_none_iff small).mpr short)

theorem chunkAt?_chunk {material : List UInt8} {place : Nat}
    (small : material.length < UInt64.size) (within : 7 * place + 7 ≤ material.length) :
    chunkAt? material (UInt64.ofNat (7 * place)) = some (chunk material place) := by
  have position : (UInt64.ofNat (7 * place)).toNat = 7 * place :=
    UInt64.toNat_ofNat_of_lt' (by omega)
  rw [chunkAt?_of_within small (by rw [position]; exact within), position, chunk]

/-- The key of a chunk that lies in the material is derived, not refused. -/
theorem deriveKey_chunk {material : List UInt8} {place : Nat}
    (small : material.length < UInt64.size) (within : 7 * place + 7 ≤ material.length) :
    deriveKey material (UInt64.ofNat (7 * place)) =
      ⟨[.derivingKey (UInt64.ofNat (7 * place)) (UInt64.ofNat (7 * place) + 7)],
        .ok (chunkKey material place)⟩ := by
  have position : (UInt64.ofNat (7 * place)).toNat = 7 * place :=
    UInt64.toNat_ofNat_of_lt' (by omega)
  rw [deriveKey_of_within small (by rw [position]; exact within), position, chunkKey, chunk]

/-- In material of a fixed length, every place that has all its bytes gives a key. -/
theorem deriveKey_outcome {m n : Nat} (material : Vector UInt8 m) (small : m < UInt64.size)
    (enough : 7 * n ≤ m) (place : Fin n) :
    (deriveKey material.toList (UInt64.ofNat (7 * place.val))).outcome =
      .ok (chunkKey material.toList place) := by
  have length : material.toList.length = m := Vector.length_toList
  have within : 7 * place.val + 7 ≤ material.toList.length := by omega
  have derived := deriveKey_chunk (by rw [length]; exact small) within
  exact congrArg Traced.outcome derived

/-!
### The chain

By induction on the number of chunks: the last chunk adds its two events to the log and its block to the
result.
-/

theorem chain_succ (material : List UInt8) (block : Vector UInt8 8) (n : Nat) :
    chain material block (n + 1) =
      chain material block n ++ Des.encrypt (chunkKey material n) block := by
  refine Vector.ext fun i hi => ?_
  by_cases low : i < 8 * n
  · have front : (chain material block n ++ Des.encrypt (chunkKey material n) block)[i] =
        (chain material block n)[i] := Vector.getElem_append_left low
    rw [front]
    simp [chain]
  · have back : (chain material block n ++ Des.encrypt (chunkKey material n) block)[i] =
        (Des.encrypt (chunkKey material n) block)[i - 8 * n] :=
      Vector.getElem_append_right (by omega) (by omega)
    have quotient : i / 8 = n := by omega
    have remainder : i % 8 = i - 8 * n := by omega
    rw [back]
    simp [chain, quotient, remainder]

theorem encryptUnderEach_eq {material : List UInt8} (block : Vector UInt8 8)
    (small : material.length < UInt64.size) :
    ∀ {n : Nat}, 7 * n ≤ material.length →
      encryptUnderEach material block n = ⟨chainLog n, .ok (chain material block n)⟩ := by
  intro n
  induction n with
  | zero =>
      intro _
      have nothing : chain material block 0 = #v[] := Vector.ext fun i hi => absurd hi (by omega)
      rw [nothing]
      rfl
  | succ n ih =>
      intro within
      have before := ih (by omega)
      have found : chunkAt? material (UInt64.ofNat (7 * n)) = some (chunk material n) :=
        chunkAt?_chunk small (by omega)
      have last := encryptUnder_of_chunk found block
      unfold encryptUnderEach
      rw [before, Traced.mk_ok_bind, last, Traced.mk_ok_bind, chain_succ]
      simp only [Traced.log_pure, Traced.outcome_pure, List.append_nil, chainLog]
      rfl

/-- A block of the result depends on the chunk at its own place alone. -/
theorem blockAt_chain {n : Nat} (material : List UInt8) (block : Vector UInt8 8) (place : Fin n) :
    blockAt place (chain material block n) = Des.encrypt (chunkKey material place) block := by
  refine Vector.ext fun i hi => ?_
  have quotient : (8 * place.val + i) / 8 = place.val := by omega
  have remainder : i % 8 = i := Nat.mod_eq_of_lt hi
  simp [blockAt, chain, quotient, remainder]

/-!
### The computations that chain

What the answer to a challenge, the one-way function and the responses log and yield. None of them is ever
refused.
-/

theorem answer_eq (material : Vector UInt8 21) (challenge : Challenge) :
    answer material challenge = ⟨chainLog 3, .ok (chain material.toList challenge 3)⟩ := by
  have length : material.toList.length = 21 := Vector.length_toList
  exact encryptUnderEach_eq challenge (by rw [length]; decide) (by omega)

theorem answer_outcome (material : Vector UInt8 21) (challenge : Challenge) :
    (answer material challenge).outcome = .ok (chain material.toList challenge 3) :=
  congrArg Traced.outcome (answer_eq material challenge)

namespace LanMan

theorem oneWay_eq {password : String} {material : Vector UInt8 14}
    (made : keyMaterial password = .ok material) (block : Vector UInt8 8) :
    oneWay password block = ⟨chainLog 2, .ok (chain material.toList block 2)⟩ := by
  have length : material.toList.length = 14 := Vector.length_toList
  rw [oneWay_eq_encryptUnderEach, made]
  exact encryptUnderEach_eq block (by rw [length]; decide) (by omega)

theorem oneWay_outcome (password : String) (seed : Vector UInt8 8) :
    (oneWay password seed).outcome =
      .ok (chain (fit 14 (Text.Latin1.encode (Text.uppercase password))).toList seed 2) :=
  congrArg Traced.outcome (oneWay_eq (keyMaterial_eq password) seed)

theorem response_eq {password : String} {material : Vector UInt8 14}
    (made : keyMaterial password = .ok material) (challenge : Challenge) :
    response password challenge =
      ⟨chainLog 2 ++ chainLog 3,
        .ok (chain (extendHash (chain material.toList magic 2)).toList challenge 3)⟩ := by
  unfold response hash
  rw [oneWay_eq made, Traced.mk_ok_bind, answer_eq]

end LanMan

namespace Ntlm

theorem response_eq (password : String) (challenge : Challenge) :
    response password challenge =
      ⟨chainLog 3, .ok (chain (extendHash (hash password)).toList challenge 3)⟩ :=
  answer_eq (extendHash (hash password)) challenge

end Ntlm

end LanAuth
