/-
Module: LanAuth.Proofs.KeyRange
Layer: Proofs
Purpose: Where a key can be derived. Positions are machine words, so seven bytes behind a position may lie
  behind the last word that there is. Whether a machine stops at such a sum or drops its carry, no key comes
  of it: a derivation gives a key exactly where the material has the seven bytes, and says so in the log;
  everywhere else it ends before anything is logged.
Imports: LanAuth.Proofs.Fit, LanAuth.Proofs.LogSecrecy
Trusted boundary: none
Main exports: Overflow, slice?, deriveKeyBy, chunkAt?_eq_some, deriveKeyBy_eq, deriveKey_cases,
  keys_stay_within_the_material
Open obligations: none
-/
import LanAuth.Proofs.Fit
import LanAuth.Proofs.LogSecrecy

namespace LanAuth

/-- What a machine makes of a sum that does not fit into a word. -/
inductive Overflow where
  /-- It stops. -/
  | trap
  /-- It drops the carry and goes on. -/
  | wrap
deriving DecidableEq, Repr

/-- The position seven behind another, as the machine adds. -/
def Overflow.past? (overflow : Overflow) (offset : UInt64) : Option UInt64 :=
  match overflow with
  | .trap => if offset.toNat + 7 < UInt64.size then some (offset + 7) else none
  | .wrap => some (offset + 7)

/-- The bytes from one position up to, not including, another. The positions must be in order, and the
    second one must not lie behind the material. -/
def slice? (material : List UInt8) (first past : UInt64) : Option (List UInt8) :=
  if first ≤ past ∧ past.toNat ≤ material.length then
    some (material.extract first.toNat past.toNat)
  else
    none

/-- Key derivation in the steps of a machine: the end of the range, the bytes of the range, the record, and
    then the key. -/
def deriveKeyBy (overflow : Overflow) (material : List UInt8) (offset : UInt64) :
    Traced (Vector UInt8 8) := do
  match overflow.past? offset with
  | none => Traced.outOfRange
  | some past =>
      match slice? material offset past with
      | none => Traced.outOfRange
      | some bytes =>
          Traced.record (.derivingKey offset past)
          return Des.spread (fit 7 bytes)

variable {material : List UInt8} {offset : UInt64}

/-!
### The range

A sum that wraps around comes out below both of its parts, so the check of the order of the two positions
catches it.
-/

/-- Seven bytes that are found stand in the material, at their true positions. -/
theorem chunkAt?_eq_some {chunk : Vector UInt8 7} (found : chunkAt? material offset = some chunk) :
    (offset + 7).toNat = offset.toNat + 7 ∧ offset.toNat + 7 ≤ material.length ∧
      chunk.toList = material.extract offset.toNat (offset.toNat + 7) := by
  by_cases inside : offset ≤ offset + 7 ∧ (offset + 7).toNat ≤ material.length
  · have past := toNat_add_seven inside.1
    have within : offset.toNat + 7 ≤ material.length := by omega
    have same : chunk = fit 7 (material.drop offset.toNat) := by
      refine Vector.ext fun i hi => ?_
      rw [getElem_chunkAt? found i hi, getElem_fit]
      simp
    refine ⟨past, within, ?_⟩
    rw [same, toList_fit_drop within]
  · unfold chunkAt? at found
    rw [dif_neg inside] at found
    cases found

theorem chunkAt?_of_overflow (large : UInt64.size ≤ offset.toNat + 7) :
    chunkAt? material offset = none := by
  cases found : chunkAt? material offset with
  | none => rfl
  | some chunk =>
      have past := (chunkAt?_eq_some found).1
      have bound := (offset + 7).toNat_lt_size
      omega

theorem slice?_add_seven :
    slice? material offset (offset + 7) = (chunkAt? material offset).map Vector.toList := by
  cases found : chunkAt? material offset with
  | none =>
      have outside : ¬ (offset ≤ offset + 7 ∧ (offset + 7).toNat ≤ material.length) := by
        intro inside
        unfold chunkAt? at found
        rw [dif_pos inside] at found
        cases found
      unfold slice?
      rw [if_neg outside]
      rfl
  | some chunk =>
      obtain ⟨past, within, bytes⟩ := chunkAt?_eq_some found
      have inside : offset ≤ offset + 7 ∧ (offset + 7).toNat ≤ material.length := by
        rw [UInt64.le_iff_toNat_le]
        omega
      unfold slice?
      rw [if_pos inside, past, Option.map_some, bytes]

/-!
### The derivation

Two ways for it to end, and no difference between the machines: where one of them stops at the sum, the
other finds no bytes.
-/

theorem deriveKeyBy_eq (overflow : Overflow) (material : List UInt8) (offset : UInt64) :
    deriveKeyBy overflow material offset = deriveKey material offset := by
  have carried : overflow.past? offset = some (offset + 7) →
      deriveKeyBy overflow material offset = deriveKey material offset := by
    intro sum
    unfold deriveKeyBy
    rw [sum]
    cases found : chunkAt? material offset with
    | none =>
        rw [deriveKey_of_none found]
        simp only [slice?_add_seven, found]
        rfl
    | some chunk =>
        rw [deriveKey_of_some found]
        simp only [slice?_add_seven, found, Option.map_some, fit_toList]
        rfl
  cases overflow with
  | wrap => exact carried rfl
  | trap =>
      by_cases small : offset.toNat + 7 < UInt64.size
      · exact carried (if_pos small)
      · have stopped : Overflow.trap.past? offset = none := if_neg small
        rw [deriveKey_of_none (chunkAt?_of_overflow (Nat.le_of_not_lt small))]
        unfold deriveKeyBy
        rw [stopped]
        rfl

/-- A derivation ends outside the material, before it logs anything, or with the key of the seven bytes that
    the material has there, and one event that names their range. -/
theorem deriveKey_cases (material : List UInt8) (offset : UInt64) :
    deriveKey material offset = ⟨[], .error .outOfRange⟩ ∨
    ((offset + 7).toNat = offset.toNat + 7 ∧ offset.toNat + 7 ≤ material.length ∧
      ∃ chunk : Vector UInt8 7,
        chunk.toList = material.extract offset.toNat (offset.toNat + 7) ∧
        deriveKey material offset =
          ⟨[.derivingKey offset (offset + 7)], .ok (Des.spread chunk)⟩) := by
  cases found : chunkAt? material offset with
  | none => exact .inl (deriveKey_of_none found)
  | some chunk =>
      obtain ⟨past, within, bytes⟩ := chunkAt?_eq_some found
      exact .inr ⟨past, within, chunk, bytes, deriveKey_of_some found⟩

/-- A key is derived exactly where the material has seven bytes, by whichever arithmetic the end of their
    range is found. Where the sum does not fit into a word there are none, whatever the material is. A
    derivation that fails does so for its range and has logged nothing; one that does not fail has made the
    key of the bytes in that range and has logged one line, with the two ends of the range as they are. -/
theorem keys_stay_within_the_material :
    (∀ (overflow : Overflow) (material : List UInt8) (offset : UInt64),
      deriveKeyBy overflow material offset = deriveKey material offset) ∧
    (∀ (material : List UInt8) (offset : UInt64), material.length < UInt64.size →
      ((deriveKey material offset).outcome = .error .outOfRange ↔
        material.length < offset.toNat + 7) ∧
      ((∃ key, (deriveKey material offset).outcome = .ok key) ↔
        offset.toNat + 7 ≤ material.length)) ∧
    (∀ (material : List UInt8) (offset : UInt64), UInt64.size ≤ offset.toNat + 7 →
      (deriveKey material offset).outcome = .error .outOfRange) ∧
    (∀ (material : List UInt8) (offset : UInt64) (failure : Failure),
      (deriveKey material offset).outcome = .error failure →
      failure = .outOfRange ∧ (deriveKey material offset).log.map Event.line = []) ∧
    (∀ (material : List UInt8) (offset : UInt64) (key : Vector UInt8 8),
      (deriveKey material offset).outcome = .ok key →
      offset.toNat + 7 ≤ material.length ∧
      (∃ chunk : Vector UInt8 7,
        chunk.toList = material.extract offset.toNat (offset.toNat + 7) ∧ key = Des.spread chunk) ∧
      (deriveKey material offset).log.map Event.line =
        ["TRACE deriving DES key from bytes " ++ offset.toNat.repr ++ ".." ++
          (offset.toNat + 7).repr]) := by
  refine ⟨deriveKeyBy_eq, ?_, ?_, ?_, ?_⟩
  · intro material offset small
    rcases Nat.lt_or_ge material.length (offset.toNat + 7) with short | within
    · rw [deriveKey_of_short small short]
      simp [short]
    · rw [deriveKey_of_within small within]
      simp [within]
  · intro material offset large
    exact congrArg Traced.outcome (deriveKey_of_none (chunkAt?_of_overflow large))
  · intro material offset failure failed
    rcases deriveKey_cases material offset with ended | ⟨-, -, chunk, -, ended⟩
    · rw [ended] at failed ⊢
      cases failed
      exact ⟨rfl, rfl⟩
    · rw [ended] at failed
      cases failed
  · intro material offset key derived
    rcases deriveKey_cases material offset with ended | ⟨past, within, chunk, bytes, ended⟩
    · rw [ended] at derived
      cases derived
    · rw [ended] at derived ⊢
      cases derived
      refine ⟨within, ⟨chunk, bytes, rfl⟩, ?_⟩
      rw [List.map_cons, line_derivingKey, past, List.map_nil]

/-- Sixteen bytes: the last position that has seven of them, the first that has not, and one from which the
    end of the range comes round to the front of the material. -/
theorem keys_stay_within_the_material_sixteen_bytes :
    (List.replicate 16 (0xa5 : UInt8)).length < UInt64.size ∧
    UInt64.size ≤ (0xfffffffffffffffe : UInt64).toNat + 7 ∧
    (∃ key, (deriveKey (List.replicate 16 0xa5) 9).outcome = .ok key ∧
      (deriveKey (List.replicate 16 0xa5) 9).log.map Event.line =
        ["TRACE deriving DES key from bytes 9..16"]) ∧
    ((deriveKey (List.replicate 16 0xa5) 10).outcome = .error .outOfRange ∧
      (deriveKey (List.replicate 16 0xa5) 10).log.map Event.line = []) ∧
    (deriveKeyBy .wrap (List.replicate 16 0xa5) 0xfffffffffffffffe).outcome = .error .outOfRange := by
  obtain ⟨machines, ends, overflows, failing, made⟩ := keys_stay_within_the_material
  have small : (List.replicate 16 (0xa5 : UInt8)).length < UInt64.size := by decide
  have large : UInt64.size ≤ (0xfffffffffffffffe : UInt64).toNat + 7 := by decide
  obtain ⟨key, derived⟩ := (ends (List.replicate 16 0xa5) 9 small).2.mpr (by decide)
  have failed := (ends (List.replicate 16 0xa5) 10 small).1.mpr (by decide)
  refine ⟨small, large, ⟨key, derived, ?_⟩, ⟨failed, (failing _ _ _ failed).2⟩, ?_⟩
  · exact (made _ _ key derived).2.2
  · rw [machines]
    exact overflows _ _ large

end LanAuth
