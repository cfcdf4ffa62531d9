/-
Module: LanAuth.Proofs.Text.Idempotence
Layer: Proofs
Purpose: Text in uppercase is its own uppercase. What the tables map and what they map it to are two sets of
  code points, and these are disjoint, also where one code point becomes several; so every character that
  uppercase produces is left alone by it.
Imports: LanAuth.Proofs.Text.Uppercase
Trusted boundary: none
Main exports: sources, targets, not_mem_sources_of_mem_targets, ofCode_of_mem_ofCode,
  ofChar_of_mem_ofChar, uppercase_uppercase
Open obligations: none
-/
import LanAuth.Proofs.Text.Uppercase

namespace LanAuth.Text

namespace Uppercase

/-!
### Sets of code points

A set of code points is held as the bits of one number, so that whether two sets meet is one operation on
numbers and not a search for each pair of their elements.
-/

/-- The number with a bit set at each of the code points. -/
def bitSet (codes : List Nat) : Nat :=
  codes.foldr (fun code bits => bits ||| 1 <<< code) 0

theorem testBit_bitSet (codes : List Nat) (code : Nat) :
    (bitSet codes).testBit code = decide (code ∈ codes) := by
  induction codes with
  | nil => simp [bitSet]
  | cons first later ih =>
      have added : bitSet (first :: later) = bitSet later ||| 1 <<< first := rfl
      rw [added, Nat.testBit_or, ih, Nat.one_shiftLeft, Nat.testBit_two_pow]
      simp only [List.mem_cons, Bool.decide_or, Bool.or_comm, eq_comm]

theorem not_mem_of_bitSet_and {codes codes' : List Nat} (apart : bitSet codes &&& bitSet codes' = 0)
    {code : Nat} (listed : code ∈ codes) : code ∉ codes' := by
  intro listed'
  have common : (bitSet codes &&& bitSet codes').testBit code = true := by
    rw [Nat.testBit_and, testBit_bitSet, testBit_bitSet, decide_eq_true listed,
      decide_eq_true listed', Bool.and_self]
  rw [apart, Nat.zero_testBit] at common
  cases common

/-!
### What the tables map, and to what
-/

/-- The code points that lie from a start on as those of the run do from its first. -/
def Run.codesFrom (run : Run) (start : Nat) : List Nat :=
  (List.range run.count).map fun i => start + i * run.stride

/-- The code points that the tables list. -/
def sources : List Nat :=
  (runs.flatMap fun run => run.codesFrom run.first) ++ expansions.map Prod.fst

/-- The code points that the tables lead to. -/
def targets : List Nat :=
  (runs.flatMap fun run => run.codesFrom run.target) ++ expansions.flatMap Prod.snd

theorem Run.mem_codesFrom {run : Run} {distance : Nat} (start : Nat)
    (inside : distance < run.count * run.stride) (step : distance % run.stride = 0) :
    start + distance ∈ run.codesFrom start := by
  obtain ⟨i, rfl⟩ : run.stride ∣ distance := Nat.dvd_of_mod_eq_zero step
  rw [Nat.mul_comm run.stride] at inside ⊢
  have listed : i < run.count := Nat.lt_of_mul_lt_mul_right inside
  exact List.mem_map.mpr ⟨i, List.mem_range.mpr listed, rfl⟩

theorem mem_of_image? {run : Run} {code image : Nat} (held : run.image? code = some image) :
    code ∈ run.codesFrom run.first ∧ image ∈ run.codesFrom run.target := by
  obtain ⟨above, inside, step, rfl⟩ := Run.image?_eq_some held
  have source := Run.mem_codesFrom run.first inside step
  rw [Nat.add_sub_of_le above] at source
  exact ⟨source, Run.mem_codesFrom run.target inside step⟩

/-- A code point that the tables do not list is its own uppercase. -/
theorem ofCode_of_not_mem_sources {code : Nat} (free : code ∉ sources) : ofCode code = [code] := by
  rcases ofCode_cases code with ⟨run, listed, image, held, -⟩ | ⟨images, listed, -⟩ | own
  · have inside : code ∈ runs.flatMap fun run => run.codesFrom run.first :=
      List.mem_flatMap.mpr ⟨run, listed, (mem_of_image? held).1⟩
    exact absurd (List.mem_append_left _ inside) free
  · have inside : code ∈ expansions.map Prod.fst :=
      List.mem_map.mpr ⟨(code, images), listed, rfl⟩
    exact absurd (List.mem_append_right _ inside) free
  · exact own

theorem mem_targets_of_mem_ofCode {code image : Nat} (h : image ∈ ofCode code) :
    image ∈ targets ∨ ofCode code = [code] := by
  rcases ofCode_cases code with ⟨run, listed, target, held, uppercase⟩ | ⟨images, listed, uppercase⟩ |
    own
  · rw [uppercase, List.mem_singleton] at h
    rw [h]
    have inside : target ∈ runs.flatMap fun run => run.codesFrom run.target :=
      List.mem_flatMap.mpr ⟨run, listed, (mem_of_image? held).2⟩
    exact .inl (List.mem_append_left _ inside)
  · rw [uppercase] at h
    have inside : image ∈ expansions.flatMap Prod.snd :=
      List.mem_flatMap.mpr ⟨(code, images), listed, h⟩
    exact .inl (List.mem_append_right _ inside)
  · exact .inr own

theorem bitSet_targets_and_sources : bitSet targets &&& bitSet sources = 0 := by
  decide +kernel

/-- Nothing that the tables lead to is listed in them. -/
theorem not_mem_sources_of_mem_targets {code : Nat} (h : code ∈ targets) : code ∉ sources :=
  not_mem_of_bitSet_and bitSet_targets_and_sources h

/-!
### Idempotence

From a code point to a character, and from each character to the text.
-/

theorem ofCode_of_mem_ofCode {code image : Nat} (h : image ∈ ofCode code) :
    ofCode image = [image] := by
  rcases mem_targets_of_mem_ofCode h with target | own
  · exact ofCode_of_not_mem_sources (not_mem_sources_of_mem_targets target)
  · rw [own, List.mem_singleton] at h
    rw [h, own]

/-- Every character that uppercase produces is its own uppercase. -/
theorem ofChar_of_mem_ofChar {c image : Char} (h : image ∈ ofChar c) : ofChar image = [image] := by
  obtain ⟨code, listed, rfl⟩ := List.mem_map.mp h
  apply ofChar_eq_self_of_ofCode
  rcases toNat_ofNat_cases code with valid | null
  · rw [valid]
    exact ofCode_of_mem_ofCode listed
  · rw [null]
    decide +kernel

theorem ofChars_ofChars (chars : List Char) : ofChars (ofChars chars) = ofChars chars := by
  apply ofChars_eq_self
  intro c produced
  obtain ⟨source, -, image⟩ := List.mem_flatMap.mp produced
  exact ofChar_of_mem_ofChar image

end Uppercase

/-- Text in uppercase is its own uppercase. -/
theorem uppercase_uppercase (text : String) : uppercase (uppercase text) = uppercase text := by
  apply String.toList_injective
  simp only [toList_uppercase]
  exact Uppercase.ofChars_ofChars text.toList

end LanAuth.Text
