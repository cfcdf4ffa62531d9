/-
Module: LanAuth.Proofs.SchemeCodes
Layer: Proofs
Purpose: Codes and schemes in lists. The order of the schemes is that of their codes, and so it makes no
  difference whether codes are put in order before or after they are replaced by the schemes that they stand
  for. The first code of a list that stands for none decides that there is no answer.
Imports: LanAuth.Proofs.Order, LanAuth.Proofs.Outcome
Trusted boundary: none
Main exports: Scheme.compare_eq, Scheme.isOutside, Scheme.exists_map_code, Scheme.ofCodes_map_code,
  Scheme.ofCodes_of_outside, Scheme.sortedOfCodes_map_code, Scheme.codes_sort_as_their_schemes
Open obligations: none
-/
import LanAuth.Proofs.Order
import LanAuth.Proofs.Outcome

namespace LanAuth.Scheme

/-- The code is not from 0 to 3. -/
def isOutside (code : Int) : Bool :=
  code < 0 || 3 < code

theorem isOutside_iff {code : Int} : isOutside code ↔ ¬ (0 ≤ code ∧ code ≤ 3) := by
  simp only [isOutside, Bool.or_eq_true, decide_eq_true_eq]
  omega

theorem not_isOutside_iff {code : Int} : ¬ isOutside code ↔ 0 ≤ code ∧ code ≤ 3 := by
  rw [isOutside_iff, Decidable.not_not]

/-!
### One scheme and its code

The code is the place of the scheme in the order.
-/

theorem compare_eq (a b : Scheme) : compare a b = compare a.code b.code := by
  cases a <;> cases b <;> rfl

theorem nameOfCode_code (scheme : Scheme) : nameOfCode scheme.code = scheme.name := by
  unfold nameOfCode
  rw [ofCode?_code]

/-!
### Lists

By induction on the list: each code is replaced by its scheme, until one comes that has none.
-/

/-- Codes from 0 to 3 are the codes of some schemes. -/
theorem exists_map_code {codes : List Int} (known : ∀ code ∈ codes, 0 ≤ code ∧ code ≤ 3) :
    ∃ schemes : List Scheme, schemes.map code = codes := by
  induction codes with
  | nil => exact ⟨[], rfl⟩
  | cons first later ih =>
      obtain ⟨scheme, rfl, -⟩ := ofCode_of_known (known first List.mem_cons_self)
      obtain ⟨schemes, rfl⟩ := ih fun code mem => known code (List.mem_cons_of_mem _ mem)
      exact ⟨scheme :: schemes, rfl⟩

theorem ofCodes_map_code (schemes : List Scheme) : ofCodes (schemes.map code) = .ok schemes := by
  induction schemes with
  | nil => rfl
  | cons scheme schemes ih =>
      rw [List.map_cons, ofCodes, ofCode_code, ih]
      rfl

/-- The first code without a scheme is the one refused, whatever follows it. -/
theorem ofCodes_of_outside (front : List Scheme) {code : Int} (outside : isOutside code)
    (later : List Int) :
    ofCodes (front.map Scheme.code ++ code :: later) = .error (.unmet (.unknownScheme code)) := by
  induction front with
  | nil =>
      rw [List.map_nil, List.nil_append, ofCodes, ofCode_of_unknown (isOutside_iff.mp outside)]
      rfl
  | cons scheme front ih =>
      rw [List.map_cons, List.cons_append, ofCodes, ofCode_code, ih]
      rfl

/-!
### Sorted lists
-/

theorem sort_eq_ascending (schemes : List Scheme) : sort schemes = ascending schemes := rfl

theorem sortedOfCodes_map_code (schemes : List Scheme) :
    sortedOfCodes (schemes.map code) = .ok (sort schemes) := by
  unfold sortedOfCodes
  rw [ofCodes_map_code]
  rfl

/-- The codes of the sorted schemes are the sorted codes. -/
theorem map_code_sort (schemes : List Scheme) :
    (sort schemes).map code = ascending (schemes.map code) := by
  rw [sort_eq_ascending, map_ascending compare_eq]

theorem map_name_sort (schemes : List Scheme) :
    (sort schemes).map name = (ascending (schemes.map code)).map nameOfCode := by
  rw [← map_code_sort, List.map_map]
  apply List.map_congr_left
  intro scheme _
  exact (nameOfCode_code scheme).symm

/-- Codes that all stand for schemes may be sorted before or after they are replaced. -/
theorem sortedOfCodes_eq_ofCodes_ascending {codes : List Int}
    (known : ∀ code ∈ codes, 0 ≤ code ∧ code ≤ 3) :
    sortedOfCodes codes = ofCodes (ascending codes) := by
  obtain ⟨schemes, rfl⟩ := exists_map_code known
  rw [sortedOfCodes_map_code, ← map_code_sort, ofCodes_map_code]

theorem sortedOfCodes_of_find? {codes : List Int} {code : Int}
    (first : codes.find? isOutside = some code) :
    sortedOfCodes codes = .error (.unmet (.unknownScheme code)) := by
  obtain ⟨outside, front, later, rfl, before⟩ := List.find?_eq_some_iff_append.mp first
  have known : ∀ code ∈ front, 0 ≤ code ∧ code ≤ 3 := by
    intro code mem
    exact not_isOutside_iff.mp (by simpa using before code mem)
  obtain ⟨schemes, rfl⟩ := exists_map_code known
  unfold sortedOfCodes
  rw [ofCodes_of_outside schemes outside later]
  rfl

/-- Schemes are ordered as their codes. A list of codes is refused if one of them is not from 0 to 3, and
    then for the first that is not. Otherwise it gives schemes whose codes are those of the list in ascending
    order, each as often, and whose names are those of the sorted codes. The same schemes come of sorting the
    codes first, and of the same codes in any other arrangement. -/
theorem codes_sort_as_their_schemes :
    (∀ a b : Scheme, compare a b = compare a.code b.code) ∧
    (∀ codes : List Int,
      (ascending codes).Perm codes ∧ (ascending codes).Pairwise (· ≤ ·)) ∧
    (∀ (codes : List Int) (error : HashError), sortedOfCodes codes = .error error ↔
      ∃ code, codes.find? isOutside = some code ∧ error = .unmet (.unknownScheme code)) ∧
    ∀ codes : List Int, (∀ code ∈ codes, 0 ≤ code ∧ code ≤ 3) →
      sortedOfCodes codes = ofCodes (ascending codes) ∧
      (∃ schemes, sortedOfCodes codes = .ok schemes ∧
        schemes.map code = ascending codes ∧
        schemes.map name = (ascending codes).map nameOfCode) ∧
      ∀ codes' : List Int, codes.Perm codes' → sortedOfCodes codes = sortedOfCodes codes' := by
  refine ⟨compare_eq, ?_, ?_, ?_⟩
  · intro codes
    refine ⟨ascending_perm codes, ?_⟩
    apply (pairwise_ascending codes).imp
    intro a b le
    exact Int.isLE_compare.mp le
  · intro codes error
    cases first : codes.find? isOutside with
    | some code =>
        rw [sortedOfCodes_of_find? first]
        simp [eq_comm]
    | none =>
        have known : ∀ code ∈ codes, 0 ≤ code ∧ code ≤ 3 := by
          intro code mem
          exact not_isOutside_iff.mp (List.find?_eq_none.mp first code mem)
        obtain ⟨schemes, rfl⟩ := exists_map_code known
        rw [sortedOfCodes_map_code]
        simp
  · intro codes known
    refine ⟨sortedOfCodes_eq_ofCodes_ascending known, ?_, ?_⟩
    · obtain ⟨schemes, rfl⟩ := exists_map_code known
      exact ⟨sort schemes, sortedOfCodes_map_code schemes, map_code_sort schemes,
        map_name_sort schemes⟩
    · intro codes' same
      have known' : ∀ code ∈ codes', 0 ≤ code ∧ code ≤ 3 := by
        intro code mem
        exact known code (same.mem_iff.mpr mem)
      rw [sortedOfCodes_eq_ofCodes_ascending known, sortedOfCodes_eq_ofCodes_ascending known',
        ascending_eq_iff.mpr same]

/-- Four codes with one of them twice, in two arrangements. -/
theorem codes_sort_as_their_schemes_one_twice :
    (∀ code ∈ [3, 0, 3, 2], (0 : Int) ≤ code ∧ code ≤ 3) ∧
    [3, 0, 3, 2].Perm [(2 : Int), 3, 3, 0] ∧
    (∃ schemes, sortedOfCodes [3, 0, 3, 2] = .ok schemes ∧ schemes.map code = ascending [3, 0, 3, 2]) ∧
    sortedOfCodes [3, 0, 3, 2] = sortedOfCodes [2, 3, 3, 0] := by
  obtain ⟨-, -, -, answered⟩ := codes_sort_as_their_schemes
  have known : ∀ code ∈ [3, 0, 3, 2], (0 : Int) ≤ code ∧ code ≤ 3 := by decide
  have same : [3, 0, 3, 2].Perm [(2 : Int), 3, 3, 0] := by decide
  obtain ⟨-, ⟨schemes, sorted, codes, -⟩, arranged⟩ := answered _ known
  exact ⟨known, same, ⟨schemes, sorted, codes⟩, arranged _ same⟩

end LanAuth.Scheme
