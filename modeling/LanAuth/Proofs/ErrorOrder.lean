/-
Module: LanAuth.Proofs.ErrorOrder
Layer: Proofs
Purpose: The order of errors. An error is compared by its place in the declaration and then by what it
  carries, from left to right, and so on inside; written down, this is a short list of numbers, and errors
  are ordered as these lists are. So the order is total, equal in it is the same, and however a list of
  errors comes, it is sorted to the same list.
Imports: LanAuth.Error, LanAuth.Proofs.Order
Trusted boundary: none
Main exports: Primitive.place, Requirement.key, HashError.key, HashError.compare_eq, HashError.key_injective,
  HashError.errors_sort_to_one_list
Open obligations: none
-/
import LanAuth.Error
import LanAuth.Proofs.Order

namespace LanAuth

/-- The place of a primitive in the order of declaration. -/
def Primitive.place : Primitive → Int
  | .des => 0
  | .md4 => 1
  | .hmacMd5 => 2

/-- What requirements are compared by: the place in the order of declaration, then the number carried. -/
def Requirement.key : Requirement → List Int
  | .missingUsername => [0]
  | .missingDomain => [1]
  | .challengeLength obtained => [2, obtained]
  | .unknownScheme code => [3, code]
  | .unencodablePassword => [4]

/-- What errors are compared by: the place in the order of declaration, then what is carried, from left to
    right. -/
def HashError.key : HashError → List Int
  | .unavailable primitive => [0, primitive.place]
  | .invalidKey primitive length => [1, primitive.place, length]
  | .unmet requirement => 2 :: requirement.key

/-!
### Numbers and lists of numbers
-/

theorem compare_natCast (n m : Nat) : compare (n : Int) m = compare n m := by
  simp only [compare, compareOfLessAndEq, Int.ofNat_lt, Int.ofNat_inj]

theorem compare_toNat (n m : UInt64) : compare n.toNat m.toNat = compare n m := by
  simp only [compare, compareOfLessAndEq, UInt64.lt_iff_toNat_lt, UInt64.toNat_inj]

theorem compare_toInt (c d : Int32) : compare c.toInt d.toInt = compare c d := by
  simp only [compare, compareOfLessAndEq, Int32.lt_iff_toInt_lt, Int32.toInt_inj]

theorem compare_cons_self (first : Int) (rest rest' : List Int) :
    compare (first :: rest) (first :: rest') = compare rest rest' := by
  rw [List.compare_cons_cons, Std.ReflOrd.compare_self, Ordering.eq_then]

theorem compare_singleton (x y : Int) : compare [x] [y] = compare x y := by
  rw [List.compare_cons_cons, List.compare_nil_nil, Ordering.then_eq]

/-!
### Errors as lists of numbers

Where two errors have the same place, what they carry is compared; where they have not, the places already
decide.
-/

theorem Primitive.compare_eq (a b : Primitive) : compare a b = compare a.place b.place := by
  cases a <;> cases b <;> rfl

theorem Primitive.place_injective : Function.Injective Primitive.place := by
  intro a b same
  cases a <;> cases b <;> simp_all [place]

instance : Std.LawfulEqOrd Primitive :=
  lawfulEqOrd_of_key Primitive.compare_eq Primitive.place_injective

namespace Requirement

theorem compare_challengeLength (n m : Nat) :
    compare (challengeLength n) (challengeLength m) = compare n m :=
  Ordering.then_eq

theorem compare_unknownScheme (c d : Int) :
    compare (unknownScheme c) (unknownScheme d) = compare c d :=
  Ordering.then_eq

theorem compare_eq (a b : Requirement) : compare a b = compare a.key b.key := by
  cases a with
  | missingUsername => cases b <;> rfl
  | missingDomain => cases b <;> rfl
  | challengeLength n =>
      cases b with
      | challengeLength m =>
          rw [compare_challengeLength, key, key, compare_cons_self, compare_singleton, compare_natCast]
      | missingUsername | missingDomain | unknownScheme _ | unencodablePassword => rfl
  | unknownScheme c =>
      cases b with
      | unknownScheme d =>
          rw [compare_unknownScheme, key, key, compare_cons_self, compare_singleton]
      | missingUsername | missingDomain | challengeLength _ | unencodablePassword => rfl
  | unencodablePassword => cases b <;> rfl

theorem key_injective : Function.Injective key := by
  intro a b same
  cases a with
  | challengeLength n =>
      cases b with
      | challengeLength m =>
          have numbers : (n : Int) = m := by simpa [key] using same
          rw [Int.ofNat_inj.mp numbers]
      | missingUsername | missingDomain | unknownScheme _ | unencodablePassword =>
          simp [key] at same
  | missingUsername => cases b <;> simp_all [key]
  | missingDomain => cases b <;> simp_all [key]
  | unknownScheme c => cases b <;> simp_all [key]
  | unencodablePassword => cases b <;> simp_all [key]

end Requirement

namespace HashError

theorem compare_unavailable (p q : Primitive) :
    compare (unavailable p) (unavailable q) = compare p q :=
  Ordering.then_eq

theorem compare_invalidKey (p q : Primitive) (n m : Nat) :
    compare (invalidKey p n) (invalidKey q m) = (compare p q).then (compare n m) := by
  change (compare p q).then ((compare n m).then .eq) = (compare p q).then (compare n m)
  rw [Ordering.then_eq]

theorem compare_unmet (r s : Requirement) : compare (unmet r) (unmet s) = compare r s :=
  Ordering.then_eq

theorem compare_eq (a b : HashError) : compare a b = compare a.key b.key := by
  cases a with
  | unavailable p =>
      cases b with
      | unavailable q =>
          rw [compare_unavailable, key, key, compare_cons_self, compare_singleton,
            Primitive.compare_eq]
      | invalidKey _ _ | unmet _ => rfl
  | invalidKey p n =>
      cases b with
      | invalidKey q m =>
          rw [compare_invalidKey, key, key, compare_cons_self, List.compare_cons_cons,
            compare_singleton, Primitive.compare_eq, compare_natCast]
      | unavailable _ | unmet _ => rfl
  | unmet r =>
      cases b with
      | unmet s => rw [compare_unmet, key, key, compare_cons_self, Requirement.compare_eq]
      | unavailable _ | invalidKey _ _ => rfl

theorem key_injective : Function.Injective key := by
  intro a b same
  cases a with
  | unavailable p =>
      cases b with
      | unavailable q =>
          have places : p.place = q.place := by simpa [key] using same
          rw [Primitive.place_injective places]
      | invalidKey _ _ | unmet _ => simp [key] at same
  | invalidKey p n =>
      cases b with
      | invalidKey q m =>
          obtain ⟨places, lengths⟩ : p.place = q.place ∧ (n : Int) = m := by
            simpa [key] using same
          rw [Primitive.place_injective places, Int.ofNat_inj.mp lengths]
      | unavailable _ | unmet _ => simp [key] at same
  | unmet r =>
      cases b with
      | unmet s =>
          have keys : r.key = s.key := by simpa [key] using same
          rw [Requirement.key_injective keys]
      | unavailable _ | invalidKey _ _ => simp [key] at same

instance : Std.TransOrd HashError := transOrd_of_key compare_eq

instance : Std.LawfulEqOrd HashError := lawfulEqOrd_of_key compare_eq key_injective

theorem sort_eq_ascending (errors : List HashError) : sort errors = ascending errors := rfl

/-- Errors are ordered by place in the declaration and then by what they carry, where lengths are ordered as
    machine words and codes as machine words with a sign. The order is total, and equal in it is the same.
    Sorting a list of errors keeps each as often as it occurs and puts them in ascending order; lists with
    the same errors, each as often, are sorted to the same list, and no others are; and a sorted list is left
    as it is. -/
theorem errors_sort_to_one_list :
    (∀ a b : HashError, compare a b = compare a.key b.key) ∧
    (∀ (p : Primitive) (n m : UInt64),
      compare (invalidKey p n.toNat) (invalidKey p m.toNat) = compare n m) ∧
    (∀ n m : UInt64,
      compare (unmet (.challengeLength n.toNat)) (unmet (.challengeLength m.toNat)) = compare n m) ∧
    (∀ c d : Int32,
      compare (unmet (.unknownScheme c.toInt)) (unmet (.unknownScheme d.toInt)) = compare c d) ∧
    (∀ a b : HashError, compare a b = (compare b a).swap) ∧
    (∀ a b c : HashError, (compare a b).isLE → (compare b c).isLE → (compare a c).isLE) ∧
    (∀ a b : HashError, compare a b = .eq ↔ a = b) ∧
    (∀ errors : List HashError,
      (sort errors).Perm errors ∧
      (∀ error, (sort errors).count error = errors.count error) ∧
      ((sort errors).Pairwise fun a b => (compare a b).isLE) ∧
      sort (sort errors) = sort errors) ∧
    ∀ errors errors' : List HashError, sort errors = sort errors' ↔ errors.Perm errors' := by
  refine ⟨compare_eq, ?_, ?_, ?_, ?_, ?_, ?_, ?_, ?_⟩
  · intro p n m
    rw [compare_invalidKey, Std.ReflOrd.compare_self, Ordering.eq_then, compare_toNat]
  · intro n m
    rw [compare_unmet, Requirement.compare_challengeLength, compare_toNat]
  · intro c d
    rw [compare_unmet, Requirement.compare_unknownScheme, compare_toInt]
  · intro a b
    exact Std.OrientedOrd.eq_swap
  · intro a b c
    exact Std.TransOrd.isLE_trans
  · intro a b
    exact Std.LawfulEqOrd.compare_eq_iff_eq
  · intro errors
    simp only [sort_eq_ascending]
    refine ⟨ascending_perm errors, ?_, pairwise_ascending errors, ascending_ascending errors⟩
    intro error
    exact (ascending_perm errors).count_eq error
  · intro errors errors'
    rw [sort_eq_ascending, sort_eq_ascending, ascending_eq_iff]

/-- Neither the primitive nor the size of a number outweighs the place of the error that carries it. -/
theorem errors_sort_to_one_list_by_place :
    (compare (unavailable .hmacMd5) (invalidKey .des 7)).isLE ∧
    (compare (invalidKey .des 7) (unmet (.unknownScheme (-1)))).isLE ∧
    (compare (unavailable .hmacMd5) (unmet (.unknownScheme (-1)))).isLE := by
  obtain ⟨-, -, -, -, -, transitive, -⟩ := errors_sort_to_one_list
  exact ⟨rfl, rfl, transitive _ (invalidKey .des 7) _ rfl rfl⟩

end HashError

end LanAuth
