/-
Module: LanAuth.Proofs.Order
Layer: Proofs
Purpose: Total orders and sorting. An order that is read off a key has the laws of the order on the keys, and
  of all arrangements of a list exactly one is ascending: the one that sorting gives.
Imports: none
Trusted boundary: none
Main exports: transOrd_of_key, lawfulEqOrd_of_key, ascending, ascending_perm, pairwise_ascending,
  ascending_eq_iff, ascending_ascending, map_ascending
Open obligations: none
-/

namespace LanAuth

/-- The list in ascending order. What occurs several times is kept as often. -/
def ascending {α : Type} [Ord α] (list : List α) : List α :=
  list.mergeSort fun a b => (compare a b).isLE

/-!
### Keys

What is compared by comparing keys is ordered as the keys are.
-/

section Key

variable {α κ : Type} [Ord α] [Ord κ] {key : α → κ}
  (read : ∀ a b : α, compare a b = compare (key a) (key b))
include read

theorem transOrd_of_key [Std.TransOrd κ] : Std.TransOrd α where
  eq_swap := by
    intro a b
    rw [read, read]
    exact Std.OrientedOrd.eq_swap
  isLE_trans := by
    intro a b c
    rw [read, read, read]
    exact Std.TransOrd.isLE_trans

theorem lawfulEqOrd_of_key [Std.LawfulEqOrd κ] (told : Function.Injective key) :
    Std.LawfulEqOrd α where
  compare_self := by
    intro a
    rw [read]
    exact Std.ReflOrd.compare_self
  eq_of_compare := by
    intro a b same
    rw [read] at same
    exact told (Std.LawfulEqOrd.eq_of_compare same)

end Key

/-!
### Sorting
-/

section Sorting

variable {α : Type} [Ord α]

theorem ascending_perm (list : List α) : (ascending list).Perm list :=
  List.mergeSort_perm list _

/-- A map that keeps the order may be applied before or after sorting. -/
theorem map_ascending {β : Type} [Ord β] {f : α → β}
    (kept : ∀ a b : α, compare a b = compare (f a) (f b)) (list : List α) :
    (ascending list).map f = ascending (list.map f) := by
  unfold ascending
  apply List.map_mergeSort
  intro a _ b _
  rw [kept]

variable [Std.TransOrd α]

theorem pairwise_ascending (list : List α) :
    (ascending list).Pairwise fun a b => (compare a b).isLE := by
  apply List.pairwise_mergeSort
  · intro a b c
    exact Std.TransOrd.isLE_trans
  · intro a b
    have turned : compare a b = (compare b a).swap := Std.OrientedOrd.eq_swap
    rw [turned]
    cases compare b a <;> rfl

theorem ascending_ascending (list : List α) : ascending (ascending list) = ascending list :=
  List.mergeSort_of_pairwise (pairwise_ascending list)

variable [Std.LawfulEqOrd α]

/-- Only one arrangement of a list is ascending. -/
theorem eq_of_pairwise_of_perm {list list' : List α}
    (sorted : list.Pairwise fun a b => (compare a b).isLE)
    (sorted' : list'.Pairwise fun a b => (compare a b).isLE) (same : list.Perm list') :
    list = list' := by
  apply List.Perm.eq_of_pairwise _ sorted sorted' same
  intro a b _ _ le ge
  exact Std.LawfulEqOrd.eq_of_compare (Std.OrientedCmp.isLE_antisymm le ge)

theorem ascending_eq_iff {list list' : List α} :
    ascending list = ascending list' ↔ list.Perm list' := by
  constructor
  · intro same
    have arranged : (ascending list).Perm list' := by
      rw [same]
      exact ascending_perm list'
    exact (ascending_perm list).symm.trans arranged
  · intro same
    apply eq_of_pairwise_of_perm (pairwise_ascending list) (pairwise_ascending list')
    exact (ascending_perm list).trans (same.trans (ascending_perm list').symm)

end Sorting

end LanAuth
