/-
Module: LanAuth.Proofs.Text.PrefixFree
Layer: Proofs
Purpose: Words that a text shows if it begins with them, whatever follows. They are such if any two of them
  differ at a place that both have, so that none is how another one begins.
Imports: none
Trusted boundary: none
Main exports: differ, append_ne_append_of_differ, PrefixFree, PrefixFree.append_inj
Open obligations: none
-/

namespace LanAuth.Text

/-- The two strings of characters differ at a place that both have. -/
def differ : List Char → List Char → Bool
  | c :: rest, d :: rest' => c != d || differ rest rest'
  | _, _ => false

/-- Any two of the items have words that differ at a place that both have. -/
def PrefixFree {α : Type} (items : List α) (word : α → String) : Prop :=
  items.Pairwise fun a b => differ (word a).toList (word b).toList

instance {α : Type} (items : List α) (word : α → String) : Decidable (PrefixFree items word) :=
  inferInstanceAs (Decidable (items.Pairwise fun a b => differ (word a).toList (word b).toList))

theorem differ_append {front front' : List Char} (apart : differ front front')
    (back back' : List Char) : differ (front ++ back) (front' ++ back') := by
  fun_induction differ front front' with
  | case1 c rest d rest' ih =>
      rw [List.cons_append, List.cons_append, differ, Bool.or_eq_true]
      rw [Bool.or_eq_true] at apart
      exact apart.imp_right ih
  | case2 => cases apart

theorem not_differ_self (chars : List Char) : differ chars chars = false := by
  induction chars with
  | nil => rfl
  | cons c rest ih => rw [differ, ih, Bool.or_false, bne_self_eq_false]

/-- No text begins with both of two texts that differ at a place that both have. -/
theorem append_ne_append_of_differ {front front' : String}
    (apart : differ front.toList front'.toList) (back back' : String) :
    front ++ back ≠ front' ++ back' := by
  intro same
  have still := differ_append apart back.toList back'.toList
  rw [← String.toList_append, ← String.toList_append, same, not_differ_self] at still
  cases still

section

variable {α : Type} {items : List α} {word : α → String} (free : PrefixFree items word) {a b : α}
  (ha : a ∈ items) (hb : b ∈ items) {back back' : String}
include free ha hb

theorem PrefixFree.eq_of_append_eq (same : word a ++ back = word b ++ back') : a = b := by
  induction items with
  | nil => cases ha
  | cons first items ih =>
      obtain ⟨apart, rest⟩ := List.pairwise_cons.mp free
      rcases List.mem_cons.mp ha with rfl | laterA
      · rcases List.mem_cons.mp hb with rfl | laterB
        · rfl
        · exact absurd same (append_ne_append_of_differ (apart b laterB) back back')
      · rcases List.mem_cons.mp hb with rfl | laterB
        · exact absurd same.symm (append_ne_append_of_differ (apart a laterA) back' back)
        · exact ih rest laterA laterB

/-- The item whose word a text begins with is told by the text, and so is what follows the word. -/
theorem PrefixFree.append_inj : word a ++ back = word b ++ back' ↔ a = b ∧ back = back' := by
  constructor
  · intro same
    obtain rfl := free.eq_of_append_eq ha hb same
    exact ⟨rfl, (String.append_right_inj _).mp same⟩
  · rintro ⟨rfl, rfl⟩
    rfl

end

end LanAuth.Text
