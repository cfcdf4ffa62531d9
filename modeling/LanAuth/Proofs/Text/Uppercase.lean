/-
Module: LanAuth.Proofs.Text.Uppercase
Layer: Proofs
Purpose: Which of the first 256 characters uppercase leaves alone, and which it never produces. The two are
  complementary: a character that uppercase changes is not the uppercase of anything, also not of the
  characters beyond the first 256 whose uppercase falls among them. Text may grow in uppercase; it never
  shrinks.
Imports: LanAuth.Text.Uppercase, LanAuth.Proofs.Text.CodePoint
Trusted boundary: none
Main exports: IsLower, ofCode_cases, ofCode_eq_self_iff, not_isLower_of_mem_ofCode,
  not_isLower_of_mem_ofChar, ofChar_eq_self, ofChars_eq_self, ofChar_ne_nil, length_le_length_ofChars
Open obligations: none
-/
import LanAuth.Text.Uppercase
import LanAuth.Proofs.Text.CodePoint

namespace LanAuth.Text.Uppercase

/-- The code points below 256 that are not their own uppercase: a to z, the micro sign, and the lowercase
    letters from sharp s on, where the division sign stands between them. -/
def IsLower (code : Nat) : Prop :=
  (0x61 ≤ code ∧ code ≤ 0x7a) ∨ code = 0xb5 ∨ (0xdf ≤ code ∧ code ≤ 0xf6) ∨
    (0xf8 ≤ code ∧ code ≤ 0xff)

instance (code : Nat) : Decidable (IsLower code) :=
  inferInstanceAs (Decidable (_ ∨ _))

theorem IsLower.lt {code : Nat} (lower : IsLower code) : code < 256 := by
  unfold IsLower at lower
  omega

/-!
### Where an uppercase comes from

A code point has its uppercase from a run, from an expansion, or from neither, and then it is its own.
-/

theorem Run.image?_eq_some {run : Run} {code image : Nat} (h : run.image? code = some image) :
    run.first ≤ code ∧ code - run.first < run.count * run.stride ∧
      (code - run.first) % run.stride = 0 ∧ image = run.target + (code - run.first) := by
  unfold Run.image? at h
  split at h
  · next held =>
      obtain ⟨above, below, step⟩ := held
      cases h
      exact ⟨above, by omega, step, rfl⟩
  · cases h

theorem ofCode_cases (code : Nat) :
    (∃ run ∈ runs, ∃ image, run.image? code = some image ∧ ofCode code = [image]) ∨
      (∃ images, (code, images) ∈ expansions ∧ ofCode code = images) ∨
      ofCode code = [code] := by
  unfold ofCode
  cases found : runs.findSome? (fun run => run.image? code) with
  | some image =>
      obtain ⟨run, listed, held⟩ := List.exists_of_findSome?_eq_some found
      exact Or.inl ⟨run, listed, image, held, rfl⟩
  | none =>
      cases looked : expansions.lookup code with
      | some images =>
          have listed : (code, images) ∈ expansions := by
            obtain ⟨before, after, split, -⟩ := List.lookup_eq_some_iff.mp looked
            rw [split]
            simp
          exact Or.inr (Or.inl ⟨images, listed, rfl⟩)
      | none => exact Or.inr (Or.inr rfl)

/-!
### The first 256 code points

Five facts about the tables, each settled by going through them, say all that is needed here: what the runs
and the expansions that start below 256 hold, what they lead to there, and that nothing is missing.
-/

theorem isLower_of_run : ∀ run ∈ runs, 256 ≤ run.first ∨
    ∀ i < run.count * run.stride, i % run.stride = 0 → IsLower (run.first + i) := by
  decide +kernel

theorem isLower_of_expansion : ∀ entry ∈ expansions, 256 ≤ entry.1 ∨ IsLower entry.1 := by
  decide +kernel

theorem not_isLower_run_target : ∀ run ∈ runs, 256 ≤ run.target ∨
    ∀ i < run.count * run.stride, ¬ IsLower (run.target + i) := by
  decide +kernel

theorem not_isLower_expansion_images : ∀ entry ∈ expansions, ∀ image ∈ entry.2, ¬ IsLower image := by
  decide +kernel

theorem ofCode_ne_self_of_isLower : ∀ code < 256, IsLower code → ofCode code ≠ [code] := by
  decide +kernel

/-- Below 256, uppercase leaves exactly the code points alone that are not lowercase. -/
theorem ofCode_eq_self_iff {code : Nat} (small : code < 256) :
    ofCode code = [code] ↔ ¬ IsLower code := by
  constructor
  · intro own lower
    exact ofCode_ne_self_of_isLower code small lower own
  · intro upper
    rcases ofCode_cases code with ⟨run, listed, image, held, -⟩ | ⟨images, listed, -⟩ | own
    · obtain ⟨above, below, step, -⟩ := Run.image?_eq_some held
      rcases isLower_of_run run listed with far | lower
      · omega
      · have here : run.first + (code - run.first) = code := by omega
        exact absurd (here ▸ lower (code - run.first) below step) upper
    · rcases isLower_of_expansion (code, images) listed with far | lower
      · exact absurd far (by simp only; omega)
      · exact absurd lower upper
    · exact own

theorem not_isLower_of_mem_ofCode {code image : Nat} (h : image ∈ ofCode code) : ¬ IsLower image := by
  rcases ofCode_cases code with ⟨run, listed, target, held, uppercase⟩ | ⟨images, listed, uppercase⟩ |
    own
  · obtain ⟨-, below, -, rfl⟩ := Run.image?_eq_some held
    rw [uppercase, List.mem_singleton] at h
    rw [h]
    rcases not_isLower_run_target run listed with far | upper
    · intro lower
      have small := lower.lt
      omega
    · exact upper (code - run.first) below
  · rw [uppercase] at h
    exact not_isLower_expansion_images (code, images) listed image h
  · rw [own, List.mem_singleton] at h
    intro lower
    rw [h] at lower
    exact ofCode_ne_self_of_isLower code lower.lt lower own

/-!
### Characters

A number that is no character stands for the null character, which is not lowercase, so what holds of code
points holds of characters.
-/

theorem not_isLower_of_mem_ofChar {c image : Char} (h : image ∈ ofChar c) : ¬ IsLower image.toNat := by
  obtain ⟨code, listed, rfl⟩ := List.mem_map.mp h
  rcases toNat_ofNat_cases code with valid | null
  · rw [valid]
    exact not_isLower_of_mem_ofCode listed
  · rw [null]
    decide

theorem ofChar_eq_self_of_ofCode {c : Char} (own : ofCode c.toNat = [c.toNat]) : ofChar c = [c] := by
  unfold ofChar
  rw [own, List.map_singleton, Char.ofNat_toNat]

theorem ofChar_eq_self {c : Char} (small : c.toNat < 256) (upper : ¬ IsLower c.toNat) :
    ofChar c = [c] :=
  ofChar_eq_self_of_ofCode ((ofCode_eq_self_iff small).mpr upper)

/-- Characters that are their own uppercase, one by one, are so together. -/
theorem ofChars_eq_self {chars : List Char} (own : ∀ c ∈ chars, ofChar c = [c]) :
    ofChars chars = chars := by
  unfold ofChars
  induction chars with
  | nil => rfl
  | cons c later ih =>
      have rest := ih fun c' listed => own c' (List.mem_cons_of_mem c listed)
      rw [List.flatMap_cons, own c List.mem_cons_self, rest, List.singleton_append]

/-!
### Length

No character is lost in uppercase.
-/

theorem expansion_images_ne_nil : ∀ entry ∈ expansions, entry.2 ≠ [] := by
  decide +kernel

theorem ofChar_ne_nil (c : Char) : ofChar c ≠ [] := by
  intro lost
  have lost : ofCode c.toNat = [] := List.map_eq_nil_iff.mp lost
  rcases ofCode_cases c.toNat with ⟨_, _, image, _, uppercase⟩ | ⟨images, listed, uppercase⟩ | own
  · rw [uppercase] at lost
    cases lost
  · rw [uppercase] at lost
    exact expansion_images_ne_nil (c.toNat, images) listed lost
  · rw [own] at lost
    cases lost

theorem length_le_length_ofChars (chars : List Char) : chars.length ≤ (ofChars chars).length := by
  induction chars with
  | nil => exact Nat.le_refl 0
  | cons c later ih =>
      have kept : 0 < (ofChar c).length := List.length_pos_iff.mpr (ofChar_ne_nil c)
      unfold ofChars at ih ⊢
      rw [List.flatMap_cons, List.length_cons, List.length_append]
      omega

end LanAuth.Text.Uppercase
