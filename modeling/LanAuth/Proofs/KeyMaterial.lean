/-
Module: LanAuth.Proofs.KeyMaterial
Layer: Proofs
Purpose: The key material that the LAN Manager scheme makes of a password is a normal form. Read back as
  text, it is a password with the same material, and so with the same hash and the same responses. The
  material without a lowercase byte is what can come out, and all of it does.
Imports: LanAuth.Proofs.Fit, LanAuth.Proofs.Response, LanAuth.Proofs.Text.Latin1
Trusted boundary: none
Main exports: LanMan.oneWay_congr, LanMan.hash_congr, LanMan.response_congr,
  LanMan.respond_lanMan_congr, LanMan.keyMaterial_decode, LanMan.not_isLower_of_keyMaterial,
  LanMan.keyMaterial_normal_form
Open obligations: none
-/
import LanAuth.Proofs.Fit
import LanAuth.Proofs.Response
import LanAuth.Proofs.Text.Latin1

namespace LanAuth

namespace LanMan

open Text.Latin1 (decode)
open Text.Uppercase (IsLower)

/-!
### What the material decides

Nothing looks at the password but through its material.
-/

theorem oneWay_congr {password password' : String}
    (same : keyMaterial password = keyMaterial password') (seed : Vector UInt8 8) :
    oneWay password seed = oneWay password' seed := by
  unfold oneWay
  rw [same]

theorem hash_congr {password password' : String}
    (same : keyMaterial password = keyMaterial password') : hash password = hash password' :=
  oneWay_congr same magic

theorem response_congr {password password' : String}
    (same : keyMaterial password = keyMaterial password') (challenge : Challenge) :
    response password challenge = response password' challenge := by
  unfold response
  rw [hash_congr same]

theorem respond_lanMan_congr {password password' : String}
    (same : keyMaterial password = keyMaterial password') (challenge : List UInt8)
    (username domain : Option String) :
    respond .lanMan password challenge username domain =
      respond .lanMan password' challenge username domain := by
  unfold respond
  simp only [response_congr same]

/-!
### The normal form
-/

/-- Material without a lowercase byte is the material of the text that it spells. -/
theorem keyMaterial_decode {material : Vector UInt8 14} (upper : ∀ b ∈ material, ¬ IsLower b.toNat) :
    keyMaterial (decode material.toList) = .ok material := by
  have own : Text.uppercase (decode material.toList) = decode material.toList :=
    Text.Latin1.uppercase_decode fun b listed => upper b (Vector.mem_toList_iff.mp listed)
  rw [keyMaterial_eq, own, Text.Latin1.encode_decode, fit_toList]

theorem not_isLower_of_keyMaterial {password : String} {material : Vector UInt8 14}
    (made : keyMaterial password = .ok material) : ∀ b ∈ material, ¬ IsLower b.toNat := by
  intro b listed
  rw [keyMaterial_eq] at made
  cases made
  rcases mem_fit listed with written | zero
  · exact Text.Latin1.not_isLower_of_mem_encode_uppercase written
  · rw [zero]
    decide

/-- The material of a password, read back as text, is a password with the same material, the same one-way
    function and the same responses. What can be material is told by the bytes alone. -/
theorem keyMaterial_normal_form :
    (∀ password : String, ∃ material : Vector UInt8 14,
      keyMaterial password = .ok material ∧
      keyMaterial (decode material.toList) = .ok material ∧
      (∀ seed : Vector UInt8 8, oneWay (decode material.toList) seed = oneWay password seed) ∧
      ∀ (challenge : List UInt8) (username domain : Option String),
        respond .lanMan (decode material.toList) challenge username domain =
          respond .lanMan password challenge username domain) ∧
    ∀ material : Vector UInt8 14,
      (∃ password : String, keyMaterial password = .ok material) ↔
        ∀ b ∈ material, ¬ IsLower b.toNat := by
  constructor
  · intro password
    have made := keyMaterial_eq password
    have again := keyMaterial_decode (not_isLower_of_keyMaterial made)
    refine ⟨_, made, again, ?_, ?_⟩
    · intro seed
      rw [oneWay_eq again, oneWay_eq made]
    · intro challenge username domain
      by_cases fits : challenge.length = challengeLength
      · obtain ⟨taken, rfl⟩ := exists_challenge fits
        rw [respond_lanMan _ username domain again, respond_lanMan _ username domain made]
      · rw [respond_of_length_ne _ username domain .lanMan fits,
          respond_of_length_ne _ username domain .lanMan fits]
  · intro material
    constructor
    · rintro ⟨password, made⟩
      exact not_isLower_of_keyMaterial made
    · intro upper
      exact ⟨decode material.toList, keyMaterial_decode upper⟩

end LanMan

end LanAuth
