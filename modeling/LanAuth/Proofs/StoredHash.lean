/-
Module: LanAuth.Proofs.StoredHash
Layer: Proofs
Purpose: A stored hash answers for its password. The NT hash can be obtained once, with any challenge and any
  names, and then gives the NTLM response to every other challenge; the LAN Manager hash likewise. Behind
  this is what each scheme does not look at: the two schemes without an answer do not use the bytes of the
  challenge, and only the scheme that is bound to names uses them.
Imports: LanAuth.Proofs.Response
Trusted boundary: none
Main exports: respond_challenge_irrelevant, respond_names_irrelevant,
  stored_hashes_answer_for_passwords
Open obligations: none
-/
import LanAuth.Proofs.Response

namespace LanAuth

/-!
### What a scheme does not look at
-/

variable (password : String)

/-- The schemes that give no answer demand a challenge, but do not use its bytes. -/
theorem respond_challenge_irrelevant {scheme : Scheme}
    (unanswered : scheme = .ntlmV2 ∨ scheme = .ntHash) (challenge challenge' : Challenge)
    (username domain : Option String) :
    respond scheme password challenge.toList username domain =
      respond scheme password challenge'.toList username domain := by
  rcases unanswered with rfl | rfl
  · cases username with
    | none => rw [respond_without_username, respond_without_username]
    | some username =>
        cases domain with
        | none => rw [respond_without_domain, respond_without_domain]
        | some domain => rw [respond_ntlmV2, respond_ntlmV2]
  · rw [respond_ntHash, respond_ntHash]

/-- The names are used by one scheme alone. Whether one is given does not matter to the others either. -/
theorem respond_names_irrelevant {scheme : Scheme} (unbound : scheme ≠ .ntlmV2)
    (challenge : List UInt8) (username domain username' domain' : Option String) :
    respond scheme password challenge username domain =
      respond scheme password challenge username' domain' := by
  cases scheme with
  | lanMan => rfl
  | ntlmV1 => rfl
  | ntlmV2 => exact absurd rfl unbound
  | ntHash => rfl

/-- A stored hash answers for its password. The NT hash, obtained with any challenge and any names, gives
    the NTLM response to every challenge, and the LAN Manager hash gives the LAN Manager response, which is
    also what is computed directly. The bare hash and the bound response do not depend on the bytes of the
    challenge; the LAN Manager and the NTLM response and the bare hash do not depend on the names. -/
theorem stored_hashes_answer_for_passwords :
    (∀ (password : String) (challenge challenge₀ : Challenge)
        (username domain username₀ domain₀ : Option String),
      ∃ (stored : Vector UInt8 16) (response : Vector UInt8 24),
        (respond .ntHash password challenge₀.toList username₀ domain₀).outcome =
          .ok stored.toList ∧
        (answer (extendHash stored) challenge).outcome = .ok response ∧
        (respond .ntlmV1 password challenge.toList username domain).outcome =
          .ok response.toList) ∧
    (∀ (password : String) (challenge : Challenge) (username domain : Option String),
      ∃ (stored : Vector UInt8 16) (response : Vector UInt8 24),
        (LanMan.hash password).outcome = .ok stored ∧
        (answer (extendHash stored) challenge).outcome = .ok response ∧
        (LanMan.response password challenge).outcome = .ok response ∧
        (respond .lanMan password challenge.toList username domain).outcome =
          .ok response.toList) ∧
    (∀ (password : String) (challenge challenge' : Challenge) (username domain : Option String),
      respond .ntHash password challenge.toList username domain =
        respond .ntHash password challenge'.toList username domain ∧
      respond .ntlmV2 password challenge.toList username domain =
        respond .ntlmV2 password challenge'.toList username domain) ∧
    (∀ (password : String) (challenge : List UInt8)
        (username domain username' domain' : Option String),
      respond .lanMan password challenge username domain =
        respond .lanMan password challenge username' domain' ∧
      respond .ntlmV1 password challenge username domain =
        respond .ntlmV1 password challenge username' domain' ∧
      respond .ntHash password challenge username domain =
        respond .ntHash password challenge username' domain') := by
  refine ⟨?_, ?_, ?_, ?_⟩
  · intro password challenge challenge₀ username domain username₀ domain₀
    have hashed := respond_ntHash password username₀ domain₀ challenge₀
    have answered := answer_eq (extendHash (Ntlm.hash password)) challenge
    have sent := respond_ntlmV1 password username domain challenge
    exact ⟨_, _, congrArg Traced.outcome hashed, congrArg Traced.outcome answered,
      congrArg Traced.outcome sent⟩
  · intro password challenge username domain
    have made := LanMan.keyMaterial_eq password
    have hashed := LanMan.oneWay_eq made LanMan.magic
    have direct := LanMan.response_eq made challenge
    have sent := respond_lanMan password username domain made challenge
    refine ⟨_, _, congrArg Traced.outcome hashed, ?_, congrArg Traced.outcome direct,
      congrArg Traced.outcome sent⟩
    exact congrArg Traced.outcome (answer_eq _ challenge)
  · intro password challenge challenge' username domain
    constructor
    · exact respond_challenge_irrelevant password (.inr rfl) challenge challenge' username domain
    · exact respond_challenge_irrelevant password (.inl rfl) challenge challenge' username domain
  · intro password challenge username domain username' domain'
    have unbound {scheme : Scheme} (other : scheme ≠ .ntlmV2) :=
      respond_names_irrelevant password other challenge username domain username' domain'
    refine ⟨?_, ?_, ?_⟩
    · exact unbound nofun
    · exact unbound nofun
    · exact unbound nofun

end LanAuth
