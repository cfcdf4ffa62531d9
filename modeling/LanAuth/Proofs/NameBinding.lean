/-
Module: LanAuth.Proofs.NameBinding
Layer: Proofs
Purpose: The hash that binds a password to a username and a domain. It can be made from the password or
  from the stored hash of it: the message is written as one part there and as two parts here, and the names
  come in uppercase or as they were stored.
Imports: LanAuth.Proofs.Response
Trusted boundary: none
Main exports: Ntlm.boundHash_eq_boundHashOfStored, bound_response_of_stored_hash
Open obligations: none
-/
import LanAuth.Proofs.Response

namespace LanAuth

open Text (uppercase)

/-- Written as one part or as two, the names make the same message. -/
theorem Ntlm.boundHash_eq_boundHashOfStored (password domain : String) {username username' : String}
    (sameUser : uppercase username' = uppercase username) :
    boundHash password username domain =
      boundHashOfStored (hash password) username' (uppercase domain) := by
  have joined : [identity username domain].flatten =
      [Text.Utf16.encode (uppercase username'), Text.Utf16.encode (uppercase domain)].flatten := by
    rw [sameUser]
    simp [identity]
  exact Digest.Hmac.authenticate_congr Digest.Md5.compression (hash password).toList joined

/-- The response bound to a name is what the stored hash gives for it, for every username with the same
    uppercase and the domain in uppercase. The hash may have been obtained with another challenge and other
    names. -/
theorem bound_response_of_stored_hash (password username domain : String)
    (challenge challenge₀ : Challenge) (username₀ domain₀ : Option String) :
    ∃ stored bound : Vector UInt8 16,
      (respond .ntHash password challenge₀.toList username₀ domain₀).outcome = .ok stored.toList ∧
      (respond .ntlmV2 password challenge.toList (some username) (some domain)).outcome =
        .ok bound.toList ∧
      (∀ username' domain' : String,
        uppercase username' = uppercase username → domain' = uppercase domain →
        Ntlm.boundResponseOfStored stored username' domain' = .ok bound) ∧
      Ntlm.boundResponseOfStored stored username (uppercase domain) = .ok bound ∧
      (uppercase domain = domain → Ntlm.boundResponseOfStored stored username domain = .ok bound) := by
  have hashed := respond_ntHash password username₀ domain₀ challenge₀
  have sent := respond_ntlmV2 password username domain challenge
  have agree (username' domain' : String) (sameUser : uppercase username' = uppercase username)
      (upper : domain' = uppercase domain) :
      Ntlm.boundResponseOfStored (Ntlm.hash password) username' domain' =
        .ok (Ntlm.boundHash password username domain) := by
    rw [Ntlm.boundResponseOfStored_eq, upper]
    rw [Ntlm.boundHash_eq_boundHashOfStored password domain sameUser]
  refine ⟨Ntlm.hash password, Ntlm.boundHash password username domain,
    congrArg Traced.outcome hashed, congrArg Traced.outcome sent, agree, ?_, ?_⟩
  · exact agree username (uppercase domain) rfl rfl
  · intro upper
    exact agree username domain rfl upper.symm

/-- A username that grows in uppercase, and a domain that is in uppercase already. -/
theorem bound_response_of_stored_hash_strasse :
    uppercase "STRASSE" = uppercase "straße" ∧ uppercase "ÄRA" = "ÄRA" ∧
    ∃ stored bound : Vector UInt8 16,
      (respond .ntHash "Password" [1, 2, 3, 4, 5, 6, 7, 8] none none).outcome = .ok stored.toList ∧
      (respond .ntlmV2 "Password" [8, 7, 6, 5, 4, 3, 2, 1] (some "straße") (some "ÄRA")).outcome =
        .ok bound.toList ∧
      Ntlm.boundResponseOfStored stored "STRASSE" "ÄRA" = .ok bound ∧
      Ntlm.boundResponseOfStored stored "straße" "ÄRA" = .ok bound := by
  have sameUser : uppercase "STRASSE" = uppercase "straße" := by decide +kernel
  have upper : uppercase "ÄRA" = "ÄRA" := by decide +kernel
  obtain ⟨stored, bound, hashed, sent, agree, -, unchanged⟩ :=
    bound_response_of_stored_hash "Password" "straße" "ÄRA" #v[8, 7, 6, 5, 4, 3, 2, 1]
      #v[1, 2, 3, 4, 5, 6, 7, 8] none none
  exact ⟨sameUser, upper, stored, bound, hashed, sent, agree "STRASSE" "ÄRA" sameUser upper.symm,
    unchanged upper⟩

end LanAuth
