/-
Module: LanAuth.Proofs.CaseInsensitivity
Layer: Proofs
Purpose: Where the case of a text does not matter: in the username and the domain of a response that is bound
  to them, in the username that a stored hash is bound to, and in the password of the LAN Manager scheme.
  Each of these texts is used in uppercase alone, and no change of case shows there.
Imports: LanAuth.Proofs.KeyMaterial, LanAuth.Proofs.Text.CaseChange
Trusted boundary: none
Main exports: LanMan.keyMaterial_congr, Ntlm.boundResponse_congr, Ntlm.boundResponseOfStored_congr,
  respond_ntlmV2_congr, responses_ignore_case
Open obligations: none
-/
import LanAuth.Proofs.KeyMaterial
import LanAuth.Proofs.Text.CaseChange

namespace LanAuth

open Text (uppercase CaseChange recase uppercase_recase)

theorem LanMan.keyMaterial_congr {password password' : String}
    (same : uppercase password = uppercase password') :
    keyMaterial password = keyMaterial password' := by
  rw [keyMaterial_eq, keyMaterial_eq, same]

namespace Ntlm

variable {username username' : String} (sameUser : uppercase username = uppercase username')
include sameUser

theorem boundResponse_congr (password : String) {domain domain' : String}
    (sameDomain : uppercase domain = uppercase domain') :
    boundResponse password username domain = boundResponse password username' domain' := by
  unfold boundResponse identity
  rw [sameUser, sameDomain]

theorem boundResponseOfStored_congr (stored : Vector UInt8 16) (domain : String) :
    boundResponseOfStored stored username domain =
      boundResponseOfStored stored username' domain := by
  unfold boundResponseOfStored
  rw [sameUser]

end Ntlm

theorem respond_ntlmV2_congr (password : String) (challenge : List UInt8)
    {username username' domain domain' : String} (sameUser : uppercase username = uppercase username')
    (sameDomain : uppercase domain = uppercase domain') :
    respond .ntlmV2 password challenge (some username) (some domain) =
      respond .ntlmV2 password challenge (some username') (some domain') := by
  have sent := Ntlm.boundResponse_congr sameUser password sameDomain
  unfold respond
  simp only [demand, pure_bind, sent]

/-- Uppercase is idempotent, and the case of the names, and of a LAN Manager password, does not matter. The
    bound response is the same after any changes of the username and any changes of the domain, and the one
    from a stored hash after any changes of the username; the one-way function of the password, its hash
    and the LAN Manager responses are the same after any changes of the password. -/
theorem responses_ignore_case :
    (∀ text : String, uppercase (uppercase text) = uppercase text) ∧
    (∀ (password : String) (challenge : List UInt8) (username domain : String)
        (changes changes' : List CaseChange),
      respond .ntlmV2 password challenge (some (recase changes username))
          (some (recase changes' domain)) =
        respond .ntlmV2 password challenge (some username) (some domain)) ∧
    (∀ (stored : Vector UInt8 16) (username domain : String) (changes : List CaseChange),
      Ntlm.boundResponseOfStored stored (recase changes username) domain =
        Ntlm.boundResponseOfStored stored username domain) ∧
    (∀ (password : String) (changes : List CaseChange),
      (∀ seed : Vector UInt8 8,
        LanMan.oneWay (recase changes password) seed = LanMan.oneWay password seed) ∧
      LanMan.hash (recase changes password) = LanMan.hash password ∧
      (∀ challenge : Challenge,
        LanMan.response (recase changes password) challenge = LanMan.response password challenge) ∧
      ∀ (challenge : List UInt8) (username domain : Option String),
        respond .lanMan (recase changes password) challenge username domain =
          respond .lanMan password challenge username domain) := by
  refine ⟨Text.uppercase_uppercase, ?_, ?_, ?_⟩
  · intro password challenge username domain changes changes'
    apply respond_ntlmV2_congr
    · exact uppercase_recase changes username
    · exact uppercase_recase changes' domain
  · intro stored username domain changes
    exact Ntlm.boundResponseOfStored_congr (uppercase_recase changes username) stored domain
  · intro password changes
    have same := LanMan.keyMaterial_congr (uppercase_recase changes password)
    refine ⟨?_, ?_, ?_, ?_⟩
    · exact LanMan.oneWay_congr same
    · exact LanMan.hash_congr same
    · exact LanMan.response_congr same
    · exact LanMan.respond_lanMan_congr same

end LanAuth
