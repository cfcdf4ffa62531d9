/-
Module: LanAuth.Response
Layer: Schemes
Purpose: What a client sends, for any of the schemes: the inputs that the scheme demands are checked, and
  the computation leaves its trace.
Imports: LanAuth.LanMan, LanAuth.Ntlm
Trusted boundary: none
Main exports: respond, respondByCode
Open obligations: none
-/
import LanAuth.LanMan
import LanAuth.Ntlm

namespace LanAuth

/-- An input that a scheme may demand; without it, the computation is refused. -/
def demand {α : Type} (requirement : Requirement) : Option α → Traced α
  | some value => pure value
  | none => Traced.refuse (.unmet requirement)

/-- The encrypted password for a scheme. Every scheme demands a challenge of the right length, also the one
    that does not use it; only the hash bound to a name demands the name. -/
def respond (scheme : Scheme) (password : String) (challenge : List UInt8)
    (username domain : Option String) : Traced (List UInt8) := do
  let challenge ← Traced.ofExcept (challengeOfBytes challenge)
  Traced.record (.computing scheme)
  match scheme with
  | .lanMan => return (← LanMan.response password challenge).toList
  | .ntlmV1 => return (← Ntlm.response password challenge).toList
  | .ntlmV2 =>
      let username ← demand .missingUsername username
      let domain ← demand .missingDomain domain
      return (← Traced.ofExcept (Ntlm.boundResponse password username domain)).toList
  | .ntHash => return (Ntlm.hash password).toList

/-- The encrypted password for the scheme that a code stands for. -/
def respondByCode (code : Int) (password : String) (challenge : List UInt8)
    (username domain : Option String) : Traced (List UInt8) := do
  let scheme ← Traced.ofExcept (Scheme.ofCode code)
  respond scheme password challenge username domain

end LanAuth
