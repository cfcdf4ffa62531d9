/-
Module: LanAuth.Proofs.Response
Layer: Proofs
Purpose: What a response logs and yields, for each scheme and for each way in which its inputs can be
  refused. Together the equations cover every request, so nothing else has to open `respond`.
Imports: LanAuth.Response, LanAuth.Proofs.Chaining, LanAuth.Proofs.Digest.Authentication
Trusted boundary: none
Main exports: challengeOfBytes_toList, exists_challenge, Ntlm.boundResponse_eq,
  Ntlm.boundResponseOfStored_eq, respond_lanMan, respond_ntlmV1, respond_ntlmV2, respond_ntHash,
  respond_without_username, respond_without_domain, respond_of_length_ne
Open obligations: none
-/
import LanAuth.Response
import LanAuth.Proofs.Chaining
import LanAuth.Proofs.Digest.Authentication

namespace LanAuth

namespace Traced

variable {α β : Type}

theorem record_bind (event : Event) (f : Unit → Traced β) :
    record event >>= f = ⟨event :: (f ()).log, (f ()).outcome⟩ := rfl

theorem ofExcept_ok_bind (value : α) (f : α → Traced β) :
    ofExcept (.ok value) >>= f = f value := rfl

theorem ofExcept_error_bind (error : HashError) (f : α → Traced β) :
    ofExcept (.error error) >>= f = ⟨[], .error (.refused error)⟩ := rfl

end Traced

theorem challengeOfBytes_toList (challenge : Challenge) :
    challengeOfBytes challenge.toList = .ok challenge := by
  have fits : challenge.toList.length = challengeLength := Vector.length_toList
  unfold challengeOfBytes
  rw [dif_pos fits]
  rfl

/-- Every string of bytes of the right number is a challenge's. -/
theorem exists_challenge {bytes : List UInt8} (fits : bytes.length = challengeLength) :
    ∃ challenge : Challenge, challenge.toList = bytes :=
  ⟨⟨bytes.toArray, by simpa using fits⟩, rfl⟩

theorem challengeOfBytes_of_length_ne {bytes : List UInt8} (wrong : bytes.length ≠ challengeLength) :
    challengeOfBytes bytes = .error (.unmet (.challengeLength bytes.length)) := by
  unfold challengeOfBytes
  rw [dif_neg wrong]

namespace Ntlm

theorem boundResponse_eq (password username domain : String) :
    boundResponse password username domain = .ok (boundHash password username domain) :=
  Digest.checkedHmacMd5_eq (hash password).toList [identity username domain]

theorem boundResponseOfStored_eq (stored : Vector UInt8 16) (username domain : String) :
    boundResponseOfStored stored username domain = .ok (boundHashOfStored stored username domain) :=
  Digest.checkedHmacMd5_eq stored.toList
    [Text.Utf16.encode (Text.uppercase username), Text.Utf16.encode domain]

end Ntlm

variable (password : String) (username domain : Option String)

/-- A challenge of the wrong length is refused before anything is logged, for every scheme. -/
theorem respond_of_length_ne (scheme : Scheme) {challenge : List UInt8}
    (wrong : challenge.length ≠ challengeLength) :
    respond scheme password challenge username domain =
      ⟨[], .error (.refused (.unmet (.challengeLength challenge.length)))⟩ := by
  unfold respond
  rw [challengeOfBytes_of_length_ne wrong, Traced.ofExcept_error_bind]

theorem respond_lanMan {material : Vector UInt8 14} (made : LanMan.keyMaterial password = .ok material)
    (challenge : Challenge) :
    respond .lanMan password challenge.toList username domain =
      ⟨.computing .lanMan :: (chainLog 2 ++ chainLog 3),
        .ok (chain (extendHash (chain material.toList LanMan.magic 2)).toList challenge 3).toList⟩ := by
  unfold respond
  rw [challengeOfBytes_toList, Traced.ofExcept_ok_bind, Traced.record_bind,
    LanMan.response_eq made, Traced.mk_ok_bind]
  simp only [Traced.log_pure, Traced.outcome_pure, List.append_nil]

theorem respond_ntlmV1 (challenge : Challenge) :
    respond .ntlmV1 password challenge.toList username domain =
      ⟨.computing .ntlmV1 :: chainLog 3,
        .ok (chain (extendHash (Ntlm.hash password)).toList challenge 3).toList⟩ := by
  unfold respond
  rw [challengeOfBytes_toList, Traced.ofExcept_ok_bind, Traced.record_bind, Ntlm.response_eq,
    Traced.mk_ok_bind]
  simp only [Traced.log_pure, Traced.outcome_pure, List.append_nil]

theorem respond_ntlmV2 (username domain : String) (challenge : Challenge) :
    respond .ntlmV2 password challenge.toList (some username) (some domain) =
      ⟨[.computing .ntlmV2], .ok (Ntlm.boundHash password username domain).toList⟩ := by
  unfold respond
  rw [challengeOfBytes_toList]
  simp only [Ntlm.boundResponse_eq]
  rfl

theorem respond_ntHash (challenge : Challenge) :
    respond .ntHash password challenge.toList username domain =
      ⟨[.computing .ntHash], .ok (Ntlm.hash password).toList⟩ := by
  unfold respond
  rw [challengeOfBytes_toList]
  rfl

/-- The username is demanded first, whether or not there is a domain. -/
theorem respond_without_username (challenge : Challenge) :
    respond .ntlmV2 password challenge.toList none domain =
      ⟨[.computing .ntlmV2], .error (.refused (.unmet .missingUsername))⟩ := by
  unfold respond
  rw [challengeOfBytes_toList]
  rfl

theorem respond_without_domain (username : String) (challenge : Challenge) :
    respond .ntlmV2 password challenge.toList (some username) none =
      ⟨[.computing .ntlmV2], .error (.refused (.unmet .missingDomain))⟩ := by
  unfold respond
  rw [challengeOfBytes_toList]
  rfl

end LanAuth
