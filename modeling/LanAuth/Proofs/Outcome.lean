/-
Module: LanAuth.Proofs.Outcome
Layer: Proofs
Purpose: What a request yields, for every code, password, challenge and names. The first demand that the
  request does not meet decides what it is refused for, and a request that meets all of them is answered
  with the number of bytes that its scheme has. There is no other way for it to end: inside, each key lies
  in the material it is taken from, and no key is refused.
Imports: LanAuth.Proofs.Response
Trusted boundary: none
Main exports: Scheme.ofCode_of_known, Scheme.ofCode_of_unknown, respond_of_met, respondByCode_cases,
  keys_are_taken, respondByCode_outcome
Open obligations: none
-/
import LanAuth.Proofs.Response

namespace LanAuth

namespace Scheme

/-- The codes from 0 to 3 are those that a scheme has. -/
theorem ofCode_of_known {code : Int} (known : 0 ≤ code ∧ code ≤ 3) :
    ∃ scheme : Scheme, scheme.code = code ∧ ofCode code = .ok scheme := by
  obtain rfl | rfl | rfl | rfl : code = 0 ∨ code = 1 ∨ code = 2 ∨ code = 3 := by omega
  · exact ⟨.lanMan, rfl, rfl⟩
  · exact ⟨.ntlmV1, rfl, rfl⟩
  · exact ⟨.ntlmV2, rfl, rfl⟩
  · exact ⟨.ntHash, rfl, rfl⟩

theorem ofCode_of_unknown {code : Int} (unknown : ¬ (0 ≤ code ∧ code ≤ 3)) :
    ofCode code = .error (.unmet (.unknownScheme code)) := by
  cases found : ofCode? code with
  | none =>
      unfold ofCode
      rw [found]
  | some scheme =>
      have own := code_of_ofCode? found
      cases scheme <;> simp only [Scheme.code] at own <;> omega

end Scheme

variable (code : Int) (password : String) (challenge : List UInt8) (username domain : Option String)

/-!
### Requests

A response fails only for a demand that its inputs do not meet, so a request can be sorted by its inputs
alone.
-/

/-- A response to a challenge, with the names that its scheme demands, has the length of the scheme. -/
theorem respond_of_met (scheme : Scheme) (challenge : Challenge)
    (named : scheme = .ntlmV2 → username ≠ none ∧ domain ≠ none) :
    ∃ bytes, (respond scheme password challenge.toList username domain).outcome = .ok bytes ∧
      bytes.length = scheme.outputLength := by
  cases scheme with
  | lanMan =>
      have sent := respond_lanMan password username domain (LanMan.keyMaterial_eq password) challenge
      exact ⟨_, congrArg Traced.outcome sent, Vector.length_toList⟩
  | ntlmV1 =>
      have sent := respond_ntlmV1 password username domain challenge
      exact ⟨_, congrArg Traced.outcome sent, Vector.length_toList⟩
  | ntlmV2 =>
      obtain ⟨hasUsername, hasDomain⟩ := named rfl
      obtain ⟨username, rfl⟩ := Option.ne_none_iff_exists'.mp hasUsername
      obtain ⟨domain, rfl⟩ := Option.ne_none_iff_exists'.mp hasDomain
      have sent := respond_ntlmV2 password username domain challenge
      exact ⟨_, congrArg Traced.outcome sent, Vector.length_toList⟩
  | ntHash =>
      have sent := respond_ntHash password username domain challenge
      exact ⟨_, congrArg Traced.outcome sent, Vector.length_toList⟩

theorem respondByCode_of_ofCode {scheme : Scheme} (found : Scheme.ofCode code = .ok scheme) :
    respondByCode code password challenge username domain =
      respond scheme password challenge username domain := by
  unfold respondByCode
  rw [found, Traced.ofExcept_ok_bind]

/-- The five ways in which a request can end, each with the inputs that lead to it. -/
theorem respondByCode_cases :
    (¬ (0 ≤ code ∧ code ≤ 3) ∧
      (respondByCode code password challenge username domain).outcome =
        .error (.refused (.unmet (.unknownScheme code)))) ∨
    ((0 ≤ code ∧ code ≤ 3) ∧ challenge.length ≠ 8 ∧
      (respondByCode code password challenge username domain).outcome =
        .error (.refused (.unmet (.challengeLength challenge.length)))) ∨
    (code = 2 ∧ challenge.length = 8 ∧ username = none ∧
      (respondByCode code password challenge username domain).outcome =
        .error (.refused (.unmet .missingUsername))) ∨
    (code = 2 ∧ challenge.length = 8 ∧ username ≠ none ∧ domain = none ∧
      (respondByCode code password challenge username domain).outcome =
        .error (.refused (.unmet .missingDomain))) ∨
    ((0 ≤ code ∧ code ≤ 3) ∧ challenge.length = 8 ∧
      (code = 2 → username ≠ none ∧ domain ≠ none) ∧
      ∃ scheme bytes, Scheme.ofCode code = .ok scheme ∧
        (respondByCode code password challenge username domain).outcome = .ok bytes ∧
        bytes.length = scheme.outputLength) := by
  by_cases known : 0 ≤ code ∧ code ≤ 3
  · obtain ⟨scheme, rfl, found⟩ := Scheme.ofCode_of_known known
    rw [respondByCode_of_ofCode scheme.code password challenge username domain found]
    by_cases fits : challenge.length = 8
    · obtain ⟨taken, rfl⟩ := exists_challenge fits
      by_cases named : scheme = .ntlmV2 → username ≠ none ∧ domain ≠ none
      · obtain ⟨bytes, sent, length⟩ := respond_of_met password username domain scheme taken named
        have asked : scheme.code = 2 → username ≠ none ∧ domain ≠ none := by
          intro two
          apply named
          cases scheme <;> simp [Scheme.code] at two ⊢
        exact .inr (.inr (.inr (.inr ⟨known, fits, asked, scheme, bytes, found, sent, length⟩)))
      · obtain ⟨rfl, missing⟩ := Classical.not_imp.mp named
        cases username with
        | none =>
            have refused := respond_without_username password domain taken
            exact .inr (.inr (.inl ⟨rfl, fits, rfl, congrArg Traced.outcome refused⟩))
        | some username =>
            obtain rfl : domain = none := by simpa using missing
            have refused := respond_without_domain password username taken
            exact .inr (.inr (.inr (.inl ⟨rfl, fits, by simp, rfl, congrArg Traced.outcome refused⟩)))
    · have refused := respond_of_length_ne password username domain scheme fits
      exact .inr (.inl ⟨known, fits, congrArg Traced.outcome refused⟩)
  · refine .inl ⟨known, ?_⟩
    unfold respondByCode
    rw [Scheme.ofCode_of_unknown known, Traced.ofExcept_error_bind]

/-!
### Keys

Why no request ends in a refused key or outside its material.
-/

/-- Every key of a chain lies in the material, and the cipher takes it. -/
theorem keys_are_taken {m n : Nat} (material : Vector UInt8 m) (small : m < UInt64.size)
    (enough : 7 * n ≤ m) (place : Fin n) (block : Vector UInt8 8) :
    ∃ key : Vector UInt8 8,
      (deriveKey material.toList (UInt64.ofNat (7 * place.val))).outcome = .ok key ∧
      ∃ encrypted, (encryptBlock key.toList block).outcome = .ok encrypted := by
  have derived := deriveKey_outcome material small enough place
  have taken := encryptBlock_toList (chunkKey material.toList place) block
  exact ⟨_, derived, _, congrArg Traced.outcome taken⟩

/-- What a request yields. The first demand that it does not meet is what it is refused for: a code that a
    scheme has, then a challenge of eight bytes for every scheme, then a username and then a domain for the
    one scheme that is bound to them. If it meets all, it is answered with as many bytes as its scheme has.
    It ends in no other way, as every computation inside yields a value, on all of its inputs: no password
    lacks a form in the encoding, each key lies in its material and is taken by the cipher, and every key
    of an authentication code fills a block. -/
theorem respondByCode_outcome :
    (∀ (code : Int) (password : String) (challenge : List UInt8) (username domain : Option String),
      ((respondByCode code password challenge username domain).outcome =
          .error (.refused (.unmet (.unknownScheme code))) ↔ ¬ (0 ≤ code ∧ code ≤ 3)) ∧
      ((respondByCode code password challenge username domain).outcome =
          .error (.refused (.unmet (.challengeLength challenge.length))) ↔
        (0 ≤ code ∧ code ≤ 3) ∧ challenge.length ≠ 8) ∧
      ((respondByCode code password challenge username domain).outcome =
          .error (.refused (.unmet .missingUsername)) ↔
        code = 2 ∧ challenge.length = 8 ∧ username = none) ∧
      ((respondByCode code password challenge username domain).outcome =
          .error (.refused (.unmet .missingDomain)) ↔
        code = 2 ∧ challenge.length = 8 ∧ username ≠ none ∧ domain = none) ∧
      ((∃ scheme bytes, Scheme.ofCode code = .ok scheme ∧
          (respondByCode code password challenge username domain).outcome = .ok bytes ∧
          bytes.length = scheme.outputLength) ↔
        (0 ≤ code ∧ code ≤ 3) ∧ challenge.length = 8 ∧
          (code = 2 → username ≠ none ∧ domain ≠ none)) ∧
      ((respondByCode code password challenge username domain).outcome =
          .error (.refused (.unmet (.unknownScheme code))) ∨
        (respondByCode code password challenge username domain).outcome =
          .error (.refused (.unmet (.challengeLength challenge.length))) ∨
        (respondByCode code password challenge username domain).outcome =
          .error (.refused (.unmet .missingUsername)) ∨
        (respondByCode code password challenge username domain).outcome =
          .error (.refused (.unmet .missingDomain)) ∨
        ∃ bytes, (respondByCode code password challenge username domain).outcome = .ok bytes)) ∧
    (∀ password : String, ∃ material, LanMan.keyMaterial password = .ok material) ∧
    (∀ (password : String) (seed : Vector UInt8 8),
      ∃ halves, (LanMan.oneWay password seed).outcome = .ok halves) ∧
    (∀ password : String, ∃ hash, (LanMan.hash password).outcome = .ok hash) ∧
    (∀ (password : String) (challenge : Challenge),
      ∃ response, (LanMan.response password challenge).outcome = .ok response) ∧
    (∀ (material : Vector UInt8 21) (challenge : Challenge),
      ∃ response, (answer material challenge).outcome = .ok response) ∧
    (∀ (material : Vector UInt8 14) (place : Fin 2) (block : Vector UInt8 8),
      ∃ key : Vector UInt8 8,
        (deriveKey material.toList (UInt64.ofNat (7 * place.val))).outcome = .ok key ∧
        ∃ encrypted, (encryptBlock key.toList block).outcome = .ok encrypted) ∧
    (∀ (material : Vector UInt8 21) (place : Fin 3) (block : Vector UInt8 8),
      ∃ key : Vector UInt8 8,
        (deriveKey material.toList (UInt64.ofNat (7 * place.val))).outcome = .ok key ∧
        ∃ encrypted, (encryptBlock key.toList block).outcome = .ok encrypted) ∧
    (∀ (stored : Vector UInt8 16) (username domain : String),
      ∃ hash, Ntlm.boundResponseOfStored stored username domain = .ok hash) ∧
    (∀ (key : List UInt8) (parts : List (List UInt8)),
      (Digest.Hmac.keyBlock Digest.Md5.compression key).length = 64 ∧
      ∃ code, Digest.checkedHmacMd5 key parts = .ok code) := by
  refine ⟨?_, ?_, ?_, ?_, ?_, ?_, ?_, ?_, ?_, ?_⟩
  · intro code password challenge username domain
    rcases respondByCode_cases code password challenge username domain with
      ⟨unknown, refused⟩ | ⟨known, wrong, refused⟩ | ⟨rfl, fits, rfl, refused⟩ |
      ⟨rfl, fits, named, rfl, refused⟩ |
      ⟨known, fits, asked, scheme, bytes, found, sent, length⟩
    · have other : code ≠ 2 := by omega
      simp [refused, unknown, other]
    · simp [refused, known, wrong]
    · simp [refused, fits]
    · simp [refused, fits, named]
    · refine ⟨?_, ?_, ?_, ?_, ?_, ?_⟩
      · simp [sent, known]
      · simp [sent, fits]
      · rw [sent]
        refine ⟨nofun, ?_⟩
        rintro ⟨two, _, nameless⟩
        exact absurd nameless (asked two).1
      · rw [sent]
        refine ⟨nofun, ?_⟩
        rintro ⟨two, _, _, homeless⟩
        exact absurd homeless (asked two).2
      · exact ⟨fun _ => ⟨known, fits, asked⟩, fun _ => ⟨scheme, bytes, found, sent, length⟩⟩
      · exact .inr (.inr (.inr (.inr ⟨bytes, sent⟩)))
  · intro password
    exact ⟨_, LanMan.keyMaterial_eq password⟩
  · intro password seed
    have hashed := LanMan.oneWay_eq (LanMan.keyMaterial_eq password) seed
    exact ⟨_, congrArg Traced.outcome hashed⟩
  · intro password
    have hashed := LanMan.oneWay_eq (LanMan.keyMaterial_eq password) LanMan.magic
    exact ⟨_, congrArg Traced.outcome hashed⟩
  · intro password challenge
    have answered := LanMan.response_eq (LanMan.keyMaterial_eq password) challenge
    exact ⟨_, congrArg Traced.outcome answered⟩
  · intro material challenge
    exact ⟨_, congrArg Traced.outcome (answer_eq material challenge)⟩
  · intro material place block
    exact keys_are_taken material (by decide) (by decide) place block
  · intro material place block
    exact keys_are_taken material (by decide) (by decide) place block
  · intro stored username domain
    exact ⟨_, Ntlm.boundResponseOfStored_eq stored username domain⟩
  · intro key parts
    have fits := Digest.Hmac.length_keyBlock Digest.Md5.compression key
    exact ⟨fits, _, Digest.checkedHmacMd5_eq key parts⟩

end LanAuth
