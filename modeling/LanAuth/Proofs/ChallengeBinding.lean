/-
Module: LanAuth.Proofs.ChallengeBinding
Layer: Proofs
Purpose: Every block of a response binds the challenge. Each block of what is sent is the challenge
  encrypted under a key that the challenge has no part in, so two responses that agree in a single block
  answer the same challenge, and every value of a block answers some challenge.
Imports: LanAuth.Proofs.Response, LanAuth.Proofs.Des.Inverse
Trusted boundary: none
Main exports: blockAt_chain_eq_iff, every_block_binds_the_challenge
Open obligations: none
-/
import LanAuth.Proofs.Response
import LanAuth.Proofs.Des.Inverse

namespace LanAuth

theorem blockAt_chain_eq_iff {n : Nat} (material : List UInt8) (block block' : Vector UInt8 8)
    (place : Fin n) :
    blockAt place (chain material block n) = blockAt place (chain material block' n) ↔
      block = block' := by
  rw [blockAt_chain, blockAt_chain]
  exact Des.encrypt_eq_iff (chunkKey material place) block block'

/-- Each of the three blocks of a LAN Manager or an NTLM response, or of an answer from any material, tells
    challenges apart, as both halves of the one-way function tell their inputs apart. From a challenge to a
    block of the answer is a bijection, undone by decryption under the key that the code derives there. -/
theorem every_block_binds_the_challenge :
    (∀ (password : String) (username domain username' domain' : Option String)
        (challenge challenge' : Challenge), ∃ response response' : Vector UInt8 24,
      (respond .lanMan password challenge.toList username domain).outcome = .ok response.toList ∧
      (respond .lanMan password challenge'.toList username' domain').outcome =
        .ok response'.toList ∧
      ∀ place : Fin 3, blockAt place response = blockAt place response' ↔ challenge = challenge') ∧
    (∀ (password : String) (username domain username' domain' : Option String)
        (challenge challenge' : Challenge), ∃ response response' : Vector UInt8 24,
      (respond .ntlmV1 password challenge.toList username domain).outcome = .ok response.toList ∧
      (respond .ntlmV1 password challenge'.toList username' domain').outcome =
        .ok response'.toList ∧
      ∀ place : Fin 3, blockAt place response = blockAt place response' ↔ challenge = challenge') ∧
    (∀ (material : Vector UInt8 21) (challenge challenge' : Challenge),
        ∃ response response' : Vector UInt8 24,
      (answer material challenge).outcome = .ok response ∧
      (answer material challenge').outcome = .ok response' ∧
      ∀ place : Fin 3, blockAt place response = blockAt place response' ↔ challenge = challenge') ∧
    (∀ (password : String) (seed seed' : Vector UInt8 8), ∃ halves halves' : Vector UInt8 16,
      (LanMan.oneWay password seed).outcome = .ok halves ∧
      (LanMan.oneWay password seed').outcome = .ok halves' ∧
      ∀ place : Fin 2, blockAt place halves = blockAt place halves' ↔ seed = seed') ∧
    (∀ (material : Vector UInt8 21) (place : Fin 3), ∃ key : Vector UInt8 8,
      (deriveKey material.toList (UInt64.ofNat (7 * place.val))).outcome = .ok key ∧
      ∃ block : Challenge → Vector UInt8 8,
        (∀ challenge, ∃ response : Vector UInt8 24,
          (answer material challenge).outcome = .ok response ∧
          blockAt place response = block challenge) ∧
        Function.Bijective block ∧
        Function.LeftInverse (Des.decrypt key) block ∧
        Function.RightInverse (Des.decrypt key) block) := by
  refine ⟨?_, ?_, ?_, ?_, ?_⟩
  · intro password username domain username' domain' challenge challenge'
    have made := LanMan.keyMaterial_eq password
    have sent := respond_lanMan password username domain made challenge
    have sent' := respond_lanMan password username' domain' made challenge'
    refine ⟨_, _, congrArg Traced.outcome sent, congrArg Traced.outcome sent', ?_⟩
    exact blockAt_chain_eq_iff _ challenge challenge'
  · intro password username domain username' domain' challenge challenge'
    have sent := respond_ntlmV1 password username domain challenge
    have sent' := respond_ntlmV1 password username' domain' challenge'
    refine ⟨_, _, congrArg Traced.outcome sent, congrArg Traced.outcome sent', ?_⟩
    exact blockAt_chain_eq_iff _ challenge challenge'
  · intro material challenge challenge'
    have answered := answer_eq material challenge
    have answered' := answer_eq material challenge'
    refine ⟨_, _, congrArg Traced.outcome answered, congrArg Traced.outcome answered', ?_⟩
    exact blockAt_chain_eq_iff material.toList challenge challenge'
  · intro password seed seed'
    have made := LanMan.keyMaterial_eq password
    have hashed := LanMan.oneWay_eq made seed
    have hashed' := LanMan.oneWay_eq made seed'
    refine ⟨_, _, congrArg Traced.outcome hashed, congrArg Traced.outcome hashed', ?_⟩
    exact blockAt_chain_eq_iff _ seed seed'
  · intro material place
    have derived := deriveKey_outcome material (by decide) (by decide) place
    refine ⟨_, derived, Des.encrypt (chunkKey material.toList place), ?_, ?_, ?_, ?_⟩
    · intro challenge
      have answered := answer_eq material challenge
      refine ⟨_, congrArg Traced.outcome answered, ?_⟩
      exact blockAt_chain material.toList challenge place
    · exact Des.encrypt_bijective (chunkKey material.toList place)
    · exact Des.decrypt_encrypt (chunkKey material.toList place)
    · exact Des.encrypt_decrypt (chunkKey material.toList place)

end LanAuth
