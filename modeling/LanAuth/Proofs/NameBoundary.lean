/-
Module: LanAuth.Proofs.NameBoundary
Layer: Proofs
Purpose: What the message that names a user and a domain tells. The two names are joined without a mark
  between them, so the message tells everything about them but where the one ends and the other begins. Two
  pairs of names that differ in uppercase make the same message exactly if characters were moved from one
  name to the other; every other coincidence of responses is a collision of the authentication code.
Imports: LanAuth.Proofs.Response, LanAuth.Proofs.Text.Utf16
Trusted boundary: none
Main exports: Digest.Collision, Ntlm.HandsOver, Ntlm.BoundaryMoved, Text.append_eq_append_iff,
  Ntlm.identity_eq_iff_boundaryMoved, Ntlm.identity_ne_of_length_eq, names_bind_up_to_their_boundary,
  names_across_their_boundary
Open obligations: none
-/
import LanAuth.Proofs.Response
import LanAuth.Proofs.Text.Utf16

namespace LanAuth

open Text (uppercase)

/-- Two messages that the code under the key does not tell apart. -/
def Digest.Collision (key message message' : List UInt8) : Prop :=
  message ≠ message' ∧ hmacMd5 key [message] = hmacMd5 key [message']

/-- Joined texts are the same if one of the first two goes on where the other ends, and the second two make
    up for it. -/
theorem Text.append_eq_append_iff {front back front' back' : String} :
    front ++ back = front' ++ back' ↔
      (∃ middle, front' = front ++ middle ∧ back = middle ++ back') ∨
        ∃ middle, front = front' ++ middle ∧ back' = middle ++ back := by
  constructor
  · intro same
    have listed : front.toList ++ back.toList = front'.toList ++ back'.toList := by
      rw [← String.toList_append, same, String.toList_append]
    rcases List.append_eq_append_iff.mp listed with ⟨middle, later, earlier⟩ | ⟨middle, later, earlier⟩
    · refine .inl ⟨String.ofList middle, ?_, ?_⟩
      · exact String.toList_injective (by simpa using later)
      · exact String.toList_injective (by simpa using earlier)
    · refine .inr ⟨String.ofList middle, ?_, ?_⟩
      · exact String.toList_injective (by simpa using later)
      · exact String.toList_injective (by simpa using earlier)
  · rintro (⟨middle, rfl, rfl⟩ | ⟨middle, rfl, rfl⟩)
    · rw [String.append_assoc]
    · rw [String.append_assoc]

namespace Ntlm

/-- In uppercase, the second pair of names is the first with characters taken from the end of the username,
    one at least, and put in front of the domain. -/
def HandsOver (username domain username' domain' : String) : Prop :=
  ∃ moved : String, moved ≠ "" ∧ uppercase username = uppercase username' ++ moved ∧
    uppercase domain' = moved ++ uppercase domain

/-- The two pairs of names differ in the place of the boundary between them alone. -/
def BoundaryMoved (username domain username' domain' : String) : Prop :=
  HandsOver username domain username' domain' ∨ HandsOver username' domain' username domain

variable {username domain username' domain' : String}

/-!
### The message

Text has one encoding, so two messages are the same if the joined names are.
-/

theorem identity_eq_iff :
    identity username domain = identity username' domain' ↔
      uppercase username ++ uppercase domain = uppercase username' ++ uppercase domain' :=
  Text.Utf16.encode_inj

theorem HandsOver.identity_eq (handed : HandsOver username domain username' domain') :
    identity username domain = identity username' domain' := by
  obtain ⟨moved, -, shorter, longer⟩ := handed
  rw [identity_eq_iff, shorter, longer, String.append_assoc]

theorem BoundaryMoved.identity_eq (moved : BoundaryMoved username domain username' domain') :
    identity username domain = identity username' domain' := by
  rcases moved with handed | handed
  · exact handed.identity_eq
  · exact handed.identity_eq.symm

/-- Names that are handed over have one longer and one shorter uppercase. -/
theorem HandsOver.length_lt (handed : HandsOver username domain username' domain') :
    (uppercase username').length < (uppercase username).length ∧
      (uppercase domain).length < (uppercase domain').length := by
  obtain ⟨moved, nonempty, shorter, longer⟩ := handed
  have counted : moved.length ≠ 0 := by simpa using nonempty
  rw [shorter, longer, String.length_append, String.length_append]
  omega

section Different

variable (different : uppercase username ≠ uppercase username' ∨ uppercase domain ≠ uppercase domain')
include different

theorem identity_eq_iff_boundaryMoved :
    identity username domain = identity username' domain' ↔
      BoundaryMoved username domain username' domain' := by
  constructor
  · intro same
    rcases Text.append_eq_append_iff.mp (identity_eq_iff.mp same) with
      ⟨middle, later, earlier⟩ | ⟨middle, later, earlier⟩
    · refine .inr ⟨middle, ?_, later, earlier⟩
      rintro rfl
      simp [later, earlier] at different
    · refine .inl ⟨middle, ?_, later, earlier⟩
      rintro rfl
      simp [later, earlier] at different
  · exact BoundaryMoved.identity_eq

/-- Different names make different messages if the usernames, or the domains, are equally long in
    uppercase; so they do if one of the two names stays as it is. -/
theorem identity_ne_of_length_eq
    (long : (uppercase username).length = (uppercase username').length ∨
      (uppercase domain).length = (uppercase domain').length) :
    identity username domain ≠ identity username' domain' := by
  rw [Ne, identity_eq_iff_boundaryMoved different]
  rintro (handed | handed)
  · have lengths := handed.length_lt
    omega
  · have lengths := handed.length_lt
    omega

end Different

end Ntlm

/-- The bound response authenticates the joined names, in uppercase, under the hash of the password. Pairs of
    names that differ beyond their case make different messages, except where characters were moved across
    the boundary between the names; and except there, their responses are the same only by a collision of
    the code. -/
theorem names_bind_up_to_their_boundary (password username domain username' domain' : String)
    (challenge : Challenge)
    (different : uppercase username ≠ uppercase username' ∨ uppercase domain ≠ uppercase domain') :
    ∃ bound bound' : Vector UInt8 16,
      (respond .ntlmV2 password challenge.toList (some username) (some domain)).outcome =
        .ok bound.toList ∧
      (respond .ntlmV2 password challenge.toList (some username') (some domain')).outcome =
        .ok bound'.toList ∧
      bound = Digest.hmacMd5 (Ntlm.hash password).toList [Ntlm.identity username domain] ∧
      bound' = Digest.hmacMd5 (Ntlm.hash password).toList [Ntlm.identity username' domain'] ∧
      (Ntlm.identity username domain = Ntlm.identity username' domain' ↔
        Ntlm.BoundaryMoved username domain username' domain') ∧
      ((uppercase username).length = (uppercase username').length ∨
          (uppercase domain).length = (uppercase domain').length →
        Ntlm.identity username domain ≠ Ntlm.identity username' domain') ∧
      (bound = bound' ↔
        Ntlm.BoundaryMoved username domain username' domain' ∨
          Digest.Collision (Ntlm.hash password).toList (Ntlm.identity username domain)
            (Ntlm.identity username' domain')) := by
  have sent := respond_ntlmV2 password username domain challenge
  have sent' := respond_ntlmV2 password username' domain' challenge
  have told := Ntlm.identity_eq_iff_boundaryMoved different
  refine ⟨_, _, congrArg Traced.outcome sent, congrArg Traced.outcome sent', rfl, rfl, told,
    Ntlm.identity_ne_of_length_eq different, ?_⟩
  constructor
  · intro same
    by_cases moved : Ntlm.BoundaryMoved username domain username' domain'
    · exact .inl moved
    · exact .inr ⟨fun message => moved (told.mp message), same⟩
  · rintro (moved | ⟨-, collide⟩)
    · unfold Ntlm.boundHash
      rw [moved.identity_eq]
    · exact collide

/-- A username that stays as it is and a domain that grows: the messages are different. -/
theorem names_bind_up_to_their_boundary_longer_domain :
    uppercase "ära" ≠ uppercase "äras" ∧
    Ntlm.identity "straße" "ära" ≠ Ntlm.identity "STRASSE" "äras" ∧
    ∃ bound bound' : Vector UInt8 16,
      (respond .ntlmV2 "Password" [1, 2, 3, 4, 5, 6, 7, 8] (some "straße") (some "ära")).outcome =
        .ok bound.toList ∧
      (respond .ntlmV2 "Password" [1, 2, 3, 4, 5, 6, 7, 8] (some "STRASSE") (some "äras")).outcome =
        .ok bound'.toList ∧
      (bound = bound' → Digest.Collision (Ntlm.hash "Password").toList
        (Ntlm.identity "straße" "ära") (Ntlm.identity "STRASSE" "äras")) := by
  have different : uppercase "ära" ≠ uppercase "äras" := by decide +kernel
  have long : (uppercase "straße").length = (uppercase "STRASSE").length := by decide +kernel
  obtain ⟨bound, bound', sent, sent', -, -, told, apart, coincide⟩ :=
    names_bind_up_to_their_boundary "Password" "straße" "ära" "STRASSE" "äras"
      #v[1, 2, 3, 4, 5, 6, 7, 8] (.inr different)
  refine ⟨different, apart (.inl long), bound, bound', sent, sent', ?_⟩
  intro same
  rcases coincide.mp same with moved | collide
  · exact absurd (told.mpr moved) (apart (.inl long))
  · exact collide

/-- A character moved from the username to the domain does not show: the names differ, but neither the
    message nor the response does. -/
theorem names_across_their_boundary :
    uppercase "ab" ≠ uppercase "a" ∧ uppercase "c" ≠ uppercase "bc" ∧
    Ntlm.identity "ab" "c" = Ntlm.identity "a" "bc" ∧
    respond .ntlmV2 "Password" [1, 2, 3, 4, 5, 6, 7, 8] (some "ab") (some "c") =
      respond .ntlmV2 "Password" [1, 2, 3, 4, 5, 6, 7, 8] (some "a") (some "bc") := by
  have message : Ntlm.identity "ab" "c" = Ntlm.identity "a" "bc" := by decide +kernel
  have sent := respond_ntlmV2 "Password" "ab" "c" #v[1, 2, 3, 4, 5, 6, 7, 8]
  have sent' := respond_ntlmV2 "Password" "a" "bc" #v[1, 2, 3, 4, 5, 6, 7, 8]
  refine ⟨by decide +kernel, by decide +kernel, message, ?_⟩
  rw [Ntlm.boundHash, message] at sent
  exact sent.trans sent'.symm

end LanAuth
