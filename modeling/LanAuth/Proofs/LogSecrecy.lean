/-
Module: LanAuth.Proofs.LogSecrecy
Layer: Proofs
Purpose: What the log of a response tells. It names the scheme and the ranges of positions that became keys,
  and these are fixed by the scheme, so the log shows the scheme and whether the challenge had the right
  length, but nothing of the password, of the bytes of the challenge or of the names, not even whether a
  name was given.
Imports: LanAuth.Proofs.Response
Trusted boundary: none
Main exports: chunkLines, lines_chainLog, workLog, respond_log, respond_log_eq_of_fits_iff,
  log_shows_scheme_and_length_alone
Open obligations: none
-/
import LanAuth.Proofs.Response

namespace LanAuth

/-!
### Lines

An event is written as one line. A chain writes two lines for each of its chunks, in order, with the range
that the chunk has in the material.
-/

/-- The lines for one block: the range of the material that is its key, and that it was encrypted. -/
def chunkLines (first past : Nat) : List String :=
  ["TRACE deriving DES key from bytes " ++ first.repr ++ ".." ++ past.repr,
    "TRACE encrypted one DES block"]

theorem line_computing (scheme : Scheme) :
    (Event.computing scheme).line = "DEBUG computing " ++ scheme.name ++ " encrypted password" := by
  cases scheme <;> rfl

theorem line_derivingKey (first past : UInt64) :
    (Event.derivingKey first past).line =
      "TRACE deriving DES key from bytes " ++ first.toNat.repr ++ ".." ++ past.toNat.repr := by
  have opening : "TRACE" ++ " " ++ "deriving DES key from bytes " =
      "TRACE deriving DES key from bytes " := rfl
  calc (Event.derivingKey first past).line
      = "TRACE" ++ " " ++
          ("deriving DES key from bytes " ++ first.toNat.repr ++ ".." ++ past.toNat.repr) := rfl
    _ = "TRACE" ++ " " ++ "deriving DES key from bytes " ++ first.toNat.repr ++ ".." ++
          past.toNat.repr := by simp only [String.append_assoc]
    _ = "TRACE deriving DES key from bytes " ++ first.toNat.repr ++ ".." ++ past.toNat.repr :=
        congrArg (fun opening => opening ++ first.toNat.repr ++ ".." ++ past.toNat.repr) opening

theorem lines_chainLog {n : Nat} (small : 7 * n < UInt64.size) :
    (chainLog n).map Event.line =
      (List.range n).flatMap fun place => chunkLines (7 * place) (7 * place + 7) := by
  induction n with
  | zero => rfl
  | succ n ih =>
      have first : (UInt64.ofNat (7 * n)).toNat = 7 * n := UInt64.toNat_ofNat_of_lt' (by omega)
      have past : (UInt64.ofNat (7 * n) + 7).toNat = 7 * n + 7 := by
        rw [toNat_add_seven_of_lt (by omega), first]
      have before := ih (by omega)
      have last : [Event.derivingKey (UInt64.ofNat (7 * n)) (UInt64.ofNat (7 * n) + 7),
          Event.encryptedBlock].map Event.line = chunkLines (7 * n) (7 * n + 7) := by
        rw [List.map_cons, line_derivingKey, first, past]
        rfl
      rw [chainLog, List.map_append, before, last, List.range_succ, List.flatMap_append,
        List.flatMap_singleton]

/-!
### The log of a response

What is logged after the first event depends on the scheme alone, so two requests that differ in anything
else leave the same log.
-/

/-- What a scheme logs once its inputs were taken in. -/
def workLog : Scheme → List Event
  | .lanMan => chainLog 2 ++ chainLog 3
  | .ntlmV1 => chainLog 3
  | .ntlmV2 => []
  | .ntHash => []

variable (password : String) (username domain : Option String)

/-- A challenge of the right length is logged as the scheme, and what the scheme does. A name that is
    missing is not noticed before that, and adds nothing. -/
theorem respond_log (scheme : Scheme) (challenge : Challenge) :
    (respond scheme password challenge.toList username domain).log =
      .computing scheme :: workLog scheme := by
  cases scheme with
  | lanMan => rw [respond_lanMan password username domain (LanMan.keyMaterial_eq password), workLog]
  | ntlmV1 => rw [respond_ntlmV1, workLog]
  | ntlmV2 =>
      cases username with
      | none => rw [respond_without_username, workLog]
      | some username =>
          cases domain with
          | none => rw [respond_without_domain, workLog]
          | some domain => rw [respond_ntlmV2, workLog]
  | ntHash => rw [respond_ntHash, workLog]

theorem respond_log_of_length_ne (scheme : Scheme) {challenge : List UInt8}
    (wrong : challenge.length ≠ challengeLength) :
    (respond scheme password challenge username domain).log = [] := by
  rw [respond_of_length_ne password username domain scheme wrong]

/-- Two requests for one scheme leave the same log if their challenges both have the right length, or both
    a wrong one. -/
theorem respond_log_eq_of_fits_iff (scheme : Scheme) (password' : String)
    (username' domain' : Option String) {challenge challenge' : List UInt8}
    (agree : challenge.length = challengeLength ↔ challenge'.length = challengeLength) :
    (respond scheme password challenge username domain).log =
      (respond scheme password' challenge' username' domain').log := by
  by_cases fits : challenge.length = challengeLength
  · obtain ⟨taken, rfl⟩ := exists_challenge fits
    obtain ⟨taken', rfl⟩ := exists_challenge (agree.mp fits)
    rw [respond_log, respond_log]
  · have wrong' : challenge'.length ≠ challengeLength := fun fits' => fits (agree.mpr fits')
    rw [respond_log_of_length_ne password username domain scheme fits,
      respond_log_of_length_ne password' username' domain' scheme wrong']

/-- The log leaks nothing. Two requests for one scheme with challenges of one length leave the same log,
    whatever else they carry. A challenge of the wrong length leaves none. Otherwise the first line says
    which scheme is computed, also where a name is missing, and then it is the only one; what follows is
    two lines for each block that is encrypted, with the range of positions that is its key. -/
theorem log_shows_scheme_and_length_alone :
    (∀ (scheme : Scheme) (password password' : String) (challenge challenge' : List UInt8)
        (username domain username' domain' : Option String),
      challenge.length = challenge'.length →
      (respond scheme password challenge username domain).log =
        (respond scheme password' challenge' username' domain').log) ∧
    (∀ (scheme : Scheme) (password : String) (challenge : List UInt8)
        (username domain : Option String),
      challenge.length ≠ challengeLength →
      (respond scheme password challenge username domain).log.map Event.line = []) ∧
    (∀ (password : String) (challenge : Challenge) (username domain : Option String),
      (respond .lanMan password challenge.toList username domain).log.map Event.line =
        "DEBUG computing LanMan encrypted password" ::
          (chunkLines 0 7 ++ chunkLines 7 14 ++
            (chunkLines 0 7 ++ chunkLines 7 14 ++ chunkLines 14 21)) ∧
      (respond .ntlmV1 password challenge.toList username domain).log.map Event.line =
        "DEBUG computing NTLMv1 encrypted password" ::
          (chunkLines 0 7 ++ chunkLines 7 14 ++ chunkLines 14 21) ∧
      (respond .ntlmV2 password challenge.toList username domain).log.map Event.line =
        ["DEBUG computing NTLMv2 encrypted password"] ∧
      (respond .ntHash password challenge.toList username domain).log.map Event.line =
        ["DEBUG computing MD4 encrypted password"]) ∧
    (∀ (password : String) (challenge : Challenge) (domain : Option String),
      (respond .ntlmV2 password challenge.toList none domain).outcome =
        .error (.refused (.unmet .missingUsername)) ∧
      (respond .ntlmV2 password challenge.toList none domain).log.map Event.line =
        ["DEBUG computing NTLMv2 encrypted password"]) ∧
    (∀ (password : String) (challenge : Challenge) (username : String),
      (respond .ntlmV2 password challenge.toList (some username) none).outcome =
        .error (.refused (.unmet .missingDomain)) ∧
      (respond .ntlmV2 password challenge.toList (some username) none).log.map Event.line =
        ["DEBUG computing NTLMv2 encrypted password"]) := by
  have halves : (chainLog 2).map Event.line = chunkLines 0 7 ++ chunkLines 7 14 :=
    lines_chainLog (by decide)
  have thirds : (chainLog 3).map Event.line =
      chunkLines 0 7 ++ chunkLines 7 14 ++ chunkLines 14 21 :=
    lines_chainLog (by decide)
  have opened (scheme : Scheme) (password : String) (challenge : Challenge)
      (username domain : Option String) :
      (respond scheme password challenge.toList username domain).log.map Event.line =
        ("DEBUG computing " ++ scheme.name ++ " encrypted password") ::
          (workLog scheme).map Event.line := by
    rw [respond_log, List.map_cons, line_computing]
  refine ⟨?_, ?_, ?_, ?_, ?_⟩
  · intro scheme password password' challenge challenge' username domain username' domain' same
    apply respond_log_eq_of_fits_iff
    rw [same]
  · intro scheme password challenge username domain wrong
    rw [respond_log_of_length_ne password username domain scheme wrong, List.map_nil]
  · intro password challenge username domain
    refine ⟨?_, ?_, ?_, ?_⟩
    · rw [opened, workLog, List.map_append, halves, thirds]
      rfl
    · rw [opened, workLog, thirds]
      rfl
    · rw [opened]
      rfl
    · rw [opened]
      rfl
  · intro password challenge domain
    have refused := respond_without_username password domain challenge
    refine ⟨congrArg Traced.outcome refused, ?_⟩
    rw [opened]
    rfl
  · intro password challenge username
    have refused := respond_without_domain password username challenge
    refine ⟨congrArg Traced.outcome refused, ?_⟩
    rw [opened]
    rfl

/-- A request with both names and one without them, and a challenge that is a byte too short. -/
theorem log_shows_scheme_and_length_alone_two_users :
    ([1, 2, 3, 4, 5, 6, 7, 8] : List UInt8).length = ([8, 7, 6, 5, 4, 3, 2, 1] : List UInt8).length ∧
    ([1, 2, 3, 4, 5, 6, 7] : List UInt8).length ≠ challengeLength ∧
    (respond .ntlmV2 "SecREt01" [1, 2, 3, 4, 5, 6, 7, 8] (some "User") (some "Domain")).log =
      (respond .ntlmV2 "" [8, 7, 6, 5, 4, 3, 2, 1] none none).log ∧
    (respond .lanMan "SecREt01" [1, 2, 3, 4, 5, 6, 7] none none).log.map Event.line = [] := by
  obtain ⟨same, refused, -⟩ := log_shows_scheme_and_length_alone
  have short : ([1, 2, 3, 4, 5, 6, 7] : List UInt8).length ≠ challengeLength := by decide
  exact ⟨rfl, short, same _ _ _ _ _ _ _ _ _ rfl, refused _ _ _ _ _ short⟩

end LanAuth
