/-
Module: LanAuth.Proofs.SelfTest
Layer: Proofs
Purpose: What the self test finds. Whatever implementations stand behind the primitives, the test passes
  exactly if all of them give their published answers, and otherwise warns of the first that does not, and
  refuses it. Those in use give them all, so the test passes and leaves nothing but the trace of one block.
Imports: LanAuth.SelfTest, LanAuth.Proofs.Des.Evaluation, LanAuth.Proofs.Digest.WholeMessage
Trusted boundary: none
Main exports: SelfTest.forM_demandAnswer, SelfTest.Suite.gives, SelfTest.Suite.failing?,
  SelfTest.Suite.failing?_eq_some_iff, SelfTest.Suite.run_eq, SelfTest.Suite.run_of_failing,
  SelfTest.Suite.available_eq, SelfTest.Suite.outcome_run_eq_ok_iff, SelfTest.gives_inUse, SelfTest.run_eq, SelfTest.available_eq
Open obligations: none
-/
import LanAuth.SelfTest
import LanAuth.Proofs.Des.Evaluation
import LanAuth.Proofs.Digest.WholeMessage

namespace LanAuth.SelfTest

/-!
### Demands

One that is met leaves no trace; one that is not ends the test. By induction on the demands, the first that is
not met decides.
-/

theorem demandAnswer_true (primitive : Primitive) : demandAnswer primitive true = pure () := rfl

theorem demandAnswer_false (primitive : Primitive) :
    demandAnswer primitive false =
      ⟨[.checkFailed primitive], .error (.refused (.unavailable primitive))⟩ := rfl

theorem line_checkFailed (primitive : Primitive) :
    (Event.checkFailed primitive).line =
      "WARN " ++ primitive.name ++ " known-answer check failed" := by
  cases primitive <;> rfl

theorem forM_demandAnswer (gives : Primitive → Bool) (primitives : List Primitive) :
    (forM primitives fun primitive => demandAnswer primitive (gives primitive)) =
      match primitives.find? fun primitive => !gives primitive with
      | none => ⟨[], .ok ()⟩
      | some primitive =>
          ⟨[.checkFailed primitive], .error (.refused (.unavailable primitive))⟩ := by
  induction primitives with
  | nil => rfl
  | cons primitive later ih =>
      cases given : gives primitive with
      | true =>
          have passed : (primitive :: later).find? (fun primitive => !gives primitive) =
              later.find? fun primitive => !gives primitive :=
            List.find?_cons_of_neg (by simp [given])
          rw [List.forM_cons, given, demandAnswer_true, pure_bind, ih, passed]
      | false =>
          have stopped : (primitive :: later).find? (fun primitive => !gives primitive) =
              some primitive :=
            List.find?_cons_of_pos (by simp [given])
          rw [List.forM_cons, given, demandAnswer_false, Traced.mk_error_bind, stopped]

namespace Suite

variable (suite : Suite)

/-- The primitive gives its published answer. -/
def gives : Primitive → Bool
  | .des => (suite.encrypt cipherKey cipherBlock).outcome.toOption == some cipherAnswer
  | .md4 => suite.digest digestMessage == digestAnswer
  | .hmacMd5 => (suite.authenticate codeKey [codeMessage]).toOption == some codeAnswer

/-- The first primitive that does not give its published answer. -/
def failing? : Option Primitive :=
  Primitive.all.find? fun primitive => !suite.gives primitive

/-!
### Which primitive fails
-/

theorem failing?_eq_none_iff : suite.failing? = none ↔ ∀ primitive, suite.gives primitive := by
  unfold failing?
  rw [List.find?_eq_none]
  constructor
  · intro met primitive
    simpa using met primitive primitive.mem_all
  · intro met primitive _
    simp [met primitive]

/-- The first that fails does fail, and all before it do not. -/
theorem failing?_eq_some_iff {primitive : Primitive} :
    suite.failing? = some primitive ↔
      suite.gives primitive = false ∧
        ∀ earlier, compare earlier primitive = .lt → suite.gives earlier := by
  have none_first (earlier : Primitive) : ¬ compare earlier .des = .lt := by
    cases earlier <;> decide
  have one_first (earlier : Primitive) : compare earlier .md4 = .lt ↔ earlier = .des := by
    cases earlier <;> decide
  have two_first (earlier : Primitive) :
      compare earlier .hmacMd5 = .lt ↔ earlier = .des ∨ earlier = .md4 := by
    cases earlier <;> decide
  unfold failing? Primitive.all
  cases cipher : suite.gives .des <;> cases digest : suite.gives .md4 <;>
    cases code : suite.gives .hmacMd5 <;> cases primitive <;>
      simp [cipher, digest, code, none_first, one_first, two_first]

/-!
### The test
-/

/-- A cipher that reads outside its key stops the test. -/
theorem run_of_outOfRange
    (fault : (suite.encrypt cipherKey cipherBlock).outcome = .error .outOfRange) :
    suite.run = ⟨(suite.encrypt cipherKey cipherBlock).log, .error .outOfRange⟩ := by
  unfold run
  rw [Traced.attempt_of_outOfRange fault, Traced.mk_error_bind]

section Safe

variable {suite} (safe : (suite.encrypt cipherKey cipherBlock).outcome ≠ .error .outOfRange)
include safe

theorem run_eq_forM :
    suite.run =
      (⟨(suite.encrypt cipherKey cipherBlock).log, .ok ()⟩ : Traced Unit) >>= fun _ =>
        forM Primitive.all fun primitive => demandAnswer primitive (suite.gives primitive) := by
  unfold run
  rw [Traced.attempt_of_ne safe, Traced.mk_ok_bind, Traced.mk_ok_bind]
  simp only [Primitive.all, gives, List.forM_cons, List.forM_nil, bind_pure_unit]

/-- The test passes, or the first primitive that fails is the one warned of and refused. -/
theorem run_eq :
    suite.run =
      match suite.failing? with
      | none => ⟨(suite.encrypt cipherKey cipherBlock).log, .ok ()⟩
      | some primitive =>
          ⟨(suite.encrypt cipherKey cipherBlock).log ++ [.checkFailed primitive],
            .error (.refused (.unavailable primitive))⟩ := by
  rw [run_eq_forM safe, forM_demandAnswer, Traced.mk_ok_bind]
  unfold failing?
  cases Primitive.all.find? fun primitive => !suite.gives primitive with
  | none => simp
  | some primitive => rfl

/-- The last line of a test that fails names the primitive that is refused. -/
theorem run_of_failing {primitive : Primitive} (first : suite.failing? = some primitive) :
    suite.run.outcome = .error (.refused (.unavailable primitive)) ∧
    suite.run.log.map Event.line =
      (suite.encrypt cipherKey cipherBlock).log.map Event.line ++
        ["WARN " ++ primitive.name ++ " known-answer check failed"] := by
  rw [run_eq safe, first]
  refine ⟨rfl, ?_⟩
  rw [List.map_append, List.map_singleton, line_checkFailed]

theorem available_eq : suite.available = ⟨suite.run.log, .ok suite.failing?.isNone⟩ := by
  unfold available
  rw [run_eq safe]
  cases suite.failing? with
  | none => simp [Traced.attempt]
  | some primitive => simp [Traced.attempt]

end Safe

theorem outcome_run_eq_ok_iff :
    suite.run.outcome = .ok () ↔ ∀ primitive, suite.gives primitive := by
  by_cases fault : (suite.encrypt cipherKey cipherBlock).outcome = .error .outOfRange
  · rw [run_of_outOfRange suite fault]
    constructor
    · intro passed
      cases passed
    · intro met
      have answered := met .des
      rw [gives, fault] at answered
      cases answered
  · rw [run_eq fault, ← failing?_eq_none_iff]
    cases suite.failing? with
    | none => simp
    | some primitive => simp

end Suite

/-!
### The suite in use
-/

theorem encrypt_cipherBlock :
    encryptBlock cipherKey cipherBlock = ⟨[.encryptedBlock], .ok cipherAnswer⟩ := by
  have cipher : Des.encrypt ⟨cipherKey.toArray, rfl⟩ cipherBlock = cipherAnswer := by
    apply Des.encrypt_eq_of_listed rfl
    rw [Des.toLists_subkeys]
    decide +kernel
  rw [← cipher]
  exact encryptBlock_toList ⟨cipherKey.toArray, rfl⟩ cipherBlock

theorem digest_digestMessage : Digest.Md4.digest digestMessage = digestAnswer := by
  decide +kernel

theorem authenticate_codeMessage :
    Digest.checkedHmacMd5 codeKey [codeMessage] = .ok codeAnswer := by
  rw [Digest.checkedHmacMd5_eq]
  exact congrArg Except.ok Digest.hmacMd5_hi_there

theorem gives_inUse (primitive : Primitive) : inUse.gives primitive := by
  cases primitive with
  | des => simp [Suite.gives, inUse, encrypt_cipherBlock, Except.toOption]
  | md4 => simp [Suite.gives, inUse, digest_digestMessage]
  | hmacMd5 => simp [Suite.gives, inUse, authenticate_codeMessage, Except.toOption]

theorem failing?_inUse : inUse.failing? = none :=
  inUse.failing?_eq_none_iff.mpr gives_inUse

/-- The self test passes, and its trace is that of the one block that it encrypts. -/
theorem run_eq : run = ⟨[.encryptedBlock], .ok ()⟩ := by
  have safe : (inUse.encrypt cipherKey cipherBlock).outcome ≠ .error .outOfRange := by
    simp [inUse, encrypt_cipherBlock]
  unfold run
  rw [Suite.run_eq safe, failing?_inUse]
  simp [inUse, encrypt_cipherBlock]

theorem available_eq : available = ⟨[.encryptedBlock], .ok true⟩ := by
  have safe : (inUse.encrypt cipherKey cipherBlock).outcome ≠ .error .outOfRange := by
    simp [inUse, encrypt_cipherBlock]
  unfold available
  rw [Suite.available_eq safe, failing?_inUse]
  change (⟨run.log, .ok true⟩ : Traced Bool) = _
  rw [run_eq]

end LanAuth.SelfTest
