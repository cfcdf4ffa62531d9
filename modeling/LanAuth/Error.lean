/-
Module: LanAuth.Error
Layer: Domain
Purpose: The ways in which a computation can be refused, each as a cause rather than a text, with the
  sentence shown to a user, the constructor form written for a developer, and one total order on them.
Imports: none
Trusted boundary: none
Main exports: Primitive, Primitive.all, Requirement, HashError, HashError.message, HashError.debugText,
  HashError.sort
Open obligations: none
-/

namespace LanAuth

/-- A cryptographic primitive that the schemes rest on. The order is that of declaration. -/
inductive Primitive where
  | des
  | md4
  | hmacMd5
deriving DecidableEq, Ord, Repr, Inhabited

/-- A demand on the inputs that the caller did not meet. The order is that of declaration, then that of
    the number carried. -/
inductive Requirement where
  | missingUsername
  | missingDomain
  | challengeLength (obtained : Nat)
  | unknownScheme (code : Int)
  /-- The password has no form in the single-byte encoding. -/
  | unencodablePassword
deriving DecidableEq, Ord, Repr, Inhabited

/-- Why an encrypted password cannot be given. The order is that of declaration, then that of what is
    carried, from left to right. -/
inductive HashError where
  /-- A primitive does not compute what it should. -/
  | unavailable (primitive : Primitive)
  /-- A primitive does not take a key of this length. -/
  | invalidKey (primitive : Primitive) (length : Nat)
  | unmet (requirement : Requirement)
deriving DecidableEq, Ord, Repr, Inhabited

namespace Primitive

def name : Primitive → String
  | .des => "DES"
  | .md4 => "MD4"
  | .hmacMd5 => "HMAC-MD5"

def debugText : Primitive → String
  | .des => "Des"
  | .md4 => "Md4"
  | .hmacMd5 => "HmacMd5"

/-- The primitives in the order of their declaration. -/
def all : List Primitive := [.des, .md4, .hmacMd5]

theorem mem_all (primitive : Primitive) : primitive ∈ all := by
  cases primitive <;> simp [all]

end Primitive

abbrev challengeLength : Nat := 8

namespace Requirement

def message : Requirement → String
  | .missingUsername => "a username is required for the NTLMv2 hash"
  | .missingDomain => "a domain is required for the NTLMv2 hash"
  | .challengeLength obtained =>
      "challenge must be " ++ LanAuth.challengeLength.repr ++ " bytes long, obtained " ++ obtained.repr
  | .unknownScheme code => "unknown hash variant code " ++ code.repr
  | .unencodablePassword => "password cannot be encoded using the OEM encoding"

/-- The requirement in constructor form, fields by name. -/
def debugText : Requirement → String
  | .missingUsername => "MissingUsername"
  | .missingDomain => "MissingDomain"
  | .challengeLength obtained => "ChallengeLength \x7b obtained: " ++ obtained.repr ++ " \x7d"
  | .unknownScheme code => "UnknownVariant \x7b code: " ++ code.repr ++ " \x7d"
  | .unencodablePassword => "UnencodablePassword"

end Requirement

namespace HashError

def message : HashError → String
  | .unavailable primitive => "algorithm " ++ primitive.name ++ " is unavailable"
  | .invalidKey primitive length =>
      "invalid " ++ primitive.name ++ " key of length " ++ length.repr
  | .unmet requirement => "precondition violated: " ++ requirement.message

/-- The error in constructor form: fields by name, a nested requirement in brackets. -/
def debugText : HashError → String
  | .unavailable primitive =>
      "AlgorithmUnavailable \x7b algorithm: " ++ primitive.debugText ++ " \x7d"
  | .invalidKey primitive length =>
      "InvalidKey \x7b algorithm: " ++ primitive.debugText ++ ", length: " ++ length.repr ++ " \x7d"
  | .unmet requirement => "PreconditionViolation(" ++ requirement.debugText ++ ")"

/-- The error that led to this one, if any. An error here is always the first cause. -/
def cause? (_ : HashError) : Option HashError := none

/-- Errors in ascending order. Equal errors are all kept. -/
def sort (errors : List HashError) : List HashError :=
  errors.mergeSort fun a b => (compare a b).isLE

end HashError

end LanAuth
