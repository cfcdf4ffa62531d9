/-
Module: LanAuth.Scheme
Layer: Domain
Purpose: The four kinds of encrypted password, with the number and the name that stand for each of them
  in configuration, the length of what each yields, and their order.
Imports: LanAuth.Error
Trusted boundary: none
Main exports: Scheme, Scheme.code, Scheme.ofCode, Scheme.name, Scheme.outputLength, Scheme.sortedOfCodes
Open obligations: none
-/
import LanAuth.Error

namespace LanAuth

/-- A kind of encrypted password. -/
inductive Scheme where
  | lanMan
  | ntlmV1
  /-- The hash bound to a username and a domain, version 2. -/
  | ntlmV2
  /-- The bare hash of the password, without a challenge. -/
  | ntHash
deriving DecidableEq, Ord, Repr, Inhabited

namespace Scheme

def all : List Scheme := [.lanMan, .ntlmV1, .ntlmV2, .ntHash]

/-- The number that stands for the scheme in messages and in configuration. -/
def code : Scheme → Int
  | .lanMan => 0
  | .ntlmV1 => 1
  | .ntlmV2 => 2
  | .ntHash => 3

def name : Scheme → String
  | .lanMan => "LanMan"
  | .ntlmV1 => "NTLMv1"
  | .ntlmV2 => "NTLMv2"
  | .ntHash => "MD4"

def debugText : Scheme → String
  | .lanMan => "Lanman"
  | .ntlmV1 => "Ntlm1"
  | .ntlmV2 => "Ntlm2"
  | .ntHash => "Md4Raw"

def outputLength : Scheme → Nat
  | .lanMan => 24
  | .ntlmV1 => 24
  | .ntlmV2 => 16
  | .ntHash => 16

/-- The scheme that a code stands for, if there is one. -/
def ofCode? (code : Int) : Option Scheme :=
  all.find? fun scheme => scheme.code == code

/-- The scheme that a code stands for; a code without a scheme is refused. -/
def ofCode (code : Int) : Except HashError Scheme :=
  match ofCode? code with
  | some scheme => .ok scheme
  | none => .error (.unmet (.unknownScheme code))

/-- The name for a code, also for one that stands for no scheme. -/
def nameOfCode (code : Int) : String :=
  match ofCode? code with
  | some scheme => scheme.name
  | none => "Unknown"

/-- The schemes that a list of codes stands for. The first code without a scheme is the one refused. -/
def ofCodes : List Int → Except HashError (List Scheme)
  | [] => .ok []
  | code :: later => do
      let scheme ← ofCode code
      let schemes ← ofCodes later
      return scheme :: schemes

def sort (schemes : List Scheme) : List Scheme :=
  schemes.mergeSort fun a b => (compare a b).isLE

/-- The schemes that a list of codes stands for, in ascending order. -/
def sortedOfCodes (codes : List Int) : Except HashError (List Scheme) := do
  return sort (← ofCodes codes)

/-!
### Codes

A code belongs to one scheme at most, and to every scheme its own.
-/

@[simp] theorem ofCode?_code (scheme : Scheme) : ofCode? scheme.code = some scheme := by
  cases scheme <;> rfl

@[simp] theorem ofCode_code (scheme : Scheme) : ofCode scheme.code = .ok scheme := by
  cases scheme <;> rfl

theorem code_of_ofCode? {code : Int} {scheme : Scheme} (h : ofCode? code = some scheme) :
    scheme.code = code := by
  simpa using List.find?_some h

end Scheme

end LanAuth
