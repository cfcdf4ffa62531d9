/-
Module: LanAuth.Proofs.ErrorText
Layer: Proofs
Purpose: The texts of errors. The sentence for a user and the form for a developer are put together alike,
  from words and from what the error carries, and the words are such that a text shows which they are: none
  begins with another. So either text tells the error, with its primitive and its exact number.
Imports: Mathlib, LanAuth.Error, LanAuth.Proofs.Text.PrefixFree
Trusted boundary: none
Main exports: Wording, Wording.text, Wording.Clear, Wording.Clear.text_inj, sentences, constructorForms,
  HashError.message_eq_text, HashError.debugText_eq_text, texts_tell_errors_apart
Open obligations: none
-/
import Mathlib
import LanAuth.Error
import LanAuth.Proofs.Text.PrefixFree

namespace LanAuth

open Text (differ PrefixFree append_ne_append_of_differ)

namespace Requirement

/-- The number that a requirement carries, if it carries one. -/
def figure : Requirement → Option Int
  | .challengeLength obtained => some obtained
  | .unknownScheme code => some code
  | .missingUsername | .missingDomain | .unencodablePassword => none

/-- A requirement with zero in place of its number. -/
def blank : Requirement → Requirement
  | .challengeLength _ => .challengeLength 0
  | .unknownScheme _ => .unknownScheme 0
  | requirement => requirement

def blanks : List Requirement :=
  [.missingUsername, .missingDomain, .challengeLength 0, .unknownScheme 0, .unencodablePassword]

theorem blank_mem_blanks (requirement : Requirement) : requirement.blank ∈ blanks := by
  cases requirement <;> simp [blank, blanks]

theorem eq_of_blank_of_figure {r s : Requirement} (blanks : r.blank = s.blank)
    (figures : r.figure = s.figure) : r = s := by
  cases r <;> cases s <;> simp_all [blank, figure]

end Requirement

/-- A number and what stands behind it, or nothing. -/
def figureText (closing : String) : Option Int → String
  | some figure => figure.repr ++ closing
  | none => ""

/-- The words that errors are put into, without the numbers. -/
structure Wording where
  primitive : Primitive → String
  /-- A blank requirement, up to the place of its number. -/
  requirement : Requirement → String
  afterFigure : String
  beforeUnavailable : String
  afterUnavailable : String
  beforeKey : String
  beforeLength : String
  afterLength : String
  beforeUnmet : String
  afterUnmet : String

namespace Wording

variable (wording : Wording)

def requirementText (requirement : Requirement) : String :=
  wording.requirement requirement.blank ++ figureText wording.afterFigure requirement.figure

/-- The error in these words. -/
def text : HashError → String
  | .unavailable primitive =>
      wording.beforeUnavailable ++ (wording.primitive primitive ++ wording.afterUnavailable)
  | .invalidKey primitive length =>
      wording.beforeKey ++
        (wording.primitive primitive ++ (wording.beforeLength ++ (length.repr ++ wording.afterLength)))
  | .unmet requirement =>
      wording.beforeUnmet ++ (wording.requirementText requirement ++ wording.afterUnmet)

/-- A text in these words shows which of them it begins with. -/
structure Clear : Prop where
  primitive : PrefixFree Primitive.all wording.primitive
  requirement : PrefixFree Requirement.blanks wording.requirement
  unavailable_key : differ wording.beforeUnavailable.toList wording.beforeKey.toList
  unavailable_unmet : differ wording.beforeUnavailable.toList wording.beforeUnmet.toList
  key_unmet : differ wording.beforeKey.toList wording.beforeUnmet.toList

end Wording

/-!
### Clear words

Numbers are told by their digits, so a text is taken apart from the front, one piece after another.
-/

theorem repr_ne_empty (n : Int) : n.repr ≠ "" := by
  cases n with
  | ofNat n => exact Nat.repr_ne_empty
  | negSucc n =>
      intro none
      have chars := congrArg String.toList none
      rw [Int.repr, String.toList_append] at chars
      cases chars

theorem figureText_inj {closing : String} {figure figure' : Option Int} :
    figureText closing figure = figureText closing figure' ↔ figure = figure' := by
  cases figure with
  | none =>
      cases figure' with
      | none => simp
      | some m => simp [figureText, repr_ne_empty]
  | some n =>
      cases figure' with
      | none => simp [figureText, repr_ne_empty]
      | some m => simp [figureText, Int.repr_inj]

namespace Wording.Clear

variable {wording : Wording} (clear : wording.Clear)
include clear

theorem requirementText_inj {r s : Requirement} :
    wording.requirementText r = wording.requirementText s ↔ r = s := by
  constructor
  · intro same
    obtain ⟨blanks, figures⟩ :=
      (clear.requirement.append_inj r.blank_mem_blanks s.blank_mem_blanks).mp same
    exact Requirement.eq_of_blank_of_figure blanks (figureText_inj.mp figures)
  · rintro rfl
    rfl

theorem text_inj {a b : HashError} : wording.text a = wording.text b ↔ a = b := by
  constructor
  · intro same
    cases a with
    | unavailable p =>
        cases b with
        | unavailable q =>
            rw [text, text, String.append_right_inj,
              clear.primitive.append_inj p.mem_all q.mem_all] at same
            rw [same.1]
        | invalidKey q m =>
            exact absurd same (append_ne_append_of_differ clear.unavailable_key _ _)
        | unmet s => exact absurd same (append_ne_append_of_differ clear.unavailable_unmet _ _)
    | invalidKey p n =>
        cases b with
        | unavailable q =>
            exact absurd same.symm (append_ne_append_of_differ clear.unavailable_key _ _)
        | invalidKey q m =>
            rw [text, text, String.append_right_inj,
              clear.primitive.append_inj p.mem_all q.mem_all, String.append_right_inj,
              String.append_left_inj, Nat.repr_inj] at same
            rw [same.1, same.2]
        | unmet s => exact absurd same (append_ne_append_of_differ clear.key_unmet _ _)
    | unmet r =>
        cases b with
        | unavailable q =>
            exact absurd same.symm (append_ne_append_of_differ clear.unavailable_unmet _ _)
        | invalidKey q m =>
            exact absurd same.symm (append_ne_append_of_differ clear.key_unmet _ _)
        | unmet s =>
            rw [text, text, String.append_right_inj, String.append_left_inj,
              clear.requirementText_inj] at same
            rw [same]
  · rintro rfl
    rfl

end Wording.Clear

/-!
### The two wordings
-/

/-- The words of the sentences for a user. -/
def sentences : Wording where
  primitive := Primitive.name
  requirement
    | .missingUsername => "a username is required for the NTLMv2 hash"
    | .missingDomain => "a domain is required for the NTLMv2 hash"
    | .challengeLength _ => "challenge must be 8 bytes long, obtained "
    | .unknownScheme _ => "unknown hash variant code "
    | .unencodablePassword => "password cannot be encoded using the OEM encoding"
  afterFigure := ""
  beforeUnavailable := "algorithm "
  afterUnavailable := " is unavailable"
  beforeKey := "invalid "
  beforeLength := " key of length "
  afterLength := ""
  beforeUnmet := "precondition violated: "
  afterUnmet := ""

/-- The words of the constructor forms for a developer. -/
def constructorForms : Wording where
  primitive := Primitive.debugText
  requirement
    | .missingUsername => "MissingUsername"
    | .missingDomain => "MissingDomain"
    | .challengeLength _ => "ChallengeLength \x7b obtained: "
    | .unknownScheme _ => "UnknownVariant \x7b code: "
    | .unencodablePassword => "UnencodablePassword"
  afterFigure := " \x7d"
  beforeUnavailable := "AlgorithmUnavailable \x7b algorithm: "
  afterUnavailable := " \x7d"
  beforeKey := "InvalidKey \x7b algorithm: "
  beforeLength := ", length: "
  afterLength := " \x7d"
  beforeUnmet := "PreconditionViolation("
  afterUnmet := ")"

theorem clear_sentences : sentences.Clear where
  primitive := by decide
  requirement := by decide
  unavailable_key := by decide
  unavailable_unmet := by decide
  key_unmet := by decide

theorem clear_constructorForms : constructorForms.Clear where
  primitive := by decide
  requirement := by decide
  unavailable_key := by decide
  unavailable_unmet := by decide
  key_unmet := by decide

namespace Requirement

theorem message_eq_requirementText (r : Requirement) : r.message = sentences.requirementText r := by
  cases r with
  | missingUsername | missingDomain | unencodablePassword => exact String.append_empty.symm
  | challengeLength obtained =>
      have opening : "challenge must be " ++ LanAuth.challengeLength.repr ++ " bytes long, obtained " =
          "challenge must be 8 bytes long, obtained " := rfl
      calc "challenge must be " ++ LanAuth.challengeLength.repr ++ " bytes long, obtained " ++
            obtained.repr
        _ = "challenge must be 8 bytes long, obtained " ++ obtained.repr := by rw [opening]
        _ = "challenge must be 8 bytes long, obtained " ++ (obtained.repr ++ "") := by
            rw [String.append_empty]
  | unknownScheme code =>
      calc "unknown hash variant code " ++ code.repr
        _ = "unknown hash variant code " ++ (code.repr ++ "") := by rw [String.append_empty]

theorem debugText_eq_requirementText (r : Requirement) :
    r.debugText = constructorForms.requirementText r := by
  cases r with
  | missingUsername | missingDomain | unencodablePassword => exact String.append_empty.symm
  | challengeLength obtained => exact String.append_assoc
  | unknownScheme code => exact String.append_assoc

end Requirement

namespace HashError

theorem message_eq_text (e : HashError) : e.message = sentences.text e := by
  cases e with
  | unavailable primitive => exact String.append_assoc
  | invalidKey primitive length =>
      calc "invalid " ++ primitive.name ++ " key of length " ++ length.repr
        _ = "invalid " ++ (primitive.name ++ (" key of length " ++ (length.repr ++ ""))) := by
            simp only [String.append_assoc, String.append_empty]
  | unmet requirement =>
      calc "precondition violated: " ++ requirement.message
        _ = "precondition violated: " ++ (sentences.requirementText requirement ++ "") := by
            rw [requirement.message_eq_requirementText, String.append_empty]

theorem debugText_eq_text (e : HashError) : e.debugText = constructorForms.text e := by
  cases e with
  | unavailable primitive => exact String.append_assoc
  | invalidKey primitive length =>
      calc "InvalidKey \x7b algorithm: " ++ primitive.debugText ++ ", length: " ++ length.repr ++ " \x7d"
        _ = "InvalidKey \x7b algorithm: " ++
              (primitive.debugText ++ (", length: " ++ (length.repr ++ " \x7d"))) := by
            simp only [String.append_assoc]
  | unmet requirement =>
      calc "PreconditionViolation(" ++ requirement.debugText ++ ")"
        _ = "PreconditionViolation(" ++ (constructorForms.requirementText requirement ++ ")") := by
            rw [requirement.debugText_eq_requirementText, String.append_assoc]

end HashError

/-- Two errors have the same sentence, or the same constructor form, exactly if they are the same error, of
    the same kind, with the same primitive and the same number; and so it is with requirements. -/
theorem texts_tell_errors_apart :
    (∀ a b : HashError, a.message = b.message ↔ a = b) ∧
    (∀ a b : HashError, a.debugText = b.debugText ↔ a = b) ∧
    (∀ r s : Requirement, r.message = s.message ↔ r = s) ∧
    ∀ r s : Requirement, r.debugText = s.debugText ↔ r = s := by
  refine ⟨?_, ?_, ?_, ?_⟩
  · intro a b
    rw [a.message_eq_text, b.message_eq_text, clear_sentences.text_inj]
  · intro a b
    rw [a.debugText_eq_text, b.debugText_eq_text, clear_constructorForms.text_inj]
  · intro r s
    rw [r.message_eq_requirementText, s.message_eq_requirementText,
      clear_sentences.requirementText_inj]
  · intro r s
    rw [r.debugText_eq_requirementText, s.debugText_eq_requirementText,
      clear_constructorForms.requirementText_inj]

end LanAuth
