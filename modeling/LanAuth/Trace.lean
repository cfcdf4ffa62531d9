/-
Module: LanAuth.Trace
Layer: Domain
Purpose: Computations that may be refused and that leave a trace of what was done. The events of a trace
  have no room for a secret: they carry a scheme, a primitive or a range of positions, never a byte.
Imports: LanAuth.Scheme
Trusted boundary: none
Main exports: Level, Event, Event.line, Failure, Traced, Traced.record, Traced.refuse, Traced.attempt
Open obligations: none
-/
import LanAuth.Scheme

namespace LanAuth

/-- How much an event matters to a reader of the log. -/
inductive Level where
  | trace
  | debug
  | warn
deriving DecidableEq, Repr

def Level.name : Level → String
  | .trace => "TRACE"
  | .debug => "DEBUG"
  | .warn => "WARN"

/-- Something worth a line in the log. -/
inductive Event where
  /-- The inputs were taken in and the computation for a scheme begins. -/
  | computing (scheme : Scheme)
  /-- The key material from position `first` up to, not including, `past` is made into a key. -/
  | derivingKey (first past : UInt64)
  | encryptedBlock
  /-- A primitive did not give the published answer. -/
  | checkFailed (primitive : Primitive)
deriving DecidableEq, Repr

namespace Event

def level : Event → Level
  | .computing _ => .debug
  | .derivingKey _ _ => .trace
  | .encryptedBlock => .trace
  | .checkFailed _ => .warn

def text : Event → String
  | .computing scheme => "computing " ++ scheme.name ++ " encrypted password"
  | .derivingKey first past =>
      "deriving DES key from bytes " ++ first.toNat.repr ++ ".." ++ past.toNat.repr
  | .encryptedBlock => "encrypted one DES block"
  | .checkFailed primitive => primitive.name ++ " known-answer check failed"

def line (event : Event) : String :=
  event.level.name ++ " " ++ event.text

end Event

/-- Why a computation gave no value. -/
inductive Failure where
  | refused (error : HashError)
  /-- A position outside the key material was asked for: a fault of the caller, not of the inputs. -/
  | outOfRange
deriving DecidableEq, Repr

/-- A computation that was carried out: the events in order, and the value or why there is none. -/
structure Traced (α : Type) where
  log : List Event
  outcome : Except Failure α

namespace Traced

variable {α β : Type}

/-- A value, with nothing to log. -/
protected def pure (value : α) : Traced α := ⟨[], .ok value⟩

/-- One computation after another. What comes after a failure is not carried out, and logs nothing. -/
protected def bind (x : Traced α) (f : α → Traced β) : Traced β :=
  match x.outcome with
  | .ok value => ⟨x.log ++ (f value).log, (f value).outcome⟩
  | .error failure => ⟨x.log, .error failure⟩

instance : Monad Traced where
  pure := Traced.pure
  bind := Traced.bind

instance : LawfulMonad Traced := LawfulMonad.mk' Traced
  (by
    rintro α ⟨log, outcome⟩
    cases outcome with
    | error failure => rfl
    | ok value => simp [Functor.map, Traced.bind, Traced.pure])
  (by
    intro α β value f
    simp [Bind.bind, Pure.pure, Traced.bind, Traced.pure])
  (by
    rintro α β γ ⟨log, outcome⟩ f g
    cases outcome with
    | error failure => rfl
    | ok value =>
        simp only [Bind.bind, Traced.bind]
        cases (f value).outcome <;> simp)

def record (event : Event) : Traced Unit := ⟨[event], .ok ()⟩

def refuse (error : HashError) : Traced α := ⟨[], .error (.refused error)⟩

def outOfRange : Traced α := ⟨[], .error .outOfRange⟩

/-- The value of a computation that logs nothing, or its refusal. -/
def ofExcept : Except HashError α → Traced α
  | .ok value => pure value
  | .error error => refuse error

/-- Carry on after a refusal, without a value. A fault of the caller is not hidden in this way. -/
def attempt (x : Traced α) : Traced (Option α) :=
  match x.outcome with
  | .ok value => ⟨x.log, .ok (some value)⟩
  | .error (.refused _) => ⟨x.log, .ok none⟩
  | .error .outOfRange => ⟨x.log, .error .outOfRange⟩

/-!
### One computation after another

What a sequence logs and yields, by the outcome of its first part.
-/

@[simp] theorem log_pure (value : α) : (pure value : Traced α).log = [] := rfl

@[simp] theorem outcome_pure (value : α) : (pure value : Traced α).outcome = .ok value := rfl

@[simp] theorem mk_ok_bind (log : List Event) (value : α) (f : α → Traced β) :
    (⟨log, .ok value⟩ : Traced α) >>= f = ⟨log ++ (f value).log, (f value).outcome⟩ := rfl

@[simp] theorem mk_error_bind (log : List Event) (failure : Failure) (f : α → Traced β) :
    (⟨log, .error failure⟩ : Traced α) >>= f = ⟨log, .error failure⟩ := rfl

@[simp] theorem map_mk_ok (log : List Event) (value : α) (f : α → β) :
    f <$> (⟨log, .ok value⟩ : Traced α) = ⟨log, .ok (f value)⟩ := by
  rw [← bind_pure_comp, mk_ok_bind, log_pure, outcome_pure, List.append_nil]

/-- Only a fault of the caller ends an attempt. -/
theorem attempt_of_ne {x : Traced α} (safe : x.outcome ≠ .error .outOfRange) :
    x.attempt = ⟨x.log, .ok x.outcome.toOption⟩ := by
  obtain ⟨log, outcome⟩ := x
  cases outcome with
  | ok value => rfl
  | error failure =>
      cases failure with
      | refused error => rfl
      | outOfRange => exact absurd rfl safe

theorem attempt_of_outOfRange {x : Traced α} (fault : x.outcome = .error .outOfRange) :
    x.attempt = ⟨x.log, .error .outOfRange⟩ := by
  unfold attempt
  rw [fault]

end Traced

end LanAuth
