import EventMarkup.Notice

/-!
# Outcomes

What an operation on a value leaves behind: the value after it, also if it fails, the notices for
the log, and an answer or the fault.
-/
namespace EventMarkup

/-- What an operation on a value of type `σ` with answers of type `α` leaves behind. -/
structure Outcome (σ α : Type) where
  after : σ
  notices : List Notice
  result : Except Fault α

namespace Outcome

variable {σ τ α β : Type}

def done (after : σ) (answer : α) : Outcome σ α := ⟨after, [], .ok answer⟩

def fail (after : σ) (f : Fault) : Outcome σ α := ⟨after, [], .error f⟩

/-- An outcome with an optional fault in place of an answer. -/
def ofFault? (after : σ) (f : Option Fault) : Outcome σ Unit :=
  match f with
  | none => done after ()
  | some f => fail after f

/-- A fresh value, or the old one and the fault. -/
def ofExcept (before : σ) : Except Fault σ → Outcome σ Unit
  | .ok after => done after ()
  | .error f => fail before f

/-- The outcome, of a larger value that the value is a part of. -/
def within (r : Outcome σ α) (f : σ → τ) : Outcome τ α := ⟨f r.after, r.notices, r.result⟩

def map (r : Outcome σ α) (f : α → β) : Outcome σ β := ⟨r.after, r.notices, r.result.map f⟩

def bind (r : Outcome σ α) (next : σ → α → Outcome σ β) : Outcome σ β :=
  match r.result with
  | .error f => ⟨r.after, r.notices, .error f⟩
  | .ok a =>
    let r' := next r.after a
    ⟨r'.after, r.notices ++ r'.notices, r'.result⟩

end Outcome

end EventMarkup
