import ScrobbleRelay.Scrobble
import ScrobbleRelay.Task

/-!
# Submitters

A submitter is something that takes scrobbles, one at a time, and has a name.  A submission may
succeed, fail or crash.  A scripted submitter does at each attempt what its script says, and keeps a
ledger of what it was asked for.
-/

namespace ScrobbleRelay.Service

/-- Something that takes scrobbles, working on a world of type `σ`. -/
structure Submitter (σ : Type) where
  name : String
  submit : Scrobble → Task Failure σ Unit

/-- The same submitter, working on a part of a larger world. -/
def Submitter.within {σ τ : Type} (part : τ → σ) (update : σ → τ → τ) (s : Submitter σ) :
    Submitter τ where
  name := s.name
  submit scrobble := (s.submit scrobble).within part update

/-- What a script says about one attempt. -/
inductive Verdict
  | accept
  | refuse (failure : Failure)
  | crash
  deriving Repr, DecidableEq

/-- What a scripted submitter remembers: the number of attempts and what it accepted. -/
structure Ledger where
  attempts : Nat
  accepted : List Scrobble
  deriving Repr, DecidableEq

def Ledger.blank : Ledger := ⟨0, []⟩

def Verdict.ending : Verdict → Ending Failure Unit
  | accept => .done ()
  | refuse failure => .failed failure
  | crash => .crashed

/-- A ledger after one more attempt. -/
def Ledger.record (ledger : Ledger) (verdict : Verdict) (scrobble : Scrobble) : Ledger where
  attempts := ledger.attempts + 1
  accepted := if verdict = .accept then ledger.accepted ++ [scrobble] else ledger.accepted

/-- What a script says about the attempt with a number; beyond its end everything is accepted. -/
def verdictAt (script : List Verdict) (attempt : Nat) : Verdict := script[attempt]?.getD .accept

/-- A submitter that follows a script. -/
def Submitter.scripted (name : String) (script : List Verdict) : Submitter Ledger where
  name
  submit scrobble := fun ledger =>
    let verdict := verdictAt script ledger.attempts
    ⟨verdict.ending, ledger.record verdict scrobble, []⟩

end ScrobbleRelay.Service
