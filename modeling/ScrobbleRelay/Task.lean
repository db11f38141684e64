import ScrobbleRelay.Failure
import ScrobbleRelay.Log

/-!
# Tasks

A task works on a piece of the outside world, writes log lines, and ends in one of three ways: with
a value, with an error, or by a crash.  Whatever the ending, the world that was reached and the
lines that were written stay: an error or a crash undoes nothing.  A task is a plain function, so
what it does to every world can be stated and proved.
-/

namespace ScrobbleRelay

open Log (Level Origin Line)

/-- How a task ended. -/
inductive Ending (ε α : Type) where
  | done (value : α)
  | failed (error : ε)
  | crashed
  deriving Repr, DecidableEq

/-- A finished run of a task: its ending, the world after it, and its log lines in order. -/
structure Run (ε σ α : Type) where
  ending : Ending ε α
  world : σ
  lines : List Line

/-- A task on a world of type `σ` with a value of type `α` and errors of type `ε`. -/
def Task (ε σ α : Type) : Type := σ → Run ε σ α

namespace Ending

variable {ε δ α β : Type}

/-- An ending with its error told in another way. -/
def mapError (f : ε → δ) : Ending ε α → Ending δ α
  | done value => done value
  | failed error => failed (f error)
  | crashed => crashed

/-- An ending with its value told in another way. -/
def map (f : α → β) : Ending ε α → Ending ε β
  | done value => done (f value)
  | failed error => failed error
  | crashed => crashed

end Ending

namespace Task

variable {ε δ σ τ α β : Type}

def run (t : Task ε σ α) (world : σ) : Run ε σ α := t world

/-- End at once with a value. -/
def done (value : α) : Task ε σ α := fun world => ⟨.done value, world, []⟩

/-- End at once with an error. -/
def fail (error : ε) : Task ε σ α := fun world => ⟨.failed error, world, []⟩

def crash : Task ε σ α := fun world => ⟨.crashed, world, []⟩

/-- Go on with the value of a task, if it has one; the lines of both parts stay in order. -/
def andThen (t : Task ε σ α) (next : α → Task ε σ β) : Task ε σ β := fun world =>
  let first := t world
  match first.ending with
  | .done value =>
    let second := next value first.world
    ⟨second.ending, second.world, first.lines ++ second.lines⟩
  | .failed error => ⟨.failed error, first.world, first.lines⟩
  | .crashed => ⟨.crashed, first.world, first.lines⟩

instance : Monad (Task ε σ) where
  pure := done
  bind := andThen

def world : Task ε σ σ := fun w => ⟨.done w, w, []⟩

def change (f : σ → σ) : Task ε σ Unit := fun w => ⟨.done (), f w, []⟩

def log (level : Level) (origin : Origin) (text : String) : Task ε σ Unit :=
  fun w => ⟨.done (), w, [⟨level, origin, text⟩]⟩

def ofExcept : Except ε α → Task ε σ α
  | .ok value => done value
  | .error error => fail error

/-- The same task with its error told in another way. -/
def mapError (f : ε → δ) (t : Task ε σ α) : Task δ σ α := fun w =>
  let r := t w
  ⟨r.ending.mapError f, r.world, r.lines⟩

/-- Turn the error of a task into a value; a crash stays a crash. -/
def caught (t : Task ε σ α) : Task δ σ (Except ε α) := fun w =>
  let r := t w
  match r.ending with
  | .done value => ⟨.done (.ok value), r.world, r.lines⟩
  | .failed error => ⟨.done (.error error), r.world, r.lines⟩
  | .crashed => ⟨.crashed, r.world, r.lines⟩

/-- Turn whatever ending a task has into a value. -/
def settled (t : Task ε σ α) : Task δ σ (Ending ε α) := fun w =>
  let r := t w
  ⟨.done r.ending, r.world, r.lines⟩

/-- Run a task on one part of a larger world. -/
def within (part : τ → σ) (update : σ → τ → τ) (t : Task ε σ α) : Task ε τ α := fun w =>
  let r := t (part w)
  ⟨r.ending, update r.world w, r.lines⟩

/-- Name the failure of a task from one level further out. -/
def context (message : String) (t : Task Failure σ α) : Task Failure σ α :=
  t.mapError (Failure.context message)

/-! ### What each operation does to a world -/

@[simp] theorem run_pure (value : α) (w : σ) :
    (pure value : Task ε σ α).run w = ⟨.done value, w, []⟩ := rfl

@[simp] theorem run_fail (error : ε) (w : σ) :
    (fail error : Task ε σ α).run w = ⟨.failed error, w, []⟩ := rfl

@[simp] theorem run_crash (w : σ) : (crash : Task ε σ α).run w = ⟨.crashed, w, []⟩ := rfl

@[simp] theorem run_world (w : σ) : (world : Task ε σ σ).run w = ⟨.done w, w, []⟩ := rfl

@[simp] theorem run_change (f : σ → σ) (w : σ) :
    (change f : Task ε σ Unit).run w = ⟨.done (), f w, []⟩ := rfl

@[simp] theorem run_log (level : Level) (origin : Origin) (text : String) (w : σ) :
    (log level origin text : Task ε σ Unit).run w = ⟨.done (), w, [⟨level, origin, text⟩]⟩ := rfl

@[simp] theorem run_ofExcept_ok (value : α) (w : σ) :
    (ofExcept (.ok value) : Task ε σ α).run w = ⟨.done value, w, []⟩ := rfl

@[simp] theorem run_ofExcept_error (error : ε) (w : σ) :
    (ofExcept (.error error) : Task ε σ α).run w = ⟨.failed error, w, []⟩ := rfl

@[simp] theorem run_mapError (f : ε → δ) (t : Task ε σ α) (w : σ) :
    (t.mapError f).run w = ⟨(t.run w).ending.mapError f, (t.run w).world, (t.run w).lines⟩ := rfl

@[simp] theorem run_within (part : τ → σ) (update : σ → τ → τ) (t : Task ε σ α) (w : τ) :
    (t.within part update).run w =
      ⟨(t.run (part w)).ending, update (t.run (part w)).world w, (t.run (part w)).lines⟩ := rfl

theorem run_bind (t : Task ε σ α) (next : α → Task ε σ β) (w : σ) :
    (t >>= next).run w =
      match (t.run w).ending with
      | .done value =>
        ⟨((next value).run (t.run w).world).ending, ((next value).run (t.run w).world).world,
          (t.run w).lines ++ ((next value).run (t.run w).world).lines⟩
      | .failed error => ⟨.failed error, (t.run w).world, (t.run w).lines⟩
      | .crashed => ⟨.crashed, (t.run w).world, (t.run w).lines⟩ := rfl

end Task

end ScrobbleRelay
