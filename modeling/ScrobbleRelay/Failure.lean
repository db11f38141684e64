/-!
# Failures as they are told

Every part of the library has its own type of causes.  When a cause leaves the part in which it
arose it becomes a `Failure`: the text that names it and the texts of what brought it about, from
the outermost to the innermost.  The two forms in which a failure is shown, on one line of a log and
as the last words of the program, are functions of those texts alone.
-/

namespace ScrobbleRelay

/-- A failure: what went wrong, and the chain of its causes, outermost first. -/
structure Failure where
  message : String
  causes : List String
  deriving Repr, DecidableEq, Inhabited

namespace Failure

/-- A failure without a deeper cause. -/
def plain (message : String) : Failure := ⟨message, []⟩

/-- All texts of a failure, outermost first. -/
def texts (f : Failure) : List String := f.message :: f.causes

/-- The same failure, seen from one level further out. -/
def context (message : String) (f : Failure) : Failure := ⟨message, f.texts⟩

/-- A failure on one line: its texts, joined by a colon and a blank. -/
def oneLine (f : Failure) : String := ": ".intercalate f.texts

/-- One numbered or plain cause; the lines after its first are set in as far as the first. -/
private def causeText (number : Option Nat) (text : String) : String :=
  let lead := match number with
    | some n => "".pushn ' ' (5 - (toString n).length) ++ toString n ++ ": "
    | none => "    "
  let indent := match number with
    | some _ => "\n       "
    | none => "\n    "
  lead ++ indent.intercalate (text.splitOn "\n")

/-- A failure as the last words of the program: the message, and under `Caused by:` the causes,
numbered when there are several. -/
def report (f : Failure) : String :=
  match f.causes with
  | [] => f.message
  | [cause] => f.message ++ "\n\nCaused by:\n" ++ causeText none cause
  | causes =>
    f.message ++ "\n\nCaused by:\n" ++
      "\n".intercalate (causes.zipIdx.map fun (cause, n) => causeText (some n) cause)

@[simp] theorem texts_context (message : String) (f : Failure) :
    (f.context message).texts = message :: f.texts := rfl

end Failure

end ScrobbleRelay
