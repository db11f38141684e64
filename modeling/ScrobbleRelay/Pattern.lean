import ScrobbleRelay.Pattern.Match
import ScrobbleRelay.Pattern.Meaning
import ScrobbleRelay.Pattern.Reader
import ScrobbleRelay.Pattern.Size

/-!
# Patterns

A pattern is a text that describes other texts.  `Pattern.ofText` reads it and gives the shape to
look for, or says why it cannot be used: it may be badly written, it may ask for boundaries of words
in all scripts, which are not known, or it may describe too much.
-/

namespace ScrobbleRelay.Pattern

/-- Why a pattern cannot be used. -/
inductive Refusal
  | fault (f : Fault)
  | words
  | size
  deriving Repr, DecidableEq

/-- What is written about a pattern that cannot be used. -/
def Refusal.message (pattern : String) : Refusal → String
  | fault f => f.report pattern
  | words => "error building NFA"
  | size => s!"Compiled regex exceeds size limit of {Shape.greatestSize} bytes."

/-- The shape that a pattern describes. -/
def ofText (pattern : String) : Except Refusal Shape := do
  let node ← (Node.ofText pattern).mapError .fault
  let (shape, _) ← (node.shape? {}).mapError .fault
  if shape.asksForWords then throw .words
  if !shape.fits then throw .size
  return shape

end ScrobbleRelay.Pattern
