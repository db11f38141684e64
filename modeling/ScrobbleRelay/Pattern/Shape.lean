import ScrobbleRelay.Pattern.CharSet

/-!
# What a pattern describes

A shape says which stretches of a text it covers, without a trace of how it was written: a character
of a set, nothing at all where a test of the surroundings holds, one shape after another, one of
several, or one repeatedly.
-/

namespace ScrobbleRelay.Pattern

/-- A test of a place by the characters before and behind it. -/
inductive Look
  | start
  | finish
  | lineStart
  | lineFinish
  | returnLineStart
  | returnLineFinish
  | boundary (b : Boundary)
  | unicodeBoundary (b : Boundary)
  deriving Repr, DecidableEq

/-- Which stretches of a text are covered.  `capture` covers what its inner shape does, and marks
that the place is remembered. -/
inductive Shape
  | empty
  | char (set : CharSet)
  | look (l : Look)
  | capture (inner : Shape)
  | sequence (parts : List Shape)
  | choice (branches : List Shape)
  | times (least : Nat) (most : Option Nat) (inner : Shape)
  deriving Repr

namespace Shape

def single (c : Char) : Shape := .char ⟨[(c.toNat, c.toNat)], false⟩

/-- Whether a shape covers empty stretches only. -/
def onlyEmpty : Shape → Bool
  | empty => true
  | char _ => false
  | look _ => true
  | capture inner => inner.onlyEmpty
  | sequence parts => allOnlyEmpty parts
  | choice branches => allOnlyEmpty branches
  | times _ _ inner => inner.onlyEmpty
where
  /-- Whether all of some shapes cover empty stretches only. -/
  allOnlyEmpty : List Shape → Bool
    | [] => true
    | s :: rest => s.onlyEmpty && allOnlyEmpty rest

/-- A shape repeatedly.  To repeat what covers nothing changes nothing after the first time, and
what is repeated exactly once stands for itself. -/
def repeated (least : Nat) (most : Option Nat) (inner : Shape) : Shape :=
  let (least, most) :=
    if inner.onlyEmpty then (min least 1, some (min (most.getD 1) 1)) else (least, most)
  if most = some 0 then .empty
  else if least = 1 ∧ most = some 1 then inner
  else .times least most inner

/-- Whether a shape asks for boundaries of words in all scripts. -/
def asksForWords : Shape → Bool
  | empty => false
  | char _ => false
  | look (.unicodeBoundary _) => true
  | look _ => false
  | capture inner => inner.asksForWords
  | sequence parts => anyAsksForWords parts
  | choice branches => anyAsksForWords branches
  | times _ _ inner => inner.asksForWords
where
  /-- Whether one of some shapes asks for boundaries of words in all scripts. -/
  anyAsksForWords : List Shape → Bool
    | [] => false
    | s :: rest => s.asksForWords || anyAsksForWords rest

end Shape

end ScrobbleRelay.Pattern
