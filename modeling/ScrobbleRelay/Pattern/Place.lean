/-!
# Places in a pattern

A place is a line and a column, both counted from one, and a span is what lies between two places.
-/

namespace ScrobbleRelay.Pattern

/-- A line and a column. -/
structure Place where
  line : Nat
  column : Nat
  deriving Repr, DecidableEq

/-- The place of the first character. -/
def Place.start : Place := ⟨1, 1⟩

/-- The place behind a character. -/
def Place.after (p : Place) (c : Char) : Place :=
  if c = '\n' then ⟨p.line + 1, 1⟩ else ⟨p.line, p.column + 1⟩

/-- What lies from one place up to another. -/
structure Span where
  first : Place
  past : Place
  deriving Repr, DecidableEq

/-- The empty span at a place. -/
def Span.at (p : Place) : Span := ⟨p, p⟩

def Span.onOneLine (s : Span) : Bool := s.first.line == s.past.line

/-- How many columns are marked for a span on one line: as many as it has, and at least one. -/
def Span.width (s : Span) : Nat := max 1 (s.past.column - s.first.column)

end ScrobbleRelay.Pattern
