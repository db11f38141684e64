import ScrobbleRelay.Pattern.Tree

/-!
# Sets of characters

A set of characters is kept as ranges of code points, in rising order and without two that touch.
It also knows whether it is *settled*: whether it surely holds with every letter also its other
case.  Sets that were built without a look at case are not settled, even if they hold both cases.
-/

namespace ScrobbleRelay.Pattern

/-- A set of characters, and whether it is settled. -/
structure CharSet where
  ranges : List (Nat × Nat)
  settled : Bool
  deriving Repr, DecidableEq

namespace CharSet

def greatestChar : Nat := 0x10FFFF

def greatestByte : Nat := 0xFF

/-- The set of no characters. -/
def empty : CharSet := ⟨[], true⟩

/-- Whether a set has no characters. -/
def isEmpty (s : CharSet) : Bool := s.ranges.isEmpty

/-- Whether a set holds a character. -/
def contains (s : CharSet) (c : Char) : Bool :=
  s.ranges.any fun (low, high) => low ≤ c.toNat && c.toNat ≤ high

/-- Ranges in rising order with those joined that overlap or touch. -/
def joined : List (Nat × Nat) → List (Nat × Nat)
  | (a, b) :: (c, d) :: rest =>
    if c ≤ b + 1 then joined ((a, max b d) :: rest) else (a, b) :: joined ((c, d) :: rest)
  | ranges => ranges
termination_by ranges => ranges.length

/-- Ranges in any order as those of a set. -/
def ordered (ranges : List (Nat × Nat)) : List (Nat × Nat) :=
  joined (ranges.mergeSort fun a b => a.1 < b.1 || (a.1 == b.1 && a.2 ≤ b.2))

/-- The ranges between those of a set, from a code point on and up to the greatest. -/
def gapsFrom (greatest start : Nat) : List (Nat × Nat) → List (Nat × Nat)
  | [] => if start ≤ greatest then [(start, greatest)] else []
  | (a, b) :: rest =>
    if start < a then (start, a - 1) :: gapsFrom greatest (b + 1) rest
    else gapsFrom greatest (b + 1) rest

/-- What the ranges of two sets have in common. -/
def overlap (first second : List (Nat × Nat)) : List (Nat × Nat) :=
  first.flatMap fun (a, b) =>
    second.filterMap fun (c, d) =>
      if max a c ≤ min b d then some (max a c, min b d) else none

/-- A set with one more range of characters. -/
def push (s : CharSet) (range : Nat × Nat) : CharSet := ⟨ordered (range :: s.ranges), false⟩

/-- The characters that are in one of two sets. -/
def union (s t : CharSet) : CharSet :=
  if t.isEmpty || s.ranges == t.ranges then s
  else ⟨ordered (s.ranges ++ t.ranges), s.settled && t.settled⟩

/-- The characters up to the greatest that are not in a set. -/
def complement (greatest : Nat) (s : CharSet) : CharSet :=
  ⟨gapsFrom greatest 0 s.ranges, s.isEmpty || s.settled⟩

/-- The characters that are in both of two sets. -/
def intersection (s t : CharSet) : CharSet :=
  if s.isEmpty then s
  else if t.isEmpty then empty
  else ⟨ordered (overlap s.ranges t.ranges), s.settled && t.settled⟩

/-- The characters that are in a set but not in another. -/
def difference (s t : CharSet) : CharSet :=
  if s.isEmpty || t.isEmpty then s
  else ⟨ordered (overlap s.ranges (gapsFrom greatestChar 0 t.ranges)), s.settled && t.settled⟩

def combine (op : SetOperation) (s t : CharSet) : CharSet :=
  match op with
  | .intersection => s.intersection t
  | .difference => s.difference t
  | .symmetricDifference => (s.union t).difference (s.intersection t)

/-- Whether all characters of a set are ASCII characters. -/
def isAscii (s : CharSet) : Bool := s.ranges.all fun (_, high) => high ≤ 0x7F

/-- What a range has in common with the ASCII letters of one case, moved by a distance. -/
def otherCase (range : Nat × Nat) : List (Nat × Nat) :=
  (overlap [range] [(0x41, 0x5A)]).map (fun (a, b) => (a + 32, b + 32)) ++
    (overlap [range] [(0x61, 0x7A)]).map (fun (a, b) => (a - 32, b - 32))

/-- A set with the other case of its ASCII letters. -/
def withOtherCase (s : CharSet) : CharSet :=
  ⟨ordered (s.ranges ++ s.ranges.flatMap otherCase), true⟩

end CharSet

def AsciiClass.ranges : AsciiClass → List (Nat × Nat)
  | alnum => [(0x30, 0x39), (0x41, 0x5A), (0x61, 0x7A)]
  | alpha => [(0x41, 0x5A), (0x61, 0x7A)]
  | ascii => [(0x00, 0x7F)]
  | blank => [(0x09, 0x09), (0x20, 0x20)]
  | cntrl => [(0x00, 0x1F), (0x7F, 0x7F)]
  | digit => [(0x30, 0x39)]
  | graph => [(0x21, 0x7E)]
  | lower => [(0x61, 0x7A)]
  | print => [(0x20, 0x7E)]
  | punct => [(0x21, 0x2F), (0x3A, 0x40), (0x5B, 0x60), (0x7B, 0x7E)]
  | space => [(0x09, 0x0D), (0x20, 0x20)]
  | upper => [(0x41, 0x5A)]
  | word => [(0x30, 0x39), (0x41, 0x5A), (0x5F, 0x5F), (0x61, 0x7A)]
  | xdigit => [(0x30, 0x39), (0x41, 0x46), (0x61, 0x66)]

def AsciiClass.set (c : AsciiClass) : CharSet := ⟨c.ranges, false⟩

/-- The ASCII characters of a class that has a letter of its own. -/
def Shorthand.asciiSet : Shorthand → CharSet
  | digit => AsciiClass.digit.set
  | space => AsciiClass.space.set
  | word => AsciiClass.word.set

end ScrobbleRelay.Pattern
