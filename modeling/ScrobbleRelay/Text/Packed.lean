/-!
# Packed tables

A table about all characters is kept as a text of numbers, each written in base 26 with letters for
digits, the last digit as a capital.  `numbers` reads such a text.  A table of ranges has three
numbers for each of them: how many code points lie between it and the range before, how long it is,
and the value of its code points; all others have the value zero.
-/

namespace ScrobbleRelay.Text.Packed

/-- The numbers that a list of letters writes, where digits for `n` stand before it. -/
def numbersFrom (n : Nat) : List Char → List Nat
  | [] => []
  | c :: rest =>
    if c.isUpper then (26 * n + (c.toNat - 65)) :: numbersFrom 0 rest
    else numbersFrom (26 * n + (c.toNat - 97)) rest

/-- The numbers that some lines of letters write. -/
def numbers (lines : List String) : List Nat := numbersFrom 0 (String.join lines).toList

/-- Code points from the first to the last, and their value. -/
structure Range where
  first : Nat
  last : Nat
  value : Nat
  deriving Repr, DecidableEq

/-- The ranges that numbers write, from a code point on. -/
def rangesFrom (start : Nat) : List Nat → List Range
  | gap :: length :: value :: rest =>
    let next := start + gap + length
    ⟨start + gap, next - 1, value⟩ :: rangesFrom next rest
  | _ => []

/-- The ranges that some lines of letters write. -/
def ranges (lines : List String) : List Range := rangesFrom 0 (numbers lines)

def valueOf (table : List Range) (n : Nat) : Nat :=
  ((table.find? fun range => range.first ≤ n && n ≤ range.last).map (·.value)).getD 0

end ScrobbleRelay.Text.Packed
