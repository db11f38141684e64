/-!
# Whole numbers as text

Decimal text of a given least width, and the reading of plain decimal digits.
-/

namespace ScrobbleRelay.Text

/-- A number in decimal digits, with zeros in front up to `width` digits. -/
def padded (width n : Nat) : String :=
  let digits := toString n
  "".pushn '0' (width - digits.length) ++ digits

/-- The value of a list of decimal digits read after the digits of `value`; `none` at any other
character. -/
def digitsFrom? (value : Nat) : List Char → Option Nat
  | [] => some value
  | c :: rest => if c.isDigit then digitsFrom? (value * 10 + (c.toNat - 48)) rest else none

/-- The number that a nonempty list of decimal digits writes. -/
def natOfDigits? : List Char → Option Nat
  | [] => none
  | cs => digitsFrom? 0 cs

/-- The integer that decimal digits after an optional minus sign write. -/
def intOfDigits? : List Char → Option Int
  | '-' :: cs => (natOfDigits? cs).map fun n => -(n : Int)
  | cs => (natOfDigits? cs).map Int.ofNat

end ScrobbleRelay.Text
