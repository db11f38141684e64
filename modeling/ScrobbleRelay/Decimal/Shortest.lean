/-!
# Shortest decimal text of a binary number

A finite binary number of 64 bits is an exact rational, and so is every decimal.  Among the decimals
that are nearer to the number than to any other binary number, the text takes one with the fewest
digits, and of those the nearest.  The search is exact: for one digit, two digits and so on it looks
at the two neighbours of the number on that decimal grid.
-/

namespace ScrobbleRelay.Decimal

/-- A finite nonnegative binary number `mantissa * 2 ^ exponent`, and whether its lower neighbour is
at half the distance of its upper one. -/
structure Binary where
  mantissa : Nat
  exponent : Int
  closeBelow : Bool
  deriving Repr, DecidableEq

/-- The bit above the low 63 bits, set for a negative number. -/
def signBit : Nat := 0x8000000000000000

def leadingBit : Nat := 0x10000000000000

/-- The finite number that the low 63 bits write; `none` for infinity and for what is no number. -/
def Binary.ofBits (bits : UInt64) : Option Binary :=
  let n : Nat := bits.toNat % signBit
  let field : Nat := n / leadingBit
  let fraction : Nat := n % leadingBit
  if field = 2047 then none
  else if field = 0 then some ⟨fraction, -1074, false⟩
  else some ⟨leadingBit + fraction, (field : Int) - 1075, fraction == 0 && 1 < field⟩

/-- The rounding interval of a number in units of a common denominator: the number itself, the
distances to the ends below and above, the denominator, and whether the ends belong to it. -/
structure Interval where
  value : Nat
  below : Nat
  above : Nat
  unit : Nat
  closed : Bool

/-- The rounding interval of a binary number. -/
def Binary.interval (b : Binary) : Interval :=
  let up := Nat.pow 2 b.exponent.toNat
  let down := Nat.pow 2 (-b.exponent).toNat
  { value := 4 * b.mantissa * up
    below := if b.closeBelow then up else 2 * up
    above := 2 * up
    unit := 4 * down
    closed := b.mantissa % 2 == 0 }

/-- Whether the decimal `n * 10 ^ e` lies in an interval, and its distance from the number. -/
def Interval.distance? (i : Interval) (n : Nat) (e : Int) : Option Nat :=
  let scaled := n * Nat.pow 10 e.toNat * i.unit
  let value := i.value * Nat.pow 10 (-e).toNat
  let below := i.below * Nat.pow 10 (-e).toNat
  let above := i.above * Nat.pow 10 (-e).toNat
  if scaled ≤ value then
    let d := value - scaled
    if d < below || (d == below && i.closed) then some d else none
  else
    let d := scaled - value
    if d < above || (d == above && i.closed) then some d else none

/-- The least `k` with a number below `10 ^ k`, looked for upwards from `k`. -/
def magnitudeFrom (i : Interval) (k : Int) : Nat → Int
  | 0 => k
  | fuel + 1 =>
    if i.value * Nat.pow 10 (-k).toNat < Nat.pow 10 k.toNat * i.unit then k
    else magnitudeFrom i (k + 1) fuel

/-- The neighbour of a number on the grid of multiples of `10 ^ e` that reads back, the nearer one
of two. -/
def onGrid? (i : Interval) (e : Int) : Option Nat :=
  let n := i.value * Nat.pow 10 (-e).toNat / (Nat.pow 10 e.toNat * i.unit)
  match i.distance? n e, i.distance? (n + 1) e with
  | some d, some d' => some (if d ≤ d' then n else n + 1)
  | some _, none => some n
  | none, some _ => some (n + 1)
  | none, none => none

/-- The coarsest grid, from `digits` digits on, that holds a decimal that reads back. -/
def shortestFrom (i : Interval) (k : Int) (digits : Nat) : Nat → Nat × Int
  | 0 => (i.value / i.unit, 0)
  | fuel + 1 =>
    match onGrid? i (k - digits) with
    | some n => (n, k - digits)
    | none => shortestFrom i k (digits + 1) fuel

/-- The shortest decimal `n * 10 ^ e` of a positive binary number. -/
def Binary.shortest (b : Binary) : Nat × Int :=
  let i := b.interval
  shortestFrom i (magnitudeFrom i (-330) 700) 1 17

/-- The decimal `n * 10 ^ e` in positional notation, with one digit at least on each side of the
point. -/
def positional (n : Nat) (e : Int) : String :=
  let digits := toString n
  if 0 ≤ e then digits.pushn '0' e.toNat ++ ".0"
  else
    let places := e.natAbs
    let padded := "".pushn '0' (places + 1 - digits.length) ++ digits
    let cs := padded.toList
    let whole := cs.take (cs.length - places)
    let fraction := (cs.drop (cs.length - places)).reverse.dropWhile (· == '0') |>.reverse
    String.ofList whole ++ "." ++ (if fraction.isEmpty then "0" else String.ofList fraction)

/-- The text of a binary number given by its bits: the shortest decimal that reads back, always in
positional notation. -/
def textOfBits (bits : UInt64) : String :=
  let sign := if bits.toNat < signBit then "" else "-"
  match Binary.ofBits bits with
  | none => if bits.toNat % leadingBit = 0 then sign ++ "inf" else "NaN"
  | some b =>
    if b.mantissa = 0 then sign ++ "0.0"
    else
      let (n, e) := b.shortest
      sign ++ positional n e

end ScrobbleRelay.Decimal
