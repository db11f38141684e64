/-!
# Names in letters, digits and hyphens

A label with characters beyond ASCII has a form in ASCII: its ASCII characters, a hyphen if there
are any, and then digits that tell where the other characters are put in.  These are put in from the
least code point on; a number of base 36, whose digits have changing bounds, tells how many steps of
place and code point lie between one and the next.
-/

namespace ScrobbleRelay.Web.Domain.Punycode

def base : Nat := 36

def firstBias : Nat := 72

def firstCode : Nat := 128

/-- Numbers have to be below this. -/
def limit : Nat := 0x100000000

/-- A digit: small letters, then decimal digits. -/
def digitChar (d : Nat) : Char := if d < 26 then Char.ofNat (97 + d) else Char.ofNat (22 + d)

/-- The value of a digit, with letters of either case. -/
def digitValue? (c : Char) : Option Nat :=
  if c.isLower then some (c.toNat - 97)
  else if c.isUpper then some (c.toNat - 65)
  else if c.isDigit then some (c.toNat - 22)
  else none

/-- The bound of the digit at a position, the positions being multiples of the base: a digit below
it ends the number. -/
def bound (bias position : Nat) : Nat := max 1 (min 26 (position - bias))

/-- Divide by 35 until 455 is not exceeded, counting the base for each time; `fuel` bounds the
number of times. -/
def settle : Nat → Nat → Nat → Nat × Nat
  | 0, delta, counted => (delta, counted)
  | fuel + 1, delta, counted =>
    if 455 < delta then settle fuel (delta / 35) (counted + base) else (delta, counted)

/-- The bias after a number, with `count` characters in place. -/
def adapted (delta count : Nat) (isFirst : Bool) : Nat :=
  let halved := if isFirst then delta / 700 else delta / 2
  let (rest, counted) := settle 32 (halved + halved / count) 0
  counted + base * rest / (rest + 38)

def isAscii (c : Char) : Bool := c.toNat < 128

/-! ### Writing -/

/-- The digits of a number; `fuel` bounds how many there are. -/
def digitsWithin (bias : Nat) : Nat → Nat → Nat → List Char
  | 0, _, _ => []
  | fuel + 1, position, n =>
    let t := bound bias position
    if n < t then [digitChar n]
    else
      digitChar (t + (n - t) % (base - t)) ::
        digitsWithin bias fuel (position + base) ((n - t) / (base - t))

def digits (bias n : Nat) : List Char := digitsWithin bias (n + 1) base n

/-- Where writing stands: the steps since the last number, the bias, how many characters are in
place, and what was written. -/
structure Writing where
  delta : Nat
  bias : Nat
  count : Nat
  written : List Char
  deriving Repr

/-- Go past one character while those with a code point are put in. -/
def Writing.pass (ascii code : Nat) (w : Writing) (c : Char) : Writing :=
  if c.toNat < code then { w with delta := w.delta + 1 }
  else if c.toNat = code then
    { delta := 0
      bias := adapted w.delta (w.count + 1) (w.count == ascii)
      count := w.count + 1
      written := w.written ++ digits w.bias w.delta }
  else w

/-- Put in the characters with code points from a rising list, where all below `code` are in place.
-/
def writeCodes (label : List Char) (ascii : Nat) (w : Writing) (code : Nat) :
    List Nat → Writing
  | [] => w
  | next :: rest =>
    let w := { w with delta := w.delta + (next - code) * (w.count + 1) }
    let w := label.foldl (Writing.pass ascii next) w
    writeCodes label ascii { w with delta := w.delta + 1 } (next + 1) rest

/-- The ASCII form of a label, without the letters that mark it as one. -/
def encode (label : List Char) : List Char :=
  let ascii := label.filter isAscii
  let codes := (((label.filter fun c => !isAscii c).map Char.toNat).mergeSort (· ≤ ·)).eraseDups
  let w := writeCodes label ascii.length ⟨0, firstBias, ascii.length, []⟩ firstCode codes
  ascii ++ (if ascii.isEmpty then [] else ['-']) ++ w.written

/-! ### Reading -/

/-- Read a number and add it to `total`; `weight` is what the next digit counts. -/
def readNumber (bias : Nat) : Nat → Nat → Nat → List Char → Option (Nat × List Char)
  | _, _, _, [] => none
  | position, weight, total, c :: rest =>
    match digitValue? c with
    | none => none
    | some d =>
      let total := total + d * weight
      let t := bound bias position
      if limit ≤ total then none
      else if d < t then some (total, rest)
      else
        let weight := weight * (base - t)
        if limit ≤ weight then none else readNumber bias (position + base) weight total rest

/-- Put in the characters that digits tell, where the last one was put in before `place` and has the
code point `code`; `fuel` bounds how many there are. -/
def insertWithin : Nat → Nat → Nat → Nat → List Char → List Char → Option (List Char)
  | 0, _, _, _, label, _ => some label
  | _, _, _, _, label, [] => some label
  | fuel + 1, bias, code, place, label, cs =>
    match readNumber bias base 1 place cs with
    | none => none
    | some (total, rest) =>
      let count := label.length + 1
      let code := code + total / count
      let place' := total % count
      if code.isValidChar then
        insertWithin fuel (adapted (total - place) count (place == 0)) code (place' + 1)
          (label.insertIdx place' (Char.ofNat code)) rest
      else none

/-- The label that an ASCII form stands for.  A hyphen that nothing stands before parts nothing. -/
def decode? (cs : List Char) : Option (List Char) :=
  let tail := (cs.reverse.takeWhile (· != '-')).reverse
  let ascii := (cs.take (cs.length - tail.length)).dropLast
  if !cs.all isAscii || tail.length + 1 = cs.length then none
  else insertWithin tail.length firstBias firstCode 0 ascii tail

end ScrobbleRelay.Web.Domain.Punycode
