import ScrobbleRelay.Text.Digits
import ScrobbleRelay.Time.Civil
import ScrobbleRelay.Toml.Text
import ScrobbleRelay.Toml.Value

/-!
# Numbers, dates and times of TOML

A value that begins with a digit or a sign is a date or time, a floating-point number or an integer,
tried in this order.  Underscores may stand between two digits.  A reader takes the longest
beginning that is of its kind; what follows decides elsewhere whether the value ends there.
-/

namespace ScrobbleRelay.Toml

/-- The first `count` characters, if all of them are decimal digits, as a number. -/
def readFixed (count : Nat) (cs : List Char) : Option (Nat × List Char) :=
  let digits := cs.take count
  if digits.length = count then
    (Text.natOfDigits? digits).map fun n => (n, cs.drop count)
  else none

/-- A two-digit number within bounds. -/
def readTwo (low high : Nat) (cs : List Char) : Option (Nat × List Char) :=
  match readFixed 2 cs with
  | some (n, rest) => if low ≤ n ∧ n ≤ high then some (n, rest) else none
  | none => none

def readChar (c : Char) : List Char → Option (Unit × List Char)
  | x :: rest => if x = c then some ((), rest) else none
  | [] => none

def readDate (cs : List Char) : Option (Unit × List Char) := do
  let (year, cs) ← readFixed 4 cs
  let (_, cs) ← readChar '-' cs
  let (month, cs) ← readTwo 1 12 cs
  let (_, cs) ← readChar '-' cs
  let (day, cs) ← readTwo 1 31 cs
  if day ≤ Time.daysInMonth year month then some ((), cs) else none

/-- The fraction of a second, if there is one. -/
def skipFraction : List Char → List Char
  | '.' :: d :: rest => if d.isDigit then rest.dropWhile Char.isDigit else '.' :: d :: rest
  | cs => cs

def readTime (cs : List Char) : Option (Unit × List Char) := do
  let (_, cs) ← readTwo 0 23 cs
  let (_, cs) ← readChar ':' cs
  let (_, cs) ← readTwo 0 59 cs
  let (_, cs) ← readChar ':' cs
  let (_, cs) ← readTwo 0 60 cs
  some ((), skipFraction cs)

/-- The distance from universal time, if there is one. -/
def readOffset : List Char → Option (Unit × List Char)
  | 'Z' :: rest => some ((), rest)
  | 'z' :: rest => some ((), rest)
  | c :: rest =>
    if c = '+' ∨ c = '-' then do
      let (_, rest) ← readTwo 0 23 rest
      let (_, rest) ← readChar ':' rest
      let (_, rest) ← readTwo 0 59 rest
      some ((), rest)
    else some ((), c :: rest)
  | [] => some ((), [])

/-- A date, a time, or both, with or without a distance from universal time. -/
def readDatetime (cs : List Char) : Option (Value × List Char) :=
  match readDate cs with
  | some (_, rest) =>
    match rest with
    | c :: after =>
      if c = 'T' ∨ c = 't' ∨ c = ' ' then
        match readTime after with
        | some (_, r) => (readOffset r).map fun (_, r) => (.datetime, r)
        | none => some (.datetime, rest)
      else some (.datetime, rest)
    | [] => some (.datetime, [])
  | none => (readTime cs).map fun (_, r) => (.datetime, r)

/-- Digits of a kind, with single underscores between them; `after` tells whether the character
before was a digit. -/
def digitRun (isDigit : Char → Bool) (after : Bool) : List Char → List Char × List Char
  | [] => ([], [])
  | c :: rest =>
    if isDigit c then
      let (digits, r) := digitRun isDigit true rest
      (c :: digits, r)
    else if c = '_' && after then
      match rest with
      | d :: _ =>
        if isDigit d then digitRun isDigit false rest
        else ([], c :: rest)
      | [] => ([], [c])
    else ([], c :: rest)

/-- A sign, if there is one: `true` for minus. -/
def readSign : List Char → Bool × List Char
  | '+' :: rest => (false, rest)
  | '-' :: rest => (true, rest)
  | cs => (false, cs)

/-- The digits of a decimal integer: no zero in front of another digit. -/
def decimalDigits (cs : List Char) : Option (List Char × List Char) :=
  match cs with
  | '0' :: rest => some (['0'], rest)
  | _ =>
    match digitRun Char.isDigit false cs with
    | ([], _) => none
    | (digits, rest) => some (digits, rest)

/-- The digits of a part of a floating-point number, zeros in front allowed. -/
def looseDigits (cs : List Char) : Option (List Char × List Char) :=
  match digitRun Char.isDigit false cs with
  | ([], _) => none
  | (digits, rest) => some (digits, rest)

/-- The fraction of a floating-point number, if there is one. -/
def readFraction : List Char → Option (Option (List Char) × List Char)
  | '.' :: rest => (looseDigits rest).map fun (digits, r) => (some digits, r)
  | cs => some (none, cs)

/-- The exponent of a floating-point number, if there is one. -/
def readExponent : List Char → Option (Option Int × List Char)
  | c :: rest =>
    if c = 'e' ∨ c = 'E' then do
      let (negative, rest) := readSign rest
      let (digits, rest) ← looseDigits rest
      let n ← Text.natOfDigits? digits
      some (some (if negative then -(n : Int) else n), rest)
    else some (none, c :: rest)
  | [] => some (none, [])

def infinityBits : UInt64 := 0x7FF0000000000000

def nanBits : UInt64 := 0x7FF8000000000000

/-- The bits of the binary number nearest to the decimal that `digits` write, times a power of ten.
-/
def nearestBits (digits : List Char) (exponent : Int) : UInt64 :=
  let n := (Text.natOfDigits? digits).getD 0
  let size := (toString n).length + exponent
  if n = 0 ∨ size < -400 then 0
  else if 400 < size then infinityBits
  else (Float.ofScientific n (decide (exponent < 0)) exponent.natAbs).toBits

def signedBits (negative : Bool) (bits : UInt64) : UInt64 :=
  if negative then bits ||| 0x8000000000000000 else bits

/-- A floating-point number: with a fraction, an exponent or both, or one of the names of infinity
and of what is no number.  A positive number beyond the greatest one is refused. -/
def readFloat (cs : List Char) : Option (Value × List Char) :=
  let (negative, rest) := readSign cs
  match rest with
  | 'i' :: 'n' :: 'f' :: r => some (.float (signedBits negative infinityBits), r)
  | 'n' :: 'a' :: 'n' :: r => some (.float (signedBits negative nanBits), r)
  | _ => do
    let (whole, r) ← decimalDigits rest
    let (fraction, r) ← readFraction r
    let (exponent, r) ← readExponent r
    if fraction.isNone && exponent.isNone then none
    else
      let places := fraction.getD []
      let bits := nearestBits (whole ++ places) (exponent.getD 0 - places.length)
      if bits == infinityBits && !negative then none
      else some (.float (signedBits negative bits), r)

/-- An integer within 64 bits. -/
def boundedInteger (n : Int) (rest : List Char) : Option (Value × List Char) :=
  if -0x8000000000000000 ≤ n ∧ n < 0x8000000000000000 then some (.integer n, rest) else none

/-- The value of a digit of a given base. -/
def digitOf? (base : Nat) (c : Char) : Option Nat :=
  (hexValue? c).filter (· < base)

/-- The integer after a sign for its base. -/
def readBased (base : Nat) (cs : List Char) : Option (Value × List Char) :=
  let (digits, rest) := digitRun (fun c => (digitOf? base c).isSome) false cs
  if digits.isEmpty then none
  else
    let n := digits.foldl (fun n c => n * base + (digitOf? base c).getD 0) 0
    boundedInteger n rest

/-- An integer: decimal with an optional sign, or in one of the bases 16, 8 and 2. -/
def readInteger : List Char → Option (Value × List Char)
  | '0' :: 'x' :: rest => readBased 16 rest
  | '0' :: 'o' :: rest => readBased 8 rest
  | '0' :: 'b' :: rest => readBased 2 rest
  | cs => do
    let (negative, rest) := readSign cs
    let (digits, rest) ← decimalDigits rest
    let n ← Text.natOfDigits? digits
    boundedInteger (if negative then -(n : Int) else n) rest

/-- A value that begins with a digit, a sign or a name of infinity. -/
def readNumber (cs : List Char) : Option (Value × List Char) :=
  readDatetime cs <|> readFloat cs <|> readInteger cs

end ScrobbleRelay.Toml
