import ScrobbleRelay.Text.Digits

/-!
# JSON

Values of JSON, their reading and the writing of texts.  Numbers are kept as they are written.  Of a
name that an object gives twice, the first value counts.  Values nest at most 127 deep.
-/

namespace ScrobbleRelay.Web

/-- A value of JSON. -/
inductive Json where
  | null
  | bool (b : Bool)
  | number (written : String)
  | string (s : String)
  | array (items : List Json)
  | object (fields : List (String × Json))
  deriving Repr

namespace Json

/-! ### Writing -/

def lowerHexDigit (n : Nat) : Char := if n < 10 then Char.ofNat (48 + n) else Char.ofNat (87 + n)

/-- One character as it stands in a string. -/
def escaped (c : Char) : List Char :=
  if c = '"' then ['\\', '"']
  else if c = '\\' then ['\\', '\\']
  else if c = '\x08' then ['\\', 'b']
  else if c = '\x0c' then ['\\', 'f']
  else if c = '\n' then ['\\', 'n']
  else if c = '\r' then ['\\', 'r']
  else if c = '\t' then ['\\', 't']
  else if c.toNat < 0x20 then
    ['\\', 'u', '0', '0', lowerHexDigit (c.toNat / 16), lowerHexDigit (c.toNat % 16)]
  else [c]

def stringChars (s : String) : List Char := '"' :: s.toList.flatMap escaped ++ ['"']

mutual

/-- A value as it is written, without blanks. -/
def chars : Json → List Char
  | .null => "null".toList
  | .bool b => (if b then "true" else "false").toList
  | .number written => written.toList
  | .string s => stringChars s
  | .array items => '[' :: itemsChars items ++ [']']
  | .object fields => '\x7b' :: fieldsChars fields ++ ['\x7d']

/-- Some values as they are written, with commas between them. -/
def itemsChars : List Json → List Char
  | [] => []
  | [item] => item.chars
  | item :: rest => item.chars ++ ',' :: itemsChars rest

/-- Some fields as they are written, with commas between them. -/
def fieldsChars : List (String × Json) → List Char
  | [] => []
  | [(name, value)] => stringChars name ++ ':' :: value.chars
  | (name, value) :: rest => stringChars name ++ ':' :: value.chars ++ ',' :: fieldsChars rest

end

def text (j : Json) : String := String.ofList j.chars

/-! ### Reading -/

/-- The blanks of JSON. -/
def isGap (c : Char) : Bool := c == ' ' || c == '\n' || c == '\r' || c == '\t'

/-- A list of characters without the blanks at its front. -/
def skipGap (cs : List Char) : List Char := cs.dropWhile isGap

def hexValue? (c : Char) : Option Nat :=
  if c.isDigit then some (c.toNat - 48)
  else if 'a' ≤ c && c ≤ 'f' then some (c.toNat - 87)
  else if 'A' ≤ c && c ≤ 'F' then some (c.toNat - 55)
  else none

/-- The unit that four hexadecimal digits write. -/
def unit? (a b c d : Char) : Option Nat :=
  [a, b, c, d].foldlM (fun n d => (hexValue? d).map (n * 16 + ·)) 0

def escapedLetter? (c : Char) : Option Char :=
  if c = '"' then some '"'
  else if c = '\\' then some '\\'
  else if c = '/' then some '/'
  else if c = 'b' then some '\x08'
  else if c = 'f' then some '\x0c'
  else if c = 'n' then some '\n'
  else if c = 'r' then some '\r'
  else if c = 't' then some '\t'
  else none

/-- One more character in front of what was read. -/
def push (c : Char) : Option (List Char × List Char) → Option (List Char × List Char)
  | some (cs, rest) => some (c :: cs, rest)
  | none => none

/-- The character beyond 16 bits that a high and a low unit write. -/
def pairChar (high low : Nat) : Char :=
  Char.ofNat (0x10000 + (high - 0xD800) * 0x400 + (low - 0xDC00))

/-- The rest of a string.  A character beyond 16 bits may be written as two units. -/
def stringRest : List Char → Option (List Char × List Char)
  | [] => none
  | '"' :: rest => some ([], rest)
  | '\\' :: 'u' :: a :: b :: c :: d :: rest =>
    match unit? a b c d with
    | none => none
    | some high =>
      if 0xD800 ≤ high ∧ high < 0xDC00 then
        match rest with
        | '\\' :: 'u' :: e :: f :: g :: h :: rest =>
          match unit? e f g h with
          | none => none
          | some low =>
            if 0xDC00 ≤ low ∧ low < 0xE000 then
              push (pairChar high low) (stringRest rest)
            else none
        | _ => none
      else if 0xDC00 ≤ high ∧ high < 0xE000 then none
      else push (Char.ofNat high) (stringRest rest)
  | '\\' :: e :: rest =>
    match escapedLetter? e with
    | some c => push c (stringRest rest)
    | none => none
  | c :: rest => if c.toNat < 0x20 then none else push c (stringRest rest)

def readString : List Char → Option (String × List Char)
  | '"' :: rest => (stringRest rest).map fun (cs, r) => (String.ofList cs, r)
  | _ => none

def readDigits (cs : List Char) : Option (List Char × List Char) :=
  match cs.takeWhile Char.isDigit with
  | [] => none
  | digits => some (digits, cs.dropWhile Char.isDigit)

/-- The whole part of a number: no zero in front of another digit. -/
def readWhole : List Char → Option (List Char × List Char)
  | '0' :: rest =>
    match rest with
    | d :: _ => if d.isDigit then none else some (['0'], rest)
    | [] => some (['0'], [])
  | cs => readDigits cs

/-- The fraction of a number, if there is one. -/
def readFraction : List Char → Option (List Char × List Char)
  | '.' :: rest => (readDigits rest).map fun (digits, r) => ('.' :: digits, r)
  | cs => some ([], cs)

/-- The exponent of a number, if there is one. -/
def readExponent : List Char → Option (List Char × List Char)
  | c :: rest =>
    if c = 'e' ∨ c = 'E' then
      match rest with
      | '+' :: rest => (readDigits rest).map fun (digits, r) => (c :: '+' :: digits, r)
      | '-' :: rest => (readDigits rest).map fun (digits, r) => (c :: '-' :: digits, r)
      | rest => (readDigits rest).map fun (digits, r) => (c :: digits, r)
    else some ([], c :: rest)
  | [] => some ([], [])

def readNumber (cs : List Char) : Option (Json × List Char) :=
  let sign := match cs with
    | '-' :: _ => ['-']
    | _ => []
  match readWhole (cs.drop sign.length) with
  | none => none
  | some (whole, rest) =>
    match readFraction rest with
    | none => none
    | some (fraction, rest) =>
      (readExponent rest).map fun (exponent, r) =>
        (.number (String.ofList (sign ++ whole ++ fraction ++ exponent)), r)

/-- The items of an array, from after the opening bracket or a comma to after the closing one. -/
def readItems (readItem : List Char → Option (Json × List Char)) (fuel : Nat) (cs : List Char) :
    Option (List Json × List Char) :=
  match fuel with
  | 0 => none
  | fuel + 1 =>
    match readItem (skipGap cs) with
    | none => none
    | some (item, rest) =>
      match skipGap rest with
      | ',' :: rest => (readItems readItem fuel rest).map fun (items, r) => (item :: items, r)
      | ']' :: rest => some ([item], rest)
      | _ => none

/-- The fields of an object, from after the opening brace or a comma to after the closing one. -/
def readFields (readItem : List Char → Option (Json × List Char)) (fuel : Nat) (cs : List Char) :
    Option (List (String × Json) × List Char) :=
  match fuel with
  | 0 => none
  | fuel + 1 =>
    match readString (skipGap cs) with
    | none => none
    | some (name, rest) =>
      match skipGap rest with
      | ':' :: rest =>
        match readItem (skipGap rest) with
        | none => none
        | some (value, rest) =>
          match skipGap rest with
          | ',' :: rest =>
            (readFields readItem fuel rest).map fun (fields, r) => ((name, value) :: fields, r)
          | '\x7d' :: rest => some ([(name, value)], rest)
          | _ => none
      | _ => none

/-- A value that nests less than `depth` deep. -/
def readValue : Nat → List Char → Option (Json × List Char)
  | 0, _ => none
  | depth + 1, cs =>
    match cs with
    | 'n' :: 'u' :: 'l' :: 'l' :: rest => some (.null, rest)
    | 't' :: 'r' :: 'u' :: 'e' :: rest => some (.bool true, rest)
    | 'f' :: 'a' :: 'l' :: 's' :: 'e' :: rest => some (.bool false, rest)
    | '"' :: rest => (stringRest rest).map fun (s, r) => (.string (String.ofList s), r)
    | '[' :: rest =>
      match skipGap rest with
      | ']' :: rest => some (.array [], rest)
      | rest =>
        (readItems (readValue depth) (rest.length + 1) rest).map fun (items, r) => (.array items, r)
    | '\x7b' :: rest =>
      match skipGap rest with
      | '\x7d' :: rest => some (.object [], rest)
      | rest =>
        (readFields (readValue depth) (rest.length + 1) rest).map fun (fields, r) =>
          (.object fields, r)
    | cs => readNumber cs

def ofText? (s : String) : Option Json :=
  match readValue 128 (skipGap s.toList) with
  | some (value, rest) => if (skipGap rest).isEmpty then some value else none
  | none => none

def field? (j : Json) (name : String) : Option Json :=
  match j with
  | .object fields => fields.lookup name
  | _ => none

def string? : Json → Option String
  | .string s => some s
  | _ => none

/-- The truth value of a boolean. -/
def bool? : Json → Option Bool
  | .bool b => some b
  | _ => none

/-- A number without fraction and exponent. -/
def int? : Json → Option Int
  | .number written => Text.intOfDigits? written.toList
  | _ => none

/-- A number of 16 bits. -/
def word? (j : Json) : Option Nat :=
  match j.int? with
  | some (.ofNat n) => if n < 65536 then some n else none
  | _ => none

/-- A number of 64 bits with a sign. -/
def long? (j : Json) : Option Int :=
  j.int?.filter fun n => -9223372036854775808 ≤ n && n < 9223372036854775808

end Json

end ScrobbleRelay.Web
