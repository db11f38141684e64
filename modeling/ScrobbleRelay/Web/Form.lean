/-!
# Form texts

The encoding of names and values in a query or in the body of a form: letters, digits and four signs
stand for themselves, a blank becomes a plus, and every other byte of the UTF-8 form of a text a
percent sign with two hexadecimal digits.  Pairs are joined by ampersands, a name and its value by
an equals sign.  `readPairs?` reads such a text back.
-/

namespace ScrobbleRelay.Web

def upperHexDigit (n : Nat) : Char :=
  if n < 10 then Char.ofNat (48 + n) else Char.ofNat (55 + n)

def hexDigitValue? (c : Char) : Option Nat :=
  if c.isDigit then some (c.toNat - 48)
  else if 'A' ≤ c && c ≤ 'F' then some (c.toNat - 55)
  else if 'a' ≤ c && c ≤ 'f' then some (c.toNat - 87)
  else none

/-- A byte as a percent sign and two hexadecimal digits. -/
def percentEncoded (b : UInt8) : List Char :=
  ['%', upperHexDigit (b.toNat / 16), upperHexDigit (b.toNat % 16)]

/-- The bytes that stand for themselves in a form. -/
def isFormByte (b : UInt8) : Bool :=
  let c := Char.ofNat b.toNat
  c.isAlphanum || c == '*' || c == '-' || c == '.' || c == '_'

def formByte (b : UInt8) : List Char :=
  if isFormByte b then [Char.ofNat b.toNat]
  else if b = 32 then ['+']
  else percentEncoded b

def formChars (s : String) : List Char := s.toUTF8.toList.flatMap formByte

def pairChars (pair : String × String) : List Char :=
  formChars pair.1 ++ '=' :: formChars pair.2

/-- Pairs of names and values as they are written, in their order. -/
def formText (pairs : List (String × String)) : String :=
  String.ofList (['&'].intercalate (pairs.map pairChars))

/-- The bytes that the characters of a form text stand for; a percent sign without two hexadecimal
digits after it stands for itself. -/
def formBytes : List Char → List UInt8
  | [] => []
  | '%' :: a :: b :: rest =>
    match hexDigitValue? a, hexDigitValue? b with
    | some x, some y => UInt8.ofNat (16 * x + y) :: formBytes rest
    | _, _ => 37 :: formBytes (a :: b :: rest)
  | '+' :: rest => 32 :: formBytes rest
  | c :: rest => c.toString.toUTF8.toList ++ formBytes rest

/-- The text that a name or a value of a form stands for. -/
def readFormChars? (cs : List Char) : Option String :=
  String.fromUTF8? (ByteArray.mk (formBytes cs).toArray)

/-- The pieces of a list of characters between the occurrences of a separator. -/
def splitAll (separator : Char) : List Char → List (List Char)
  | [] => [[]]
  | c :: rest =>
    match splitAll separator rest with
    | [] => [[]]
    | piece :: pieces => if c = separator then [] :: piece :: pieces else (c :: piece) :: pieces

/-- A name with its value, split at the first equals sign. -/
def readPair? (cs : List Char) : Option (String × String) := do
  let name ← readFormChars? (cs.takeWhile (· != '='))
  let value ← readFormChars? ((cs.dropWhile (· != '=')).drop 1)
  return (name, value)

/-- The pairs of a form text. -/
def readPairs? (s : String) : Option (List (String × String)) :=
  if s.isEmpty then some [] else (splitAll '&' s.toList).mapM readPair?

end ScrobbleRelay.Web
