/-!
# Characters and strings of TOML

The four kinds of strings, read from just after their opening quotes to just after their closing
ones.  A basic string knows escapes, a literal string does not; the long forms of both may hold line
breaks, which are read as line feeds, and up to two quotes in a row anywhere, also right before the
closing quotes.
-/

namespace ScrobbleRelay.Toml

/-- What a reader returns: a value and the characters after it. -/
abbrev Read (α : Type) := Option (α × List Char)

/-- Blank or tab. -/
def isGap (c : Char) : Bool := c == ' ' || c == '\t'

/-- A list of characters without the blanks and tabs at its front. -/
def skipGap (cs : List Char) : List Char := cs.dropWhile isGap

/-- Characters that may stand in comments: tab and all that is no control. -/
def isPlain (c : Char) : Bool := c == '\t' || (0x20 ≤ c.toNat && c.toNat != 0x7F)

/-- Characters that stand for themselves in a basic string. -/
def isBasicChar (c : Char) : Bool := isPlain c && c != '"' && c != '\\'

/-- Characters that may stand in a literal string. -/
def isLiteralChar (c : Char) : Bool := isPlain c && c != '\''

def hexValue? (c : Char) : Option Nat :=
  if c.isDigit then some (c.toNat - 48)
  else if 'a' ≤ c && c ≤ 'f' then some (c.toNat - 87)
  else if 'A' ≤ c && c ≤ 'F' then some (c.toNat - 55)
  else none

/-- The number that hexadecimal digits write. -/
def hexNumber? (digits : List Char) : Option Nat :=
  digits.foldlM (fun n c => (hexValue? c).map (n * 16 + ·)) 0

/-- The character of a code point; surrogates and numbers beyond the last code point have none. -/
def scalar? (n : Nat) : Option Char := if n.isValidChar then some (Char.ofNat n) else none

/-- The character of an escape by number. -/
def escapedScalar? (digits : List Char) : Option Char := (hexNumber? digits).bind scalar?

def escapedLetter? (c : Char) : Option Char :=
  if c = 'b' then some '\x08'
  else if c = 't' then some '\t'
  else if c = 'n' then some '\n'
  else if c = 'f' then some '\x0c'
  else if c = 'r' then some '\r'
  else if c = '"' then some '"'
  else if c = '\\' then some '\\'
  else none

/-- One more character in front of what was read. -/
def push (c : Char) : Read (List Char) → Read (List Char)
  | some (cs, rest) => some (c :: cs, rest)
  | none => none

def basicRest : List Char → Read (List Char)
  | [] => none
  | '"' :: rest => some ([], rest)
  | '\\' :: 'u' :: a :: b :: c :: d :: rest =>
    match escapedScalar? [a, b, c, d] with
    | some x => push x (basicRest rest)
    | none => none
  | '\\' :: 'U' :: a :: b :: c :: d :: e :: f :: g :: h :: rest =>
    match escapedScalar? [a, b, c, d, e, f, g, h] with
    | some x => push x (basicRest rest)
    | none => none
  | '\\' :: e :: rest =>
    match escapedLetter? e with
    | some x => push x (basicRest rest)
    | none => none
  | c :: rest => if isBasicChar c then push c (basicRest rest) else none

def literalRest : List Char → Read (List Char)
  | [] => none
  | '\'' :: rest => some ([], rest)
  | c :: rest => if isLiteralChar c then push c (literalRest rest) else none

/-- Whether a list of characters begins with a line break. -/
def startsLine : List Char → Bool
  | '\n' :: _ => true
  | '\r' :: '\n' :: _ => true
  | _ => false

/-- The rest of a long basic string.  While `skipping`, which a backslash at the end of a line
begins, blanks and line breaks are left out. -/
def longBasicRest (skipping : Bool) : List Char → Read (List Char)
  | [] => none
  | '"' :: '"' :: '"' :: '"' :: '"' :: rest => some (['"', '"'], rest)
  | '"' :: '"' :: '"' :: '"' :: rest => some (['"'], rest)
  | '"' :: '"' :: '"' :: rest => some ([], rest)
  | '"' :: rest => push '"' (longBasicRest false rest)
  | '\\' :: 'u' :: a :: b :: c :: d :: rest =>
    match escapedScalar? [a, b, c, d] with
    | some x => push x (longBasicRest false rest)
    | none => none
  | '\\' :: 'U' :: a :: b :: c :: d :: e :: f :: g :: h :: rest =>
    match escapedScalar? [a, b, c, d, e, f, g, h] with
    | some x => push x (longBasicRest false rest)
    | none => none
  | '\\' :: e :: rest =>
    match escapedLetter? e with
    | some x => push x (longBasicRest false rest)
    | none => if startsLine (skipGap (e :: rest)) then longBasicRest true rest else none
  | '\r' :: '\n' :: rest =>
    if skipping then longBasicRest true rest else push '\n' (longBasicRest false rest)
  | c :: rest =>
    if c = '\n' then
      if skipping then longBasicRest true rest else push '\n' (longBasicRest false rest)
    else if isGap c && skipping then longBasicRest true rest
    else if isBasicChar c then push c (longBasicRest false rest)
    else none

def longLiteralRest : List Char → Read (List Char)
  | [] => none
  | '\'' :: '\'' :: '\'' :: '\'' :: '\'' :: rest => some (['\'', '\''], rest)
  | '\'' :: '\'' :: '\'' :: '\'' :: rest => some (['\''], rest)
  | '\'' :: '\'' :: '\'' :: rest => some ([], rest)
  | '\'' :: rest => push '\'' (longLiteralRest rest)
  | '\r' :: '\n' :: rest => push '\n' (longLiteralRest rest)
  | c :: rest =>
    if c = '\n' || isLiteralChar c then push c (longLiteralRest rest) else none

/-- A list of characters without one line break at its front. -/
def skipLineBreak : List Char → List Char
  | '\n' :: rest => rest
  | '\r' :: '\n' :: rest => rest
  | cs => cs

/-- A string of any of the four kinds. -/
def readString : List Char → Read String
  | '"' :: '"' :: '"' :: rest =>
    (longBasicRest false (skipLineBreak rest)).map fun (cs, r) => (String.ofList cs, r)
  | '"' :: rest => (basicRest rest).map fun (cs, r) => (String.ofList cs, r)
  | '\'' :: '\'' :: '\'' :: rest =>
    (longLiteralRest (skipLineBreak rest)).map fun (cs, r) => (String.ofList cs, r)
  | '\'' :: rest => (literalRest rest).map fun (cs, r) => (String.ofList cs, r)
  | _ => none

/-- Characters of a name without quotes. -/
def isNameChar (c : Char) : Bool := c.isAlphanum || c == '_' || c == '-'

/-- One name: quoted on one line, or bare. -/
def readName : List Char → Read String
  | '"' :: rest => (basicRest rest).map fun (cs, r) => (String.ofList cs, r)
  | '\'' :: rest => (literalRest rest).map fun (cs, r) => (String.ofList cs, r)
  | cs =>
    let name := cs.takeWhile isNameChar
    if name.isEmpty then none else some (String.ofList name, cs.dropWhile isNameChar)

end ScrobbleRelay.Toml
