import ScrobbleRelay.Pattern.Reading

/-!
# Escapes

A backslash begins an escape.  What follows it may be a character that would otherwise have a
meaning of its own, a letter that stands for a character, the number of a character in hexadecimal
digits, a class with a letter of its own, a property of characters, or an assertion.
-/

namespace ScrobbleRelay.Pattern

def isHexDigit (c : Char) : Bool :=
  c.isDigit || ('a' ≤ c && c ≤ 'f') || ('A' ≤ c && c ≤ 'F')

def hexDigitValue (c : Char) : Nat :=
  if c.isDigit then c.toNat - 48 else c.toLower.toNat - 87

/-- The number that hexadecimal digits write. -/
def hexValue (digits : List Char) : Nat :=
  digits.foldl (fun n c => 16 * n + hexDigitValue c) 0

def charOfNat? (n : Nat) : Option Char := if n.isValidChar then some (Char.ofNat n) else none

/-- Read a given number of hexadecimal digits. -/
def readHexDigits : Nat → Reader (List Char)
  | 0 => return []
  | n + 1 => do
    match ← ahead with
    | [] => complainHere .escapeCut
    | c :: _ =>
      if isHexDigit c then
        step
        let more ← readHexDigits n
        return c :: more
      else complainOf c .hexDigit

/-- Read hexadecimal digits up to a closing brace; `fuel` bounds how many there are. -/
def readHexRun : Nat → Reader (List Char)
  | 0 => return []
  | fuel + 1 => do
    match ← ahead with
    | [] => return []
    | '\x7d' :: _ => return []
    | c :: _ =>
      if isHexDigit c then
        step
        let more ← readHexRun fuel
        return c :: more
      else complainOf c .hexDigit

/-- How many digits follow a letter that announces hexadecimal digits. -/
def hexLength : Char → Nat
  | 'x' => 2
  | 'u' => 4
  | _ => 8

def readHexBraced (start : Place) : Reader Atom := do
  let brace ← here
  let inner := brace.after '\x7b'
  step
  let digits ← readHexRun ((← ahead).length)
  if (← ahead).isEmpty then complainSince brace .escapeCut
  let past ← here
  step
  if digits.isEmpty then complainSince brace .hexEmpty
  match charOfNat? (hexValue digits) with
  | some c => return .literal ⟨⟨start, ← here⟩, c, false⟩
  | none => complain .hexValue ⟨inner, past⟩

/-- Read the number of a character behind the letter that announces it. -/
def readHex (start : Place) (letter : Char) : Reader Atom := do
  step
  match ← ahead with
  | [] => complainHere .escapeCut
  | '\x7b' :: _ => readHexBraced start
  | _ =>
    let first ← here
    let digits ← readHexDigits (hexLength letter)
    match charOfNat? (hexValue digits) with
    | some c => return .literal ⟨⟨start, ← here⟩, c, letter == 'x'⟩
    | none => complainSince first .hexValue

/-- Read a property of characters behind the letter that announces it. -/
def readProperty (start : Place) : Reader Atom := do
  step
  match ← ahead with
  | [] => complainHere .escapeCut
  | '\x7b' :: _ =>
    step
    let name ← gather (· != '\x7d')
    if (← ahead).isEmpty then complainHere .escapeCut
    advance
    return .property ⟨start, ← here⟩ name (name.contains ':' || name.contains '=')
  | '\\' :: _ => complainOf '\\' .propertyLetter
  | c :: _ =>
    step
    return .property ⟨start, ← here⟩ [c] false

/-- The class that a letter stands for. -/
def shorthandOf? (c : Char) : Option Shorthand :=
  match c.toLower with
  | 'd' => some .digit
  | 's' => some .space
  | 'w' => some .word
  | _ => none

/-- Whether a character stands for itself behind a backslash: an ASCII character that is neither a
letter nor a digit nor an angle bracket. -/
def isEscapable (c : Char) : Bool :=
  c.toNat < 0x80 && !c.isAlphanum && c != '<' && c != '>'

/-- The character that a letter stands for behind a backslash. -/
def specialChar? : Char → Option Char
  | 'a' => some '\x07'
  | 'f' => some '\x0c'
  | 't' => some '\t'
  | 'n' => some '\n'
  | 'r' => some '\r'
  | 'v' => some '\x0b'
  | _ => none

/-- What a letter or an angle bracket asserts behind a backslash. -/
def assertionOf? : Char → Option Assertion
  | 'A' => some .textStart
  | 'z' => some .textEnd
  | 'b' => some (.boundary .edge)
  | 'B' => some (.boundary .interior)
  | '<' => some (.boundary .opening)
  | '>' => some (.boundary .closing)
  | _ => none

/-- Whether a character may stand in the name of a boundary. -/
def isBoundaryChar (c : Char) : Bool := c.isAlpha || c == '-'

/-- The boundaries that have a name. -/
def boundaryNames : List (String × Boundary) :=
  [("start", .opening), ("end", .closing), ("start-half", .openingHalf),
    ("end-half", .closingHalf)]

/-- Read the name of a boundary in braces.  If no name begins behind the brace, it is the brace of a
repetition and nothing is read. -/
def readBoundaryName? (start : Place) : Reader (Option Boundary) := do
  let before ← get
  step
  match ← ahead with
  | [] => complainSince start .boundaryCut
  | c :: _ =>
    if isBoundaryChar c then
      let first ← here
      let name ← gather isBoundaryChar
      match ← ahead with
      | '\x7d' :: _ =>
        let past ← here
        advance
        match boundaryNames.lookup (String.ofList name) with
        | some b => return some b
        | none => complain .boundaryUnknown ⟨first, past⟩
      | _ => complainSince before.place .boundaryOpen
    else
      set before
      return none

/-- Read what follows an edge of a word: it may be the name of a boundary. -/
def readEdge (start : Place) : Reader Atom := do
  match ← ahead with
  | '\x7b' :: _ =>
    let past ← here
    match ← readBoundaryName? start with
    | some b => return .assertion ⟨start, ← here⟩ (.boundary b)
    | none => return .assertion ⟨start, past⟩ (.boundary .edge)
  | _ => return .assertion ⟨start, ← here⟩ (.boundary .edge)

def readPlainEscape (start : Place) (c : Char) : Reader Atom := do
  advance
  let span := ⟨start, ← here⟩
  if isEscapable c then return .literal ⟨span, c, false⟩
  else if c == 'b' then readEdge start
  else
    match specialChar? c, assertionOf? c with
    | some special, _ => return .literal ⟨span, special, false⟩
    | none, some a => return .assertion span a
    | none, none => complain .escapeUnknown span

def readEscape : Reader Atom := do
  let start ← here
  advance
  match ← ahead with
  | [] => complainSince start .escapeCut
  | c :: _ =>
    if c.isDigit then complain .backreference ⟨start, (← here).after c⟩
    else if c == 'x' || c == 'u' || c == 'U' then readHex start c
    else if c == 'p' || c == 'P' then readProperty start
    else
      match shorthandOf? c with
      | some kind =>
        advance
        return .shorthand ⟨start, ← here⟩ kind c.isUpper
      | none => readPlainEscape start c

end ScrobbleRelay.Pattern
