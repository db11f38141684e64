import ScrobbleRelay.Toml.Text
import ScrobbleRelay.Toml.Value

/-!
# Writing a TOML document

A sheet is a document of a simple build: lines that give texts, truth values and empty arrays to
names, and parts of such lines below headings of one name.  `Sheet.chars` writes it, and
`Sheet.document` is the document that it writes.

A text is written in the plainest of the four kinds of strings that needs no escapes for it; where
all need some, between double quotes.  A text with a line feed is written in a long form, its first
line on a line of its own.
-/

namespace ScrobbleRelay.Toml

/-- A value that a sheet gives to a name. -/
inductive Literal
  | text (s : String)
  | flag (b : Bool)
  | nothing
  deriving Repr, DecidableEq

/-- The value of a literal; `nothing` is an array without elements. -/
def Literal.value : Literal → Value
  | text s => .string s
  | flag b => .boolean b
  | nothing => .array []

/-- The kinds of strings: between double or single quotes, and their long forms. -/
inductive Quotes
  | basic
  | literal
  | longBasic
  | longLiteral
  deriving Repr, DecidableEq

/-- The length of the longest run of a character. -/
def longestRun (c : Char) : Nat → List Char → Nat
  | run, [] => run
  | run, x :: rest => if x = c then longestRun c (run + 1) rest else max run (longestRun c 0 rest)

/-- Whether a character can only be written by an escape: the controls but tab and line feed. -/
def needsEscape (c : Char) : Bool := !isPlain c && c != '\n'

/-- The kind of string that a text is written as: the first of basic, literal, long basic and long
literal in which every character but the tab stands for itself, or else a basic string with escapes,
long if the text has a line feed. -/
def quotesFor (cs : List Char) : Quotes :=
  let escapes := cs.any needsEscape
  let broken := cs.contains '\n'
  let backslash := cs.contains '\\'
  let double := longestRun '"' 0 cs
  let single := longestRun '\'' 0 cs
  if !escapes && !backslash && double = 0 && !broken then .basic
  else if !escapes && single = 0 && !broken then .literal
  else if !escapes && !backslash && double ≤ 2 then .longBasic
  else if !escapes && single ≤ 2 then .longLiteral
  else if broken then .longBasic
  else .basic

/-- Four upper-case hexadecimal digits. -/
def fourDigits (n : Nat) : List Char :=
  let digits := (Nat.toDigits 16 n).map Char.toUpper
  List.replicate (4 - digits.length) '0' ++ digits

/-- One character other than a quote as it stands between double quotes; the long form keeps line
feeds. -/
def escapedChar (long : Bool) (c : Char) : List Char :=
  if c = '\x08' then ['\\', 'b']
  else if c = '\t' then ['\\', 't']
  else if c = '\n' then (if long then ['\n'] else ['\\', 'n'])
  else if c = '\x0c' then ['\\', 'f']
  else if c = '\r' then ['\\', 'r']
  else if c = '\\' then ['\\', '\\']
  else if c.toNat < 0x20 || c.toNat == 0x7F then '\\' :: 'u' :: fourDigits c.toNat
  else [c]

/-- A text as it stands between double quotes.  The long form keeps two quotes in a row; `quotes`
counts those just before. -/
def basicChars (long : Bool) (quotes : Nat) : List Char → List Char
  | [] => []
  | c :: rest =>
    if c = '"' then
      if long && quotes < 2 then '"' :: basicChars long (quotes + 1) rest
      else '\\' :: '"' :: basicChars long 0 rest
    else escapedChar long c ++ basicChars long 0 rest

/-- The line feed with which the long form of a text of several lines begins. -/
def leadingBreak (cs : List Char) : List Char := if cs.contains '\n' then ['\n'] else []

/-- A text as a string of a kind. -/
def quotedChars (quotes : Quotes) (cs : List Char) : List Char :=
  match quotes with
  | .basic => '"' :: basicChars false 0 cs ++ ['"']
  | .literal => '\'' :: cs ++ ['\'']
  | .longBasic =>
    '"' :: '"' :: '"' :: leadingBreak cs ++ basicChars true 0 cs ++ ['"', '"', '"']
  | .longLiteral => '\'' :: '\'' :: '\'' :: leadingBreak cs ++ cs ++ ['\'', '\'', '\'']

def stringChars (cs : List Char) : List Char := quotedChars (quotesFor cs) cs

def Literal.chars : Literal → List Char
  | text s => stringChars s.toList
  | flag b => (if b then "true" else "false").toList
  | nothing => "[]".toList

def BareName (name : String) : Prop := name.toList ≠ [] ∧ ∀ c ∈ name.toList, isNameChar c = true

instance (name : String) : Decidable (BareName name) := inferInstanceAs (Decidable (_ ∧ _))

/-- A name as it is written: bare if it can be. -/
def nameChars (name : String) : List Char :=
  if BareName name then name.toList
  else quotedChars .basic name.toList

/-- A line that gives a value to a name. -/
structure Entry where
  name : String
  literal : Literal
  deriving Repr, DecidableEq

def Entry.chars (e : Entry) : List Char :=
  nameChars e.name ++ " = ".toList ++ e.literal.chars ++ ['\n']

/-- A part of a sheet: its heading and its lines. -/
structure Part where
  name : String
  isElement : Bool
  entries : List Entry
  deriving Repr, DecidableEq

def Part.headingChars (p : Part) : List Char :=
  if p.isElement then "[[".toList ++ nameChars p.name ++ "]]\n".toList
  else "[".toList ++ nameChars p.name ++ "]\n".toList

def Part.chars (p : Part) : List Char := p.headingChars ++ p.entries.flatMap Entry.chars

/-- A document of a simple build. -/
structure Sheet where
  entries : List Entry
  parts : List Part
  deriving Repr, DecidableEq

/-- Some parts as they are written: an empty line stands between a part and what comes before it,
told by `first`. -/
def partsChars (first : Bool) : List Part → List Char
  | [] => []
  | p :: rest => (if first then [] else ['\n']) ++ p.chars ++ partsChars false rest

def Sheet.chars (s : Sheet) : List Char :=
  s.entries.flatMap Entry.chars ++ partsChars s.entries.isEmpty s.parts

def Sheet.text (s : Sheet) : String := String.ofList s.chars

def Entry.assignment (e : Entry) : Assignment := ⟨[], e.name, e.literal.value⟩

/-- A part as a part of a document. -/
def Part.asSection (p : Part) : Section :=
  ⟨⟨[], p.name, p.isElement⟩, p.entries.map Entry.assignment⟩

def Sheet.document (s : Sheet) : Document :=
  ⟨s.entries.map Entry.assignment, s.parts.map Part.asSection⟩

end ScrobbleRelay.Toml
