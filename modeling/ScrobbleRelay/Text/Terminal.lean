/-!
# Texts without terminal control sequences

A text may hold sequences that move the cursor of a terminal or change its colours.  Where it is
written to a file they are left out, together with all other control characters but blanks.

A sequence begins with an escape.  A *control sequence* (`ESC [`) has parameters and ends with a
letter or a like character; a *system command* (`ESC ]`) is a text that ends with a bell; a *device
text* (`ESC P`) and the other strings (`ESC X`, `ESC ^`, `ESC _`) end with the byte `9C`, which may
also stand within the encoding of a character.  Whatever is met on the way is left out, with one
exception: a blank that is a control character is shown inside a control sequence, and once it has
been, what follows is shown too until the next character that has to be left out.
-/

namespace ScrobbleRelay.Text.Terminal

/-- Where in a sequence a text is; `ground` is outside of all sequences. -/
inductive State
  | ground
  | escape
  | escapeIntermediate
  | controlEntry
  | controlParameters
  | controlIntermediate
  | controlIgnored
  | deviceEntry
  | deviceParameters
  | deviceIntermediate
  | deviceText
  | systemCommand
  | ignoredString
  deriving Repr, DecidableEq

/-- Whether a code is that of an ASCII control character. -/
def isControl (n : Nat) : Bool := n < 0x20 || n == 0x7F

/-- Whether the encoding of a character holds the byte that ends strings. -/
def holdsTerminator (c : Char) : Bool := (String.utf8EncodeChar c).contains 0x9C

/-- The state after an escape and one more character. -/
def afterEscape (n : Nat) : State :=
  if 0x20 ≤ n && n ≤ 0x2F then .escapeIntermediate
  else if n = 0x5B then .controlEntry
  else if n = 0x5D then .systemCommand
  else if n = 0x50 then .deviceEntry
  else if n = 0x58 || n = 0x5E || n = 0x5F then .ignoredString
  else .ground

/-- The state after one more printable ASCII character. -/
def State.afterPrintable : State → Nat → State
  | ground, _ => ground
  | escape, n => afterEscape n
  | escapeIntermediate, n => if n ≤ 0x2F then escapeIntermediate else ground
  | controlEntry, n =>
    if n ≤ 0x2F then controlIntermediate else if n ≤ 0x3F then controlParameters else ground
  | controlParameters, n =>
    if n ≤ 0x2F then controlIntermediate
    else if n ≤ 0x3B then controlParameters
    else if n ≤ 0x3F then controlIgnored
    else ground
  | controlIntermediate, n =>
    if n ≤ 0x2F then controlIntermediate else if n ≤ 0x3F then controlIgnored else ground
  | controlIgnored, n => if n ≤ 0x3F then controlIgnored else ground
  | deviceEntry, n =>
    if n ≤ 0x2F then deviceIntermediate else if n ≤ 0x3F then deviceParameters else deviceText
  | deviceParameters, n =>
    if n ≤ 0x2F then deviceIntermediate
    else if n ≤ 0x3B then deviceParameters
    else deviceText
  | deviceIntermediate, n => if n ≤ 0x2F then deviceIntermediate else deviceText
  | deviceText, _ => deviceText
  | systemCommand, _ => systemCommand
  | ignoredString, _ => ignoredString

/-- The state after one more character.  Cancel and substitute end every sequence, and an escape
begins a new one. -/
def State.after (s : State) (c : Char) : State :=
  let n := c.toNat
  if n = 0x18 || n = 0x1A then .ground
  else if n = 0x1B then .escape
  else if n = 0x07 && s = .systemCommand then .ground
  else if isControl n then s
  else if n < 0x80 then s.afterPrintable n
  else if (s = .deviceText || s = .ignoredString) && holdsTerminator c then .ground
  else s

/-- Whether control characters count where they stand; in strings they belong to the text. -/
def State.heedsControls : State → Bool
  | ground | escape | escapeIntermediate => true
  | controlEntry | controlParameters | controlIntermediate | controlIgnored => true
  | _ => false

/-- Whether a character is shown: outside of sequences all but controls, and a control that is a
blank wherever controls count. -/
def State.shows (s : State) (c : Char) : Bool :=
  if isControl c.toNat then s.heedsControls && (c = '\t' || c = '\n' || c = '\x0c' || c = '\r')
  else s = .ground

/-- The characters that are shown.  After a shown character the next one is looked at as if it stood
outside of all sequences, but the sequence goes on behind the characters shown in this way, unless
one of them is not ASCII. -/
def stripFrom (shown : Bool) (s : State) : List Char → List Char
  | [] => []
  | c :: rest =>
    if s.shows c || (shown && State.ground.shows c) then
      c :: stripFrom true (if c.toNat < 0x80 then s else .ground) rest
    else stripFrom false (s.after c) rest

/-- A text without control sequences and control characters other than blanks. -/
def stripped (s : String) : String := String.ofList (stripFrom true .ground s.toList)

end ScrobbleRelay.Text.Terminal
