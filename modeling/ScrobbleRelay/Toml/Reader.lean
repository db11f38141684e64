import ScrobbleRelay.Toml.Number
import ScrobbleRelay.Toml.Table

/-!
# Reading a TOML document

`Document.ofText?` reads a text as a document: assignments first, then parts, each from its heading
to the next one.  Blanks, comments and line breaks may stand between the lines and inside of
brackets, but not inside of braces.  Values nest at most 79 deep, and a path has at most 79 names.
-/

namespace ScrobbleRelay.Toml

/-- A list of characters without the blanks, line breaks and comments at its front; `inComment`
tells whether it begins inside of a comment. -/
def skipSpaceFrom (inComment : Bool) : List Char → List Char
  | [] => []
  | '\r' :: '\n' :: rest => skipSpaceFrom false rest
  | c :: rest =>
    if c = '\n' then skipSpaceFrom false rest
    else if inComment then
      if isPlain c then skipSpaceFrom true rest else c :: rest
    else if isGap c then skipSpaceFrom false rest
    else if c = '#' then skipSpaceFrom true rest
    else c :: rest

/-- A list of characters without the blanks, line breaks and comments at its front. -/
def skipSpace (cs : List Char) : List Char := skipSpaceFrom false cs

/-- A list of characters without a comment at its front. -/
def skipComment : List Char → List Char
  | '#' :: rest => rest.dropWhile isPlain
  | cs => cs

/-- What follows the end of a line, where nothing but a comment may stand before it. -/
def afterLine? (cs : List Char) : Option (List Char) :=
  match skipComment (skipGap cs) with
  | [] => some []
  | '\n' :: rest => some rest
  | '\r' :: '\n' :: rest => some rest
  | _ => none

/-- The greatest number of names in a path, and the greatest depth of a value. -/
def greatestDepth : Nat := 79

/-- A path of at most `most` names joined by dots, with blanks around each. -/
def readPath (most : Nat) (cs : List Char) : Option (List String × List Char) :=
  match most with
  | 0 => none
  | more + 1 =>
    match readName (skipGap cs) with
    | none => none
    | some (name, rest) =>
      match skipGap rest with
      | '.' :: rest => (readPath more rest).map fun (names, r) => (name :: names, r)
      | rest => some ([name], rest)

/-- The names before the last one, and the last one. -/
def splitLast : List String → Option (List String × String)
  | [] => none
  | [name] => some ([], name)
  | name :: rest => (splitLast rest).map fun (path, last) => (name :: path, last)

/-- A path of names, split before its last name. -/
def readKey (cs : List Char) : Option ((List String × String) × List Char) :=
  match readPath greatestDepth cs with
  | some (names, rest) => (splitLast names).map fun key => (key, rest)
  | none => none

/-- An assignment whose value is read by `readItem`. -/
def readAssignment (readItem : List Char → Option (Value × List Char)) (cs : List Char) :
    Option (Assignment × List Char) :=
  match readKey cs with
  | some ((path, name), '=' :: rest) =>
    (readItem (skipGap rest)).map fun (value, r) => (⟨path, name, value⟩, r)
  | _ => none

/-- The items of an array, from after the opening bracket or a comma to after the closing bracket.
-/
def readItems (readItem : List Char → Option (Value × List Char)) (fuel : Nat) (cs : List Char) :
    Option (List Value × List Char) :=
  match fuel with
  | 0 => none
  | fuel + 1 =>
    match readItem (skipSpace cs) with
    | none => none
    | some (item, rest) =>
      match skipSpace rest with
      | ',' :: rest =>
        match skipSpace rest with
        | ']' :: rest => some ([item], rest)
        | rest => (readItems readItem fuel rest).map fun (items, r) => (item :: items, r)
      | ']' :: rest => some ([item], rest)
      | _ => none

/-- An array, from after its opening bracket. -/
def readArray (readItem : List Char → Option (Value × List Char)) (cs : List Char) :
    Option (Value × List Char) :=
  match skipSpace cs with
  | ']' :: rest => some (.array [], rest)
  | rest => (readItems readItem (rest.length + 1) rest).map fun (items, r) => (.array items, r)

/-- The assignments of a table in braces, from after the opening brace or a comma to after the
closing brace. -/
def readFields (readItem : List Char → Option (Value × List Char)) (fuel : Nat) (cs : List Char) :
    Option (List Assignment × List Char) :=
  match fuel with
  | 0 => none
  | fuel + 1 =>
    match readAssignment readItem cs with
    | none => none
    | some (field, rest) =>
      match skipGap rest with
      | ',' :: rest => (readFields readItem fuel rest).map fun (fields, r) => (field :: fields, r)
      | '\x7d' :: rest => some ([field], rest)
      | _ => none

/-- A table in braces, from after its opening brace. -/
def readBraces (readItem : List Char → Option (Value × List Char)) (cs : List Char) :
    Option (Value × List Char) :=
  match skipGap cs with
  | '\x7d' :: rest => some (.table [], rest)
  | rest =>
    match readFields readItem (rest.length + 1) rest with
    | some (fields, r) => (Assignment.tableOf? fields).map fun t => (t, r)
    | none => none

/-- A value that holds no other values. -/
def readScalar (cs : List Char) : Option (Value × List Char) :=
  match cs with
  | '"' :: _ => (readString cs).map fun (s, r) => (.string s, r)
  | '\'' :: _ => (readString cs).map fun (s, r) => (.string s, r)
  | 't' :: 'r' :: 'u' :: 'e' :: rest => some (.boolean true, rest)
  | 'f' :: 'a' :: 'l' :: 's' :: 'e' :: rest => some (.boolean false, rest)
  | _ => readNumber cs

/-- A value that nests at most `depth` deep. -/
def readValue : Nat → List Char → Option (Value × List Char)
  | 0, cs => readScalar cs
  | depth + 1, cs =>
    match cs with
    | '[' :: rest => readArray (readValue depth) rest
    | '\x7b' :: rest => readBraces (readValue depth) rest
    | _ => readScalar cs

/-- The assignments up to the next heading or the end. -/
def readAssignments (fuel : Nat) (cs : List Char) : Option (List Assignment × List Char) :=
  match fuel with
  | 0 => none
  | fuel + 1 =>
    match skipSpace cs with
    | [] => some ([], [])
    | '[' :: rest => some ([], '[' :: rest)
    | cs =>
      match readAssignment (readValue greatestDepth) cs with
      | none => none
      | some (assignment, rest) =>
        match afterLine? rest with
        | none => none
        | some rest =>
          (readAssignments fuel rest).map fun (assignments, r) => (assignment :: assignments, r)

def readHeading (cs : List Char) : Option (Heading × List Char) :=
  match cs with
  | '[' :: '[' :: rest =>
    match readKey rest with
    | some ((path, name), ']' :: ']' :: rest) =>
      (afterLine? rest).map fun r => (⟨path, name, true⟩, r)
    | _ => none
  | '[' :: rest =>
    match readKey rest with
    | some ((path, name), ']' :: rest) =>
      (afterLine? rest).map fun r => (⟨path, name, false⟩, r)
    | _ => none
  | _ => none

/-- The parts of a document, from the first heading on. -/
def readSections (fuel : Nat) (cs : List Char) : Option (List Section) :=
  match fuel, cs with
  | 0, _ => none
  | _, [] => some []
  | fuel + 1, cs =>
    match readHeading cs with
    | none => none
    | some (heading, rest) =>
      match readAssignments (rest.length + 1) rest with
      | none => none
      | some (assignments, rest) =>
        (readSections fuel rest).map fun sections => ⟨heading, assignments⟩ :: sections

/-- A list of characters without a byte order mark at its front. -/
def skipMark : List Char → List Char
  | '\ufeff' :: rest => rest
  | cs => cs

/-- The document that a list of characters writes. -/
def Document.ofChars? (cs : List Char) : Option Document :=
  match readAssignments (cs.length + 1) (skipMark cs) with
  | none => none
  | some (assignments, rest) =>
    (readSections (rest.length + 1) rest).map fun sections => ⟨assignments, sections⟩

def Document.ofText? (s : String) : Option Document := Document.ofChars? s.toList

/-- The entries of the document that a text writes. -/
def Entries.ofText? (s : String) : Option Entries := (Document.ofText? s).bind Document.entries?

end ScrobbleRelay.Toml
