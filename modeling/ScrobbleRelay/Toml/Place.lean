import ScrobbleRelay.Toml.Reader

/-!
# Places in a TOML document

A message about a value shows the line that the value begins in.  `placesOfText` goes through the
text of a document that can be read and lists the things it mentions, each with the way to it from
the outermost table, the place of its name and the place of its value.  `Span.excerpt` shows a place
in its text.

A place is held by the numbers of characters that are left from its start and from its end, which
are the lengths of what a reader is given and of what it leaves.
-/

namespace ScrobbleRelay.Toml

/-- A stretch of a text: how many characters are left at its start, and how many at its end. -/
structure Span where
  before : Nat
  after : Nat
  deriving Repr, DecidableEq

/-- A step from a value to one of its parts. -/
inductive Step
  | name (s : String)
  | index (i : Nat)
  deriving Repr, DecidableEq

/-- Something that a document mentions: the way to it, where its name stands, and where its value
stands; a table that only occurs in paths of names has no place of its own. -/
structure Place where
  path : List Step
  key : Option Span
  value : Option Span
  deriving Repr

/-- A path of names with their places, as `readPath` reads it. -/
def readPlacedPath (most : Nat) (cs : List Char) :
    Option (List (String × Span) × List Char) :=
  match most with
  | 0 => none
  | more + 1 =>
    let cs := skipGap cs
    match readName cs with
    | none => none
    | some (name, rest) =>
      let named := (name, Span.mk cs.length rest.length)
      match skipGap rest with
      | '.' :: rest => (readPlacedPath more rest).map fun (names, r) => (named :: names, r)
      | rest => some ([named], rest)

/-- The places of the names of a path, and the way to what the path leads to. -/
def placesOfNames (path : List Step) : List (String × Span) → List Place × List Step
  | [] => ([], path)
  | (name, span) :: rest =>
    let here := path ++ [.name name]
    let (places, target) := placesOfNames here rest
    (⟨here, some span, none⟩ :: places, target)

/-- A way of listing the places of a value: from the way to it and the characters it begins with, to
the places and the characters after it. -/
abbrev Places := List Step → List Char → List Place × List Char

def placesOfAssignment (ofItem : Places) : Places := fun path cs =>
  match readPlacedPath greatestDepth cs with
  | some (names, '=' :: rest) =>
    let (keys, target) := placesOfNames path names
    let (places, r) := ofItem target (skipGap rest)
    (keys ++ places, r)
  | _ => ([], [])

/-- The places of the items of an array from the one with number `i` on. -/
def placesOfItems (ofItem : Places) (fuel i : Nat) : Places := fun path cs =>
  match fuel, skipSpace cs with
  | 0, _ => ([], [])
  | _, [] => ([], [])
  | _, ']' :: rest => ([], rest)
  | fuel + 1, cs =>
    let (here, rest) := ofItem (path ++ [.index i]) cs
    match skipSpace rest with
    | ',' :: rest =>
      let (more, r) := placesOfItems ofItem fuel (i + 1) path rest
      (here ++ more, r)
    | rest => (here, rest.drop 1)

def placesOfFields (ofItem : Places) (fuel : Nat) : Places := fun path cs =>
  match fuel, skipGap cs with
  | 0, _ => ([], [])
  | _, [] => ([], [])
  | _, '\x7d' :: rest => ([], rest)
  | fuel + 1, cs =>
    let (here, rest) := placesOfAssignment ofItem path cs
    match skipGap rest with
    | ',' :: rest =>
      let (more, r) := placesOfFields ofItem fuel path rest
      (here ++ more, r)
    | rest => (here, rest.drop 1)

/-- What follows a value that holds no other values. -/
def afterScalar (cs : List Char) : List Char := ((readScalar cs).map (·.2)).getD []

/-- The places of a value that nests at most `depth` deep, the value itself first. -/
def placesOfValue : Nat → Places
  | 0 => fun path cs =>
    let rest := afterScalar cs
    ([⟨path, none, some ⟨cs.length, rest.length⟩⟩], rest)
  | depth + 1 => fun path cs =>
    let (inner, rest) := match cs with
      | '[' :: rest => placesOfItems (placesOfValue depth) (rest.length + 1) 0 path rest
      | '\x7b' :: rest => placesOfFields (placesOfValue depth) (rest.length + 1) path rest
      | _ => ([], afterScalar cs)
    (⟨path, none, some ⟨cs.length, rest.length⟩⟩ :: inner, rest)

/-- The places of the assignments up to the next heading or the end, the end of the last value, and
what follows. -/
def placesOfAssignments (fuel : Nat) (path : List Step) (last : Nat) (cs : List Char) :
    List Place × Nat × List Char :=
  match fuel, skipSpace cs with
  | 0, _ => ([], last, [])
  | _, [] => ([], last, [])
  | _, '[' :: rest => ([], last, '[' :: rest)
  | fuel + 1, cs =>
    let (here, rest) := placesOfAssignment (placesOfValue greatestDepth) path cs
    let next := (afterLine? rest).getD []
    let (more, last, r) := placesOfAssignments fuel path rest.length next
    (here ++ more, last, r)

/-- How many elements the arrays of tables have so far. -/
abbrev Counts := List (List Step × Nat)

/-- The way to the last element of an array of tables, and to any other thing itself. -/
def lastElement (counts : Counts) (path : List Step) : List Step :=
  match counts.lookup path with
  | some (n + 1) => path ++ [.index n]
  | _ => path

/-- The places of the names of a heading, and the way to what it is the heading of; on the way an
array of tables stands for its last element. -/
def placesOfHeading (counts : Counts) (path : List Step) :
    List (String × Span) → List Place × List Step
  | [] => ([], path)
  | (name, span) :: rest =>
    let here := lastElement counts path ++ [.name name]
    let (places, target) := placesOfHeading counts here rest
    (⟨here, some span, none⟩ :: places, target)

/-- The names of a heading with their places, whether it is that of an element, and what follows. -/
def readPlacedHeading (cs : List Char) : Option (List (String × Span) × Bool × List Char) :=
  match cs with
  | '[' :: '[' :: rest =>
    (readPlacedPath greatestDepth rest).map fun (names, r) => (names, true, r.drop 2)
  | '[' :: rest =>
    (readPlacedPath greatestDepth rest).map fun (names, r) => (names, false, r.drop 1)
  | _ => none

def placesOfSections (fuel : Nat) (counts : Counts) (cs : List Char) : List Place :=
  match fuel with
  | 0 => []
  | fuel + 1 =>
    match readPlacedHeading cs with
    | none => []
    | some (names, isElement, rest) =>
      let (keys, target) := placesOfHeading counts [] names
      let count := (counts.lookup target).getD 0
      let path := if isElement then target ++ [.index count] else target
      let counts := if isElement then (target, count + 1) :: counts else counts
      let next := (afterLine? rest).getD []
      let (inner, last, r) := placesOfAssignments (next.length + 1) path rest.length next
      keys ++ ⟨path, none, some ⟨cs.length, last⟩⟩ :: inner ++ placesOfSections fuel counts r

/-- The places of what a text mentions, in their order. -/
def placesOfText (s : String) : List Place :=
  let cs := skipMark s.toList
  let (places, _, rest) := placesOfAssignments (cs.length + 1) [] cs.length cs
  places ++ placesOfSections (rest.length + 1) [] rest

/-- The place to show for a part of a document: that of its value, or else that of the first mention
of its name. -/
def spanOf? (places : List Place) (path : List Step) : Option Span :=
  let mentions := places.filter (·.path == path)
  mentions.findSome? (·.value) <|> mentions.findSome? (·.key)

/-! ### Excerpts -/

/-- What is written about a place of a text: the number of its line and column, the line, marks
below what stands there as far as the line goes, and a message. -/
def Span.excerpt (span : Span) (text message : String) : String :=
  let chars := text.toList
  let before := chars.take (chars.length - span.before)
  let marked := (chars.drop before.length).take (span.before - span.after)
  let line := before.count '\n'
  let column := (before.reverse.takeWhile (· != '\n')).length
  let content := (text.splitOn "\n").getD line ""
  let number := toString (line + 1)
  let gutter := String.ofList (List.replicate (number.length + 1) ' ')
  let room := content.utf8ByteSize - column
  let marks := max 1 (min (String.ofList marked).utf8ByteSize room)
  s!"TOML parse error at line {number}, column {column + 1}\n" ++
    gutter ++ "|\n" ++
    number ++ " | " ++ content ++ "\n" ++
    gutter ++ "|" ++ String.ofList (List.replicate (column + 1) ' ') ++
      String.ofList (List.replicate marks '^') ++ "\n" ++
    message ++ "\n"

end ScrobbleRelay.Toml
