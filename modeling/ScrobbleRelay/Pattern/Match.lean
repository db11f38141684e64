import ScrobbleRelay.Pattern.Shape

/-!
# Shapes in texts

A shape is looked for in a text by sets of places.  From a set of places a shape leads to the set of
places at which the stretches end that it covers, and this is found for whole sets at once, so that
no place is ever tried twice.  A set of places is a list of truth values, one for the front of every
character and one for the end of the text.
-/

namespace ScrobbleRelay.Pattern

/-- Whether a character belongs to a word of ASCII letters, digits and low lines. -/
def isWordChar (c : Char) : Bool := c.isAlphanum || c == '_'

/-- Whether a place between two words or other characters is such a boundary. -/
def Boundary.holds (b : Boundary) (before behind : Option Char) : Bool :=
  let before := before.any isWordChar
  let behind := behind.any isWordChar
  match b with
  | edge => before != behind
  | interior => before == behind
  | opening => !before && behind
  | closing => before && !behind
  | openingHalf => !before
  | closingHalf => !behind

/-- Whether a test holds at a place between two characters; at an end of the text there is none on
one side.  Boundaries of words in all scripts are not known. -/
def Look.holds (l : Look) (before behind : Option Char) : Bool :=
  match l with
  | start => before.isNone
  | finish => behind.isNone
  | lineStart => before.isNone || before == some '\n'
  | lineFinish => behind.isNone || behind == some '\n'
  | returnLineStart =>
    before.isNone || before == some '\n' || (before == some '\r' && behind != some '\n')
  | returnLineFinish =>
    behind.isNone || behind == some '\r' || (behind == some '\n' && before != some '\r')
  | boundary b => b.holds before behind
  | unicodeBoundary _ => false

abbrev Places := List Bool

/-- The places that are in one of two sets. -/
def Places.join (p q : Places) : Places := List.zipWith (· || ·) p q

/-- The places behind the characters of a set whose fronts are in a set of places. -/
def Places.behind (s : CharSet) (text : List Char) (p : Places) : Places :=
  false :: List.zipWith (fun here c => here && s.contains c) p text

/-- The characters before the places of a text. -/
def charsBefore (text : List Char) : List (Option Char) := none :: text.map some

/-- The characters behind the places of a text. -/
def charsBehind (text : List Char) : List (Option Char) := text.map some ++ [none]

/-- The places of a set where a test holds. -/
def Places.passing (l : Look) (text : List Char) (p : Places) : Places :=
  List.zipWith (fun here (before, behind) => here && l.holds before behind) p
    ((charsBefore text).zip (charsBehind text))

/-- The places that a number of moves leads to.  Once a move changes nothing, no other does. -/
def Places.afterMoves (move : Places → Places) : Nat → Places → Places
  | 0, p => p
  | n + 1, p =>
    let q := move p
    if q == p then p else Places.afterMoves move n q

/-- The places that at most a number of moves leads to. -/
def Places.withinMoves (move : Places → Places) : Nat → Places → Places
  | 0, p => p
  | n + 1, p =>
    let q := p.join (move p)
    if q == p then p else Places.withinMoves move n q

namespace Shape

/-- The places where stretches that a shape covers end, if they begin at those of a set.  As many
moves as there are places reach all that can be reached. -/
def ends (text : List Char) : Shape → Places → Places
  | empty, p => p
  | char set, p => p.behind set text
  | look l, p => p.passing l text
  | capture inner, p => inner.ends text p
  | sequence parts, p => endsOfAll text parts p
  | choice branches, p => endsOfAny text branches p
  | times least most inner, p =>
    let required := Places.afterMoves (inner.ends text) least p
    let further := match most with
      | some n => n - least
      | none => text.length + 1
    Places.withinMoves (inner.ends text) further required
where
  /-- The places where stretches end that are covered by some shapes in a row. -/
  endsOfAll (text : List Char) : List Shape → Places → Places
    | [], p => p
    | s :: rest, p => endsOfAll text rest (s.ends text p)
  /-- The places where stretches end that are covered by one of some shapes. -/
  endsOfAny (text : List Char) : List Shape → Places → Places
    | [], p => p.map fun _ => false
    | s :: rest, p => (s.ends text p).join (endsOfAny text rest p)

/-- Whether a shape covers a stretch of a text. -/
def occursIn (s : Shape) (text : String) : Bool :=
  let chars := text.toList
  (s.ends chars (List.replicate (chars.length + 1) true)).any id

end Shape

end ScrobbleRelay.Pattern
