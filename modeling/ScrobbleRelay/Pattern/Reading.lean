import ScrobbleRelay.Pattern.Fault
import ScrobbleRelay.Pattern.Tree
import ScrobbleRelay.Text.Blank

/-!
# Going through a pattern

A pattern is read from its front, and `Reading` is how far that has come.  In a loose pattern blanks
and comments mean nothing: `step` goes on to the next character that means something.
-/

namespace ScrobbleRelay.Pattern

/-- How far the reading of a pattern has come: the place, what is left, whether the pattern is loose
here, and the names of groups so far. -/
structure Reading where
  place : Place
  rest : List Char
  loose : Bool
  names : List (List Char × Span)

/-- The beginning of a pattern. -/
def Reading.start (pattern : String) : Reading := ⟨.start, pattern.toList, false, []⟩

/-- A step of reading; it may find a fault. -/
abbrev Reader (α : Type) : Type := StateT Reading (Except Fault) α

/-- The reading one character further. -/
def Reading.advanced (r : Reading) : Reading :=
  match r.rest with
  | [] => r
  | c :: rest => { r with place := r.place.after c, rest := rest }

/-- The reading some characters further. -/
def Reading.advancedBy : Nat → Reading → Reading
  | 0, r => r
  | n + 1, r => Reading.advancedBy n r.advanced

/-- The place and the rest behind blanks and comments; a comment goes up to the end of its line. -/
def behindSpace (inComment : Bool) (place : Place) : List Char → Place × List Char
  | [] => (place, [])
  | c :: rest =>
    if inComment then behindSpace (c != '\n') (place.after c) rest
    else if Text.isBlank c then behindSpace false (place.after c) rest
    else if c == '#' then behindSpace true (place.after c) rest
    else (place, c :: rest)

/-- The reading behind what means nothing. -/
def Reading.spaceSkipped (r : Reading) : Reading :=
  if r.loose then
    let (place, rest) := behindSpace false r.place r.rest
    { r with place, rest }
  else r

/-- The reading one character further and behind what means nothing. -/
def Reading.stepped (r : Reading) : Reading := r.advanced.spaceSkipped

/-- The characters from here on that pass a test, and the reading behind them; `fuel` bounds how
many there are. -/
def Reading.gathered (test : Char → Bool) : Nat → Reading → List Char × Reading
  | 0, r => ([], r)
  | fuel + 1, r =>
    match r.rest with
    | [] => ([], r)
    | c :: _ =>
      if test c then
        let (more, r) := Reading.gathered test fuel r.stepped
        (c :: more, r)
      else ([], r)

/-! ### Steps of reading -/

/-- The place that has been reached. -/
def here : Reader Place := return (← get).place

def ahead : Reader (List Char) := return (← get).rest

def advance : Reader Unit := modify Reading.advanced

def advanceBy (n : Nat) : Reader Unit := modify (Reading.advancedBy n)

def skipSpace : Reader Unit := modify Reading.spaceSkipped

/-- Go on to the next character that means something. -/
def step : Reader Unit := modify Reading.stepped

/-- Read the characters that pass a test. -/
def gather (test : Char → Bool) : Reader (List Char) :=
  modifyGet fun r => r.gathered test r.rest.length

def complain {α : Type} (complaint : Complaint) (span : Span) : Reader α :=
  throw ⟨complaint, span, none⟩

/-- Report a fault that is in conflict with an earlier place. -/
def complainAgainst {α : Type} (earlier : Span) (complaint : Complaint) (span : Span) : Reader α :=
  throw ⟨complaint, span, some earlier⟩

/-- Report a fault of what lies between a place and here. -/
def complainSince {α : Type} (start : Place) (complaint : Complaint) : Reader α := do
  complain complaint ⟨start, ← here⟩

/-- Report a fault at this place. -/
def complainHere {α : Type} (complaint : Complaint) : Reader α := do
  complain complaint (.at (← here))

/-- The span of a character that stands here. -/
def spanOf (c : Char) : Reader Span := do
  let start ← here
  return ⟨start, start.after c⟩

/-- Report a fault of a character that stands here. -/
def complainOf {α : Type} (c : Char) (complaint : Complaint) : Reader α := do
  complain complaint (← spanOf c)

end ScrobbleRelay.Pattern
