import ScrobbleRelay.Pattern.Class
import ScrobbleRelay.Pattern.Group
import ScrobbleRelay.Pattern.Nesting
import ScrobbleRelay.Text.Digits

/-!
# Reading patterns

A pattern is read from left to right in one pass.  A `Draft` is what has been read so far: the
sequence that grows, the branches of the choice that it is the last branch of, and around them the
groups that are still open.  A pattern that is read whole has still to keep within a limit on how
deep it is nested.
-/

namespace ScrobbleRelay.Pattern

/-- A sequence that grows: where it begins, and its parts, last first. -/
structure Growing where
  first : Place
  parts : List Node

/-- A sequence with one more part. -/
def Growing.push (g : Growing) (n : Node) : Growing := { g with parts := n :: g.parts }

/-- The sequence that ends at a place; a single part stands for itself. -/
def Growing.node (g : Growing) (past : Place) : Node :=
  match g.parts with
  | [] => .empty ⟨g.first, past⟩
  | [part] => part
  | parts => .sequence ⟨g.first, past⟩ parts.reverse

/-- The branches of a choice that are finished: where the first begins, and all, last first. -/
structure Branches where
  first : Place
  nodes : List Node

/-- A group that is still open: what stands before it, what its parenthesis says, and whether the
pattern is loose around it. -/
structure OpenGroup where
  before : Growing
  branches : Option Branches
  span : Span
  captures : Bool
  signs : List FlagSign
  loose : Bool

/-- What has been read of a pattern. -/
structure Draft where
  current : Growing
  branches : Option Branches
  opened : List OpenGroup

/-- The beginning of a draft at a place. -/
def Draft.start (p : Place) : Draft := ⟨⟨p, []⟩, none, []⟩

/-- A draft with one more part. -/
def Draft.push (d : Draft) (n : Node) : Draft := { d with current := d.current.push n }

/-- What the innermost group of a draft holds if it ends at a place. -/
def Draft.content (d : Draft) (past : Place) : Node :=
  match d.branches with
  | none => d.current.node past
  | some b => .choice ⟨b.first, past⟩ (d.current.node past :: b.nodes).reverse

/-! ### Groups and branches -/

/-- Read a parenthesis that opens a group or sets flags. -/
def readOpened (d : Draft) : Reader Draft := do
  match ← readOpening with
  | .flags span signs =>
    let value := flagValue? signs .loose
    modify fun r => { r with loose := value.getD r.loose }
    return d.push (.flags span signs)
  | .group span captures signs =>
    let loose := (← get).loose
    modify fun r => { r with loose := (flagValue? signs .loose).getD loose }
    let group := ⟨d.current, d.branches, span, captures, signs, loose⟩
    return ⟨⟨← here, []⟩, none, group :: d.opened⟩

def readClosed (d : Draft) : Reader Draft := do
  match d.opened with
  | [] => complainOf ')' .groupClosed
  | g :: opened =>
    modify fun r => { r with loose := g.loose }
    let inner := d.content (← here)
    advance
    let node := Node.group ⟨g.span.first, ← here⟩ g.captures g.signs inner
    return ⟨g.before.push node, g.branches, opened⟩

/-- Read the bar between two branches. -/
def readBar (d : Draft) : Reader Draft := do
  let node := d.current.node (← here)
  let branches := match d.branches with
    | none => ⟨d.current.first, [node]⟩
    | some b => { b with nodes := node :: b.nodes }
  advance
  return ⟨⟨← here, []⟩, some branches, d.opened⟩

/-! ### Repetition -/

/-- The last part of a draft, for an operator to repeat, and the parts before it. -/
def readRepeated (d : Draft) : Reader (Node × List Node) := do
  match d.current.parts with
  | [] => complainHere .nothingToRepeat
  | part :: parts =>
    if part.isFlags then complainHere .nothingToRepeat else return (part, parts)

/-- Read the sign behind an operator that makes it prefer few repetitions. -/
def readLazySign : Reader Unit := do
  if (← ahead).head? == some '?' then advance

/-- A draft whose last part is repeated, up to this place. -/
def repeatLast (d : Draft) (part : Node) (parts : List Node) (least : Nat) (most : Option Nat) :
    Reader Draft := do
  let span := ⟨part.span.first, ← here⟩
  return { d with current := ⟨d.current.first, .repeated span least most part :: parts⟩ }

/-- The bounds that a sign of repetition stands for. -/
def boundsOf : Char → Nat × Option Nat
  | '?' => (0, some 1)
  | '*' => (0, none)
  | _ => (1, none)

def readRepetition (d : Draft) (c : Char) : Reader Draft := do
  let (part, parts) ← readRepeated d
  advance
  readLazySign
  let (least, most) := boundsOf c
  repeatLast d part parts least most

/-- The greatest number of repetitions that can be written. -/
def greatestCount : Nat := 0xFFFFFFFF

/-- Read a number of repetitions and the blanks around it.  A fault of the number is given back,
because what is wrong behind it may count more. -/
def readCount : Reader (Except Fault Nat) := do
  let _ ← gather Text.isBlank
  let start ← here
  let digits ← gather Char.isDigit
  let span := ⟨start, ← here⟩
  let _ ← gather Text.isBlank
  match Text.natOfDigits? digits with
  | none => return .error ⟨.countEmpty, span, none⟩
  | some n => return if n ≤ greatestCount then .ok n else .error ⟨.number, span, none⟩

/-- Go on to the next character that means something; there has to be one, or the count that began
at a place is not closed. -/
def stepInCount (start : Place) : Reader Unit := do
  step
  if (← ahead).isEmpty then complainSince start .countOpen

/-- Read the bounds of a counted repetition, up to its last brace. -/
def readBounds (start : Place) : Reader (Nat × Option Nat) := do
  stepInCount start
  let least ← readCount
  match ← ahead with
  | [] => complainSince start .countOpen
  | ',' :: _ =>
    stepInCount start
    if (← ahead).head? == some '\x7d' then return (← liftExcept least, none)
    else
      let least ← liftExcept least
      let most ← liftExcept (← readCount)
      return (least, some most)
  | _ =>
    let n ← liftExcept least
    return (n, some n)
where
  /-- The number, or its fault. -/
  liftExcept (count : Except Fault Nat) : Reader Nat := StateT.lift count

/-- Read a repetition with bounds in braces. -/
def readCounted (d : Draft) : Reader Draft := do
  let start ← here
  let (part, parts) ← readRepeated d
  let (least, most) ← readBounds start
  if (← ahead).head? != some '\x7d' then complainSince start .countOpen
  step
  readLazySign
  if most.any (· < least) then complainSince start .countOrder
  repeatLast d part parts least most

/-! ### Whole patterns -/

/-- Read a character that stands for itself or for a class or an assertion. -/
def readAtom (c : Char) : Reader Atom := do
  if c == '\\' then readEscape
  else
    let span ← spanOf c
    advance
    match c with
    | '.' => return .anyChar span
    | '^' => return .assertion span .lineStart
    | '$' => return .assertion span .lineEnd
    | _ => return .literal ⟨span, c, false⟩

def readNext (d : Draft) (c : Char) : Reader Draft := do
  match c with
  | '(' => readOpened d
  | ')' => readClosed d
  | '|' => readBar d
  | '[' => return d.push (← readClass)
  | '?' => readRepetition d '?'
  | '*' => readRepetition d '*'
  | '+' => readRepetition d '+'
  | '\x7b' => readCounted d
  | _ => return d.push (.atom (← readAtom c))

/-- Finish a draft at the end of the pattern. -/
def finish (d : Draft) : Reader Node := do
  match d.opened with
  | [] => return d.content (← here)
  | g :: _ => complain .groupOpen g.span

/-- Read all that is left.  Every round reads a character, so `fuel` is at most what is left. -/
def readAll : Nat → Draft → Reader Node
  | 0, d => finish d
  | fuel + 1, d => do
    skipSpace
    match ← ahead with
    | [] => finish d
    | c :: _ => readAll fuel (← readNext d c)

/-- How deep a pattern may be nested. -/
def greatestNesting : Nat := 250

def Node.ofText (text : String) : Except Fault Node :=
  match (readAll (text.length + 1) (.start .start)).run (.start text) with
  | .error fault => .error fault
  | .ok (node, _) =>
    match node.tooDeep? greatestNesting with
    | some span => .error ⟨.nesting greatestNesting, span, none⟩
    | none => .ok node

end ScrobbleRelay.Pattern
