import ScrobbleRelay.Pattern.Escape

/-!
# Classes in brackets

A class lists characters, ranges and other classes between brackets, and two lists may be combined
as sets.  The reader goes through it once and keeps what it is inside of: for every open bracket the
list around it, and the left side of a combination.
-/

namespace ScrobbleRelay.Pattern

/-- The items of a class so far, last first, and the span of all of them. -/
structure ItemList where
  span : Span
  items : List ClassNode

/-- A list of no items at a place. -/
def ItemList.empty (p : Place) : ItemList := ⟨.at p, []⟩

/-- A list with one more item. -/
def ItemList.push (l : ItemList) (item : ClassNode) : ItemList :=
  let first := if l.items.isEmpty then item.span.first else l.span.first
  ⟨⟨first, item.span.past⟩, item :: l.items⟩

/-- A list as a part of a class; a single item stands for itself. -/
def ItemList.node (l : ItemList) : ClassNode :=
  match l.items with
  | [] => .empty l.span
  | [item] => item
  | items => .union l.span items.reverse

/-- A class that is not closed yet: the list that it is an item of, the span of what opens it,
whether it is negated, and the left side of the combination that it holds. -/
structure OpenClass where
  outer : ItemList
  opening : Span
  negated : Bool
  left : Option (SetOperation × ClassNode)

/-- What an open class holds once a list ends. -/
def OpenClass.content (c : OpenClass) (l : ItemList) : ClassNode :=
  match c.left with
  | none => l.node
  | some (op, left) => .combined ⟨left.span.first, l.node.span.past⟩ op left l.node

/-- The class that is closed at a place behind a list. -/
def OpenClass.closed (c : OpenClass) (l : ItemList) (past : Place) : Span × Bool × ClassNode :=
  (⟨c.opening.first, past⟩, c.negated, c.content l)

/-- Read the minus signs at the front of a class, which stand for themselves. -/
def readLeadingSigns (start : Place) : Nat → ItemList → Reader ItemList
  | 0, l => return l
  | fuel + 1, l => do
    match ← ahead with
    | '-' :: _ =>
      let l := l.push (.literal ⟨← spanOf '-', '-', false⟩)
      step
      if (← ahead).isEmpty then complain .classOpen (.at start)
      readLeadingSigns start fuel l
    | _ => return l

/-- Read what opens a class: the bracket, the sign of negation, and characters that stand for
themselves because nothing is before them. -/
def openClass (outer : ItemList) : Reader (OpenClass × ItemList) := do
  let start ← here
  step
  if (← ahead).isEmpty then complainSince start .classOpen
  let negated := (← ahead).head? == some '^'
  if negated then
    step
    if (← ahead).isEmpty then complainSince start .classOpen
  let mut items ← readLeadingSigns start (← ahead).length (.empty (← here))
  if items.items.isEmpty && (← ahead).head? == some ']' then
    items := items.push (.literal ⟨← spanOf ']', ']', false⟩)
    step
    if (← ahead).isEmpty then complainSince start .classOpen
  return (⟨outer, ⟨start, ← here⟩, negated, none⟩, items)

/-- The class with a name that begins here, and the reading behind it. -/
def namedClass? (r : Reading) : Option (ClassNode × Reading) :=
  match r.rest with
  | '[' :: ':' :: rest =>
    let negated := rest.head? == some '^'
    let rest := if negated then rest.tail else rest
    let name := rest.takeWhile (· != ':')
    match rest.dropWhile (· != ':') with
    | ':' :: ']' :: _ =>
      (AsciiClass.ofName? name).map fun c =>
        let behind := r.advancedBy (4 + (if negated then 1 else 0) + name.length)
        (.named ⟨r.place, behind.place⟩ c negated, behind)
    | _ => none
  | _ => none

/-- Read a class with a name, if one begins here. -/
def readNamedClass? : Reader (Option ClassNode) :=
  modifyGet fun r =>
    match namedClass? r with
    | some (node, behind) => (some node, behind)
    | none => (none, r)

/-- The next character that means something behind the one that stands here; in a loose pattern no
more than the sign of a comment is skipped. -/
def peekBehind (loose : Bool) (rest : List Char) : Option Char :=
  if loose then
    match rest.dropWhile Text.isBlank with
    | '#' :: more => (more.dropWhile Text.isBlank).head?
    | more => more.head?
  else rest.head?

def readClassAtom : Reader Atom := do
  match ← ahead with
  | '\\' :: _ => readEscape
  | c :: _ =>
    let span ← spanOf c
    advance
    return .literal ⟨span, c, false⟩
  | [] => complainHere .escapeCut

def Atom.classNode : Atom → Reader ClassNode
  | literal l => return .literal l
  | shorthand s kind negated => return .shorthand s kind negated
  | property s name valued => return .property s name valued
  | a => complain .classEscape a.span

def Atom.rangeEnd : Atom → Reader Literal
  | literal l => return l
  | a => complain .classRangeEnd a.span

/-- Read an item of a class that is a character, a range or an escape. -/
def readClassItem (opening : Span) : Reader ClassNode := do
  let first ← readClassAtom
  skipSpace
  match ← ahead with
  | [] => complain .classOpen opening
  | '-' :: rest =>
    let next := peekBehind (← get).loose rest
    if next == some ']' || next == some '-' then first.classNode
    else
      step
      if (← ahead).isEmpty then complain .classOpen opening
      let last ← readClassAtom
      let span := ⟨first.span.first, last.span.past⟩
      let low ← first.rangeEnd
      let high ← last.rangeEnd
      if low.char ≤ high.char then return .range span low high
      else complain .classRangeOrder span
  | _ => first.classNode

/-- The sign of a combination of two lists at the front of what is left. -/
def setOperation? : List Char → Option SetOperation
  | '&' :: '&' :: _ => some .intersection
  | '-' :: '-' :: _ => some .difference
  | '~' :: '~' :: _ => some .symmetricDifference
  | _ => none

/-- Read a class up to its last bracket: `items` is the list that is being read, `inner` the class
that it belongs to, and `around` are the classes around that one.  Every round reads a character, so
`fuel` is at most what is left. -/
def readClassFrom : Nat → ItemList → OpenClass → List OpenClass → Reader Node
  | 0, _, inner, _ => complain .classOpen inner.opening
  | fuel + 1, items, inner, around => do
    skipSpace
    match ← ahead with
    | [] => complain .classOpen inner.opening
    | '[' :: _ =>
      match ← readNamedClass? with
      | some named => readClassFrom fuel (items.push named) inner around
      | none =>
        let (opened, first) ← openClass items
        readClassFrom fuel first opened (inner :: around)
    | ']' :: _ =>
      advance
      let (span, negated, content) := inner.closed items (← here)
      match around with
      | [] => return .bracketed span negated content
      | next :: around =>
        readClassFrom fuel (inner.outer.push (.bracketed span negated content)) next around
    | rest =>
      match setOperation? rest with
      | some op =>
        advanceBy 2
        let inner := { inner with left := some (op, inner.content items) }
        readClassFrom fuel (.empty (← here)) inner around
      | none =>
        let item ← readClassItem inner.opening
        readClassFrom fuel (items.push item) inner around

def readClass : Reader Node := do
  let fuel := (← ahead).length
  let (opened, items) ← openClass (.empty (← here))
  readClassFrom fuel items opened []

end ScrobbleRelay.Pattern
