import ScrobbleRelay.Pattern.Fault
import ScrobbleRelay.Pattern.Shape

/-!
# The meaning of patterns

`Node.shape?` gives the shape of a pattern.  Flags change the meaning of what follows them up to the
end of the group that they stand in.  Patterns are about characters unless a flag takes that away;
they are then about bytes, and each of them must still be ASCII, because only text is searched.  Of
the properties of characters beyond ASCII none is known, nor is the other case of letters; to ask
for one is a fault.
-/

namespace ScrobbleRelay.Pattern

/-- The flags that hold at a place of a pattern. -/
structure Modes where
  ignoreCase : Bool := false
  multiLine : Bool := false
  dotAll : Bool := false
  unicode : Bool := true
  carriageReturns : Bool := false
  deriving Repr, DecidableEq

/-- The modes behind some flags. -/
def Modes.set (m : Modes) (signs : List FlagSign) : Modes :=
  { ignoreCase := (flagValue? signs .ignoreCase).getD m.ignoreCase
    multiLine := (flagValue? signs .multiLine).getD m.multiLine
    dotAll := (flagValue? signs .dotAll).getD m.dotAll
    unicode := (flagValue? signs .unicode).getD m.unicode
    carriageReturns := (flagValue? signs .carriageReturns).getD m.carriageReturns }

/-- A fault without an earlier place. -/
def refuse {α : Type} (complaint : Complaint) (span : Span) : Except Fault α :=
  .error ⟨complaint, span, none⟩

/-! ### Literals -/

/-- The character of a literal; a byte beyond ASCII is none. -/
def Modes.charOf (m : Modes) (l : Literal) : Except Fault Char :=
  if !m.unicode && l.isByte && 0x7F < l.char.toNat then refuse .notText l.span else .ok l.char

def Modes.literal (m : Modes) (l : Literal) : Except Fault Shape := do
  let c ← m.charOf l
  if !m.ignoreCase then return .single c
  else if m.unicode then refuse .caseUnknown l.span
  else if c.isAlpha then
    return .char (CharSet.withOtherCase ⟨[(c.toNat, c.toNat)], false⟩)
  else return .single c

def Modes.classCode (m : Modes) (l : Literal) : Except Fault Nat := do
  let c ← m.charOf l
  if !m.unicode && 0x7F < c.toNat then refuse .unicodeForbidden l.span else return c.toNat

/-! ### Classes -/

/-- A set with both cases of its letters, if case is to be ignored. -/
def Modes.settle (m : Modes) (span : Span) (s : CharSet) : Except Fault CharSet :=
  if !m.ignoreCase then .ok s
  else if !m.unicode then .ok s.withOtherCase
  else if s.settled || s.isEmpty then .ok { s with settled := true }
  else refuse .caseUnknown span

/-- The set of a class whose items are known. -/
def Modes.close (m : Modes) (span : Span) (negated : Bool) (s : CharSet) :
    Except Fault CharSet := do
  let s ← m.settle span s
  let greatest := if m.unicode then CharSet.greatestChar else CharSet.greatestByte
  let s := if negated then s.complement greatest else s
  if !m.unicode && !s.isAscii then refuse .notText span else return s

/-- The set of a class that has a letter of its own. -/
def Modes.shorthand (m : Modes) (span : Span) (kind : Shorthand) (negated : Bool) :
    Except Fault CharSet :=
  if m.unicode then refuse .shorthandUnknown span
  else if negated then refuse .notText span
  else .ok kind.asciiSet

/-- A name of a property in its simplest form: in small ASCII letters, without blanks and lines
between words, and without the word that may stand in front. -/
def plainName (name : List Char) : List Char :=
  let plain (cs : List Char) := (cs.filter fun c =>
    c.toNat < 0x80 && c != ' ' && c != '_' && c != '-').map Char.toLower
  match name with
  | a :: b :: rest =>
    if a.toLower == 'i' && b.toLower == 's' then
      if plain rest == ['c'] then ['i', 's', 'c'] else plain rest
    else plain name
  | _ => plain name

/-- The names of categories that are also names of properties; what they name is a value. -/
def categoryNames : List (List Char) := ["cf".toList, "sc".toList, "lc".toList]

/-- Properties of characters are not known. -/
def Modes.property {α : Type} (m : Modes) (span : Span) (name : List Char) (valued : Bool) :
    Except Fault α :=
  if !m.unicode then refuse .unicodeForbidden span
  else if !valued && categoryNames.contains (plainName name) then
    refuse .propertyValueUnknown span
  else refuse .propertyUnknown span

/-- A set together with what a part of a class adds to it. -/
def ClassNode.addTo (m : Modes) (s : CharSet) : ClassNode → Except Fault CharSet
  | empty _ => .ok s
  | literal l => do
    let n ← m.classCode l
    return s.push (n, n)
  | range _ first last => do
    let low ← m.classCode first
    let high ← m.classCode last
    return s.push (low, high)
  | named span name negated => do return s.union (← m.close span negated name.set)
  | shorthand span kind negated => do return s.union (← m.shorthand span kind negated)
  | property span name valued => m.property span name valued
  | bracketed span negated inner => do
    let t ← inner.addTo m .empty
    return s.union (← m.close span negated t)
  | union _ items => listAddTo m s items
  | combined _ op left right => do
    let l ← left.addTo m .empty
    let r ← right.addTo m .empty
    let r ← m.settle right.span r
    let l ← m.settle left.span l
    return s.union (l.combine op r)
where
  /-- A set together with what the items of a list add to it. -/
  listAddTo (m : Modes) (s : CharSet) : List ClassNode → Except Fault CharSet
    | [] => .ok s
    | c :: rest => do listAddTo m (← c.addTo m s) rest

/-! ### Patterns -/

/-- The characters that the dot stands for. -/
def Modes.anyChar (m : Modes) (span : Span) : Except Fault Shape :=
  if !m.unicode then refuse .notText span
  else
    let excluded :=
      if m.dotAll then []
      else if m.carriageReturns then [(0x0A, 0x0A), (0x0D, 0x0D)]
      else [(0x0A, 0x0A)]
    .ok (.char ⟨CharSet.gapsFrom CharSet.greatestChar 0 excluded, false⟩)

/-- The test that an assertion makes. -/
def Modes.look (m : Modes) : Assertion → Look
  | .textStart => .start
  | .textEnd => .finish
  | .lineStart =>
    if !m.multiLine then .start
    else if m.carriageReturns then .returnLineStart
    else .lineStart
  | .lineEnd =>
    if !m.multiLine then .finish
    else if m.carriageReturns then .returnLineFinish
    else .lineFinish
  | .boundary b => if m.unicode then .unicodeBoundary b else .boundary b

def Modes.atom (m : Modes) : Atom → Except Fault Shape
  | .literal l => m.literal l
  | .anyChar span => m.anyChar span
  | .assertion _ a => .ok (.look (m.look a))
  | .shorthand span kind negated => do return .char (← m.shorthand span kind negated)
  | .property span name valued => m.property span name valued

/-- The shape of a pattern, and the modes behind it. -/
def Node.shape? (m : Modes) : Node → Except Fault (Shape × Modes)
  | empty _ => .ok (.empty, m)
  | flags _ signs => .ok (.empty, m.set signs)
  | atom a => do return (← m.atom a, m)
  | bracketed span negated inner => do
    let s ← inner.addTo m .empty
    return (.char (← m.close span negated s), m)
  | repeated _ least most inner => do
    let (s, m) ← inner.shape? m
    return (.repeated least most s, m)
  | group _ captures signs inner => do
    let (s, _) ← inner.shape? (m.set signs)
    return (if captures then .capture s else s, m)
  | sequence _ parts => do
    let (shapes, m) ← shapesOf m parts
    return (.sequence shapes, m)
  | choice _ branches => do
    let (shapes, m) ← shapesOf m branches
    return (.choice shapes, m)
where
  /-- The shapes of several patterns, each in the modes behind the one before it. -/
  shapesOf (m : Modes) : List Node → Except Fault (List Shape × Modes)
    | [] => .ok ([], m)
    | n :: rest => do
      let (s, m) ← n.shape? m
      let (shapes, m) ← shapesOf m rest
      return (s :: shapes, m)

end ScrobbleRelay.Pattern
