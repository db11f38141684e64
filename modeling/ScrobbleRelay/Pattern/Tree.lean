import ScrobbleRelay.Pattern.Place

/-!
# Patterns as trees

A pattern describes texts.  It is built from literals, classes of characters and assertions about a
place, by repetition, grouping, sequence and choice.  Every part knows its span, because a fault may
be found in it long after it was read.
-/

namespace ScrobbleRelay.Pattern

/-- A character that stands for itself.  One that is written by two hexadecimal digits is a byte
where patterns are about bytes. -/
structure Literal where
  span : Span
  char : Char
  isByte : Bool
  deriving Repr, DecidableEq

/-- What an assertion about words demands of the characters before and behind a place. -/
inductive Boundary
  | edge
  | interior
  | opening
  | closing
  | openingHalf
  | closingHalf
  deriving Repr, DecidableEq

/-- What an assertion demands of a place. -/
inductive Assertion
  | lineStart
  | lineEnd
  | textStart
  | textEnd
  | boundary (b : Boundary)
  deriving Repr, DecidableEq

/-- The classes that have a letter of their own. -/
inductive Shorthand
  | digit
  | space
  | word
  deriving Repr, DecidableEq

/-- The smallest parts of a pattern; a property is asked for by its name alone or with a value. -/
inductive Atom
  | literal (l : Literal)
  | anyChar (span : Span)
  | assertion (span : Span) (a : Assertion)
  | shorthand (span : Span) (kind : Shorthand) (negated : Bool)
  | property (span : Span) (name : List Char) (valued : Bool)
  deriving Repr, DecidableEq

def Atom.span : Atom → Span
  | literal l => l.span
  | anyChar s => s
  | assertion s _ => s
  | shorthand s _ _ => s
  | property s _ _ => s

/-- The classes of ASCII characters that have a name. -/
inductive AsciiClass
  | alnum
  | alpha
  | ascii
  | blank
  | cntrl
  | digit
  | graph
  | lower
  | print
  | punct
  | space
  | upper
  | word
  | xdigit
  deriving Repr, DecidableEq

def AsciiClass.names : List (String × AsciiClass) :=
  [("alnum", alnum), ("alpha", alpha), ("ascii", ascii), ("blank", blank), ("cntrl", cntrl),
    ("digit", digit), ("graph", graph), ("lower", lower), ("print", print), ("punct", punct),
    ("space", space), ("upper", upper), ("word", word), ("xdigit", xdigit)]

def AsciiClass.ofName? (name : List Char) : Option AsciiClass := names.lookup (String.ofList name)

/-- How two sets of characters are combined. -/
inductive SetOperation
  | intersection
  | difference
  | symmetricDifference
  deriving Repr, DecidableEq

/-- What may stand in a class: single characters, ranges, other classes, several of them side by
side, and two of them combined. -/
inductive ClassNode
  | empty (span : Span)
  | literal (l : Literal)
  | range (span : Span) (first last : Literal)
  | named (span : Span) (name : AsciiClass) (negated : Bool)
  | shorthand (span : Span) (kind : Shorthand) (negated : Bool)
  | property (span : Span) (name : List Char) (valued : Bool)
  | bracketed (span : Span) (negated : Bool) (inner : ClassNode)
  | union (span : Span) (items : List ClassNode)
  | combined (span : Span) (op : SetOperation) (left right : ClassNode)
  deriving Repr

def ClassNode.span : ClassNode → Span
  | empty s => s
  | literal l => l.span
  | range s _ _ => s
  | named s _ _ => s
  | shorthand s _ _ => s
  | property s _ _ => s
  | bracketed s _ _ => s
  | union s _ => s
  | combined s _ _ _ => s

/-- What a flag changes about the meaning of a pattern. -/
inductive Flag
  | ignoreCase
  | multiLine
  | dotAll
  | swapGreed
  | unicode
  | carriageReturns
  | loose
  deriving Repr, DecidableEq

/-- A sign in a list of flags: a flag, or with `none` the sign behind which flags are taken away. -/
structure FlagSign where
  span : Span
  flag : Option Flag
  deriving Repr, DecidableEq

/-- What a list of flags says about one of them. -/
def flagValue? (signs : List FlagSign) (flag : Flag) : Option Bool :=
  let (before, behind) := signs.span fun s => s.flag.isSome
  if before.any (·.flag == some flag) then some true
  else if behind.any (·.flag == some flag) then some false
  else none

/-- A pattern. -/
inductive Node
  | empty (span : Span)
  | flags (span : Span) (signs : List FlagSign)
  | atom (a : Atom)
  | bracketed (span : Span) (negated : Bool) (inner : ClassNode)
  | repeated (span : Span) (least : Nat) (most : Option Nat) (inner : Node)
  | group (span : Span) (captures : Bool) (signs : List FlagSign) (inner : Node)
  | sequence (span : Span) (parts : List Node)
  | choice (span : Span) (branches : List Node)
  deriving Repr

def Node.span : Node → Span
  | empty s => s
  | flags s _ => s
  | atom a => a.span
  | bracketed s _ _ => s
  | repeated s _ _ _ => s
  | group s _ _ _ => s
  | sequence s _ => s
  | choice s _ => s

/-- Whether a pattern only sets flags, so that there is nothing to repeat. -/
def Node.isFlags : Node → Bool
  | flags _ _ => true
  | _ => false

end ScrobbleRelay.Pattern
