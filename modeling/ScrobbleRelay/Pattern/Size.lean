import ScrobbleRelay.Pattern.Encoding
import ScrobbleRelay.Pattern.Shape

/-!
# The size of shapes

A shape is searched for by a machine that reads bytes, and there is a limit on how large the machine
may grow: a repetition takes the room of its inner shape as often as it is counted.  Two machines
are built, one for each direction, and both have to keep within the limit.  Only the one that reads
forward remembers places.
-/

namespace ScrobbleRelay.Pattern

/-- In which direction a machine reads. -/
inductive Heading
  | forward
  | backward
  deriving Repr, DecidableEq

def stateSize : Nat := 32

/-- The room of a way out of a state that is open for a range of bytes. -/
def rangeSize : Nat := 8

/-- The room of a way out of a state that is always open. -/
def branchSize : Nat := 4

/-- The room of a state with two ways out that are always open. -/
def forkSize : Nat := stateSize + 2 * branchSize

/-- The room for a set of several characters.  A state leads to all ASCII characters at once;
otherwise the bytes of encodings are read one after the other.  Forward, what is left of them after
the same bytes is shared; backward, states are shared by encodings that begin with the same
bytes. -/
def CharSet.sizeOfSeveral (heading : Heading) (s : CharSet) : Nat :=
  if s.isAscii then 2 * stateSize + s.ranges.length * rangeSize
  else
    let sequences := Encoding.encodings s
    match heading with
    | .forward =>
      let stages := (Encoding.stages 4 sequences).eraseDups
      let ways := (stages.flatMap Encoding.continuations).length
      (stages.length + 1) * stateSize + ways * rangeSize
    | .backward =>
      ((Encoding.beginnings sequences).length + 2) * stateSize + sequences.length * branchSize

/-- The room for a set of characters; a single one has a state for each of its bytes. -/
def CharSet.size (heading : Heading) (s : CharSet) : Nat :=
  match s.ranges with
  | [] => stateSize
  | [(low, high)] =>
    if low = high then (Encoding.bytes low).length * stateSize else s.sizeOfSeveral heading
  | _ => s.sizeOfSeveral heading

namespace Shape

/-- Whether a shape surely covers a character. -/
def coversSome : Shape → Bool
  | empty => false
  | char set => !set.isEmpty
  | look _ => false
  | capture inner => inner.coversSome
  | sequence parts => anyCoversSome parts
  | choice branches => allCoverSome branches
  | times least _ inner => 0 < least && inner.coversSome
where
  /-- Whether one of some shapes surely covers a character. -/
  anyCoversSome : List Shape → Bool
    | [] => false
    | s :: rest => s.coversSome || anyCoversSome rest
  /-- Whether all of some shapes surely cover a character. -/
  allCoverSome : List Shape → Bool
    | [] => true
    | s :: rest => s.coversSome && allCoverSome rest

/-- The room for a repetition of a shape of a given size. -/
def timesSize (least : Nat) (most : Option Nat) (coversSome : Bool) (inner : Nat) : Nat :=
  match least, most with
  | 0, some 1 => forkSize + inner + stateSize
  | 0, none => if coversSome then forkSize + inner else inner + 2 * forkSize + stateSize
  | n, none => n * inner + forkSize
  | n, some m =>
    let required := if n = 0 then stateSize else n * inner
    if m ≤ n then required else required + stateSize + (m - n) * (forkSize + inner)

def size (heading : Heading) : Shape → Nat
  | empty => stateSize
  | char set => set.size heading
  | look _ => stateSize
  | capture inner =>
    match heading with
    | .forward => 2 * stateSize + inner.size heading
    | .backward => inner.size heading
  | sequence parts => sizeOfAll heading parts
  | choice branches =>
    2 * stateSize + branches.length * branchSize + sizeOfAll heading branches
  | times least most inner => timesSize least most inner.coversSome (inner.size heading)
where
  /-- The room for all of some shapes. -/
  sizeOfAll (heading : Heading) : List Shape → Nat
    | [] => 0
    | s :: rest => s.size heading + sizeOfAll heading rest

/-- The room for what a machine does before and behind a shape: bytes may come before it, the whole
place is remembered, and the end is known. -/
def frameSize : Nat := forkSize + (2 * stateSize + rangeSize) + stateSize

def greatestSize : Nat := 10 * 1024 * 1024

/-- Whether the machines of a shape keep within the limit. -/
def fits (s : Shape) : Bool :=
  frameSize + (capture s).size .forward ≤ greatestSize &&
    frameSize + s.size .backward ≤ greatestSize

end Shape

end ScrobbleRelay.Pattern
