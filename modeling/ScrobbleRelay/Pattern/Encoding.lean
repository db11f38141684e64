import ScrobbleRelay.Pattern.CharSet

/-!
# Sets of characters in bytes

The encodings of a range of characters are sequences of bytes.  `encodings` describes them by
sequences of ranges of bytes such that every choice of one byte from each range is the encoding of
a character of the range.
-/

namespace ScrobbleRelay.Pattern.Encoding

abbrev ByteRanges := List (Nat × Nat)

/-- Ranges of characters are cut behind these, because what follows has longer encodings or, in the
case of surrogates, none. -/
def lengthLimits : List Nat := [0x7F, 0x7FF, 0xD7FF, 0xDFFF, 0xFFFF]

def cutBehind (limits : List Nat) (range : Nat × Nat) : List (Nat × Nat) :=
  match limits with
  | [] => [range]
  | n :: rest =>
    if range.1 ≤ n && n < range.2 then (range.1, n) :: cutBehind rest (n + 1, range.2)
    else cutBehind rest range

/-- A range cut where blocks of a size begin and end, unless it lies within one. -/
def alignedAt (range : Nat × Nat) (block : Nat) : List (Nat × Nat) :=
  let (low, high) := range
  if low / block == high / block then [range]
  else
    let first := (low + block - 1) / block * block
    let last := (high + 1) / block * block
    (if low < first then [(low, first - 1)] else []) ++
      (if first < last then [(first, last - 1)] else []) ++
      (if last ≤ high then [(last, high)] else [])

/-- A range cut into ranges whose encodings differ in each byte on their own; those of ASCII
characters have only one. -/
def aligned (range : Nat × Nat) : List (Nat × Nat) :=
  if range.2 ≤ 0x7F then [range]
  else [64 * 64 * 64, 64 * 64, 64].foldl (fun ranges block => ranges.flatMap (alignedAt · block)) [range]

def bytes (n : Nat) : List Nat := (String.utf8EncodeChar (Char.ofNat n)).map UInt8.toNat

/-- Whether a range is one of surrogates, which are no characters. -/
def isSurrogates (range : Nat × Nat) : Bool := 0xD800 ≤ range.1 && range.2 ≤ 0xDFFF

def encodings (s : CharSet) : List ByteRanges :=
  ((s.ranges.flatMap (cutBehind lengthLimits)).filter (!isSurrogates ·)).flatMap fun range =>
    (aligned range).map fun (low, high) => (bytes low).zip (bytes high)

/-- The beginnings of the encodings of a set, each once. -/
def beginnings (sequences : List ByteRanges) : List ByteRanges :=
  (sequences.flatMap fun s => (List.range s.length).map fun n => s.take (n + 1)).eraseDups

/-- The continuations of the encodings behind each of their first ranges. -/
def continuations (sequences : List ByteRanges) : List (List ByteRanges) :=
  let firsts := (sequences.filterMap List.head?).eraseDups
  firsts.map fun range =>
    sequences.filterMap fun s => if s.head? == some range then s.tail? else none

/-- All sets of continuations that are met while an encoding is read, as far as `depth` bytes. -/
def stages : Nat → List ByteRanges → List (List ByteRanges)
  | 0, _ => []
  | depth + 1, sequences =>
    if sequences.all List.isEmpty then []
    else sequences :: (continuations sequences).flatMap (stages depth)

end ScrobbleRelay.Pattern.Encoding
