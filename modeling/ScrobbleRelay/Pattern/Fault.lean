import ScrobbleRelay.Pattern.Place
import ScrobbleRelay.Text.Lines

/-!
# Faults of patterns

A pattern that cannot be used has a fault: what is wrong with it and where.  `Fault.report` shows
the pattern with marks below the place, and then says what is wrong.
-/

namespace ScrobbleRelay.Pattern

/-- What can be wrong with a pattern. -/
inductive Complaint
  | classEscape
  | classRangeOrder
  | classRangeEnd
  | classOpen
  | number
  | hexEmpty
  | hexValue
  | hexDigit
  | escapeCut
  | escapeUnknown
  | flagDangling
  | flagTwice
  | flagNegatedTwice
  | flagCut
  | flagUnknown
  | nameTwice
  | nameEmpty
  | nameCharacter
  | nameCut
  | groupOpen
  | groupClosed
  | nesting (most : Nat)
  | countOrder
  | countEmpty
  | countOpen
  | nothingToRepeat
  | boundaryOpen
  | boundaryUnknown
  | boundaryCut
  | propertyLetter
  | backreference
  | lookAround
  | unicodeForbidden
  | notText
  | propertyUnknown
  | propertyValueUnknown
  | shorthandUnknown
  | caseUnknown
  deriving Repr, DecidableEq

/-- What is said about a fault. -/
def Complaint.message : Complaint → String
  | classEscape => "invalid escape sequence found in character class"
  | classRangeOrder => "invalid character class range, the start must be <= the end"
  | classRangeEnd => "invalid range boundary, must be a literal"
  | classOpen => "unclosed character class"
  | number => "decimal literal invalid"
  | hexEmpty => "hexadecimal literal empty"
  | hexValue => "hexadecimal literal is not a Unicode scalar value"
  | hexDigit => "invalid hexadecimal digit"
  | escapeCut => "incomplete escape sequence, reached end of pattern prematurely"
  | escapeUnknown => "unrecognized escape sequence"
  | flagDangling => "dangling flag negation operator"
  | flagTwice => "duplicate flag"
  | flagNegatedTwice => "flag negation operator repeated"
  | flagCut => "expected flag but got end of regex"
  | flagUnknown => "unrecognized flag"
  | nameTwice => "duplicate capture group name"
  | nameEmpty => "empty capture group name"
  | nameCharacter => "invalid capture group character"
  | nameCut => "unclosed capture group name"
  | groupOpen => "unclosed group"
  | groupClosed => "unopened group"
  | nesting most =>
    s!"exceed the maximum number of nested parentheses/brackets ({most})"
  | countOrder => "invalid repetition count range, the start must be <= the end"
  | countEmpty => "repetition quantifier expects a valid decimal"
  | countOpen => "unclosed counted repetition"
  | nothingToRepeat => "repetition operator missing expression"
  | boundaryOpen =>
    "special word boundary assertion is either unclosed or contains an invalid character"
  | boundaryUnknown =>
    "unrecognized special word boundary assertion, valid choices are: " ++
      "start, end, start-half or end-half"
  | boundaryCut =>
    "found either the beginning of a special word boundary or a bounded repetition on a \\b " ++
      "with an opening brace, but no closing brace"
  | propertyLetter => "invalid Unicode character class"
  | backreference => "backreferences are not supported"
  | lookAround => "look-around, including look-ahead and look-behind, is not supported"
  | unicodeForbidden => "Unicode not allowed here"
  | notText => "pattern can match invalid UTF-8"
  | propertyUnknown => "Unicode property not found"
  | propertyValueUnknown => "Unicode property value not found"
  | shorthandUnknown =>
    "Unicode-aware Perl class not found (make sure the unicode-perl feature is enabled)"
  | caseUnknown =>
    "Unicode-aware case insensitivity matching is not available " ++
      "(make sure the unicode-case feature is enabled)"

/-- What is wrong with a pattern, where, and the earlier place that it is in conflict with. -/
structure Fault where
  complaint : Complaint
  span : Span
  earlier : Option Span := none
  deriving Repr, DecidableEq

/-! ### Reports -/

/-- The spans of a fault in their order. -/
def Fault.spans (f : Fault) : List Span := f.earlier.toList ++ [f.span]

/-- Marks below the columns of some spans of one line, in their order, behind `column` columns. -/
def marksFrom (column : Nat) : List Span → List Char
  | [] => []
  | s :: rest =>
    let gap := s.first.column - 1 - column
    List.replicate gap ' ' ++ List.replicate s.width '^' ++
      marksFrom (column + gap + s.width) rest

/-- The line of marks below a line of the pattern, if a span lies on it. -/
def marksOf (margin : Nat) (spans : List Span) (line : Nat) : List String :=
  match spans.filter fun s => s.onOneLine && s.first.line == line with
  | [] => []
  | here => [String.ofList (List.replicate margin ' ' ++ marksFrom 0 here)]

/-- How many lines a pattern has; a line feed at the end begins one more. -/
def lineCount (pattern : String) : Nat :=
  (Text.lines pattern).length + if pattern.endsWith "\n" then 1 else 0

/-- How many digits the numbers of lines take; a single line has no number. -/
def numberWidth (pattern : String) : Nat :=
  let count := lineCount pattern
  if count ≤ 1 then 0 else (toString count).length

/-- What stands before a line of a pattern. -/
def lineMargin (width line : Nat) : String :=
  if width = 0 then "    "
  else
    let number := toString line
    "".pushn ' ' (width - number.length) ++ number ++ ": "

/-- The lines of a pattern, each with the marks below it. -/
def markedLines (pattern : String) (spans : List Span) : List String :=
  let width := numberWidth pattern
  let margin := if width = 0 then 4 else width + 2
  (Text.lines pattern).zipIdx.flatMap fun (text, i) =>
    (lineMargin width (i + 1) ++ text) :: marksOf margin spans (i + 1)

/-- What is said about a span of several lines. -/
def Span.description (s : Span) : String :=
  s!"on line {s.first.line} (column {s.first.column}) " ++
    s!"through line {s.past.line} (column {s.past.column - 1})"

/-- The line between a pattern of several lines and what is said about it. -/
def divider : String := "".pushn '~' 79

/-- What is written about a fault of a pattern. -/
def Fault.report (f : Fault) (pattern : String) : String :=
  let marked := markedLines pattern f.spans
  let shown :=
    if pattern.contains '\n' then
      divider :: marked ++ [divider] ++
        (f.spans.filter fun s => !s.onOneLine).map Span.description
    else marked
  "\n".intercalate
    ("regex parse error:" :: shown ++ [s!"error: {f.complaint.message}"])

end ScrobbleRelay.Pattern
