import ScrobbleRelay.Log
import ScrobbleRelay.Text.Terminal

/-!
# Log lines as they are written

A text of several lines is written with its further lines set in, and without the control sequences
of terminals.  Only the first line then stands behind the level and the origin; the others are lines
of the output that belong to no log line.
-/

namespace ScrobbleRelay.Log

/-- The columns by which further lines of a text are set in. -/
def recordIndent : String := "    "

/-- The text of a line as it is written, cut into lines. -/
def writtenLines (text : String) : List String :=
  (Text.Terminal.stripped (text.replace "\n" ("\n" ++ recordIndent))).splitOn "\n"

/-- A log line with the first line of its text. -/
def Line.head (line : Line) : Line := { line with text := (writtenLines line.text).headD "" }

/-- The further lines of the text of a log line. -/
def Line.further (line : Line) : List String := (writtenLines line.text).tail

end ScrobbleRelay.Log
