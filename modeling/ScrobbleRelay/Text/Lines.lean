/-!
# Lines of a text

A line ends at a line feed, and a carriage return right before that line feed belongs to the ending.
A final piece without a line feed is a line too, unless it is empty; its carriage returns stay.
-/

namespace ScrobbleRelay.Text

/-- A line without the carriage return that belonged to its ending. -/
def withoutReturn (line : List Char) : List Char :=
  match line.reverse with
  | '\r' :: rest => rest.reverse
  | _ => line

/-- The lines of `cs`, where `line` holds the characters of the current line so far, last first. -/
def linesFrom (line : List Char) : List Char → List (List Char)
  | [] => if line.isEmpty then [] else [line.reverse]
  | '\n' :: rest => withoutReturn line.reverse :: linesFrom [] rest
  | c :: rest => linesFrom (c :: line) rest

def charLines (cs : List Char) : List (List Char) := linesFrom [] cs

def lines (s : String) : List String := (charLines s.toList).map String.ofList

end ScrobbleRelay.Text
