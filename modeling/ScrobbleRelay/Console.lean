import ScrobbleRelay.Task
import ScrobbleRelay.Text.Blank

/-!
# The console

What a person types waits as bytes, and what the program prints is kept in order.  A question prints
its label and takes one line, without the blanks at both ends; at the end of the input the answer is
empty.  A line that is no text is taken too, and is an error.
-/

namespace ScrobbleRelay

/-- A console: the bytes still to be read and the text printed so far. -/
structure Console where
  input : List UInt8
  printed : String
  deriving Repr

namespace Console

def notText : Failure := .plain "stream did not contain valid UTF-8"

/-- The bytes up to and with the first line feed, and the bytes after it. -/
def splitLine : List UInt8 → List UInt8 × List UInt8
  | [] => ([], [])
  | b :: rest =>
    if b = 10 then ([b], rest)
    else
      let (line, after) := splitLine rest
      (b :: line, after)

def print (text : String) : Task Failure Console Unit :=
  Task.change fun c => { c with printed := c.printed ++ text }

def readLine : Task Failure Console String := do
  let console ← Task.world
  let (line, after) := splitLine console.input
  Task.change fun c => { c with input := after }
  match String.fromUTF8? (ByteArray.mk line.toArray) with
  | some text => return text
  | none => Task.fail notText

def ask (label : String) : Task Failure Console String := do
  print label
  let line ← readLine
  return Text.trim line

end Console

end ScrobbleRelay
