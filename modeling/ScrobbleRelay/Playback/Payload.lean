import ScrobbleRelay.Bus.Value
import ScrobbleRelay.Playback.Event

/-!
# Payloads of playback signals

A playback signal carries seven values: the event code, artist, track and album as texts, and track
number, duration and position as integers of any width.  Reading them checks the values from the
first to the last, and the code for its meaning before the texts are looked at; the first fault
found is the one reported.  Before all that, the arguments of a message have to make one structure
whose signature is not too long for the bus.
-/

namespace ScrobbleRelay.Playback

open Bus (Value)

/-- A field of the payload. -/
inductive Field
  | code
  | artist
  | track
  | album
  | trackNumber
  | duration
  | position
  deriving Repr, DecidableEq

namespace Field

/-- The place of a field in the payload. -/
def index : Field → Nat
  | code => 0
  | artist => 1
  | track => 2
  | album => 3
  | trackNumber => 4
  | duration => 5
  | position => 6

/-- What a field holds, as errors name it. -/
def label : Field → String
  | code => "event code"
  | artist => "artist"
  | track => "track"
  | album => "album"
  | trackNumber => "track number"
  | duration => "duration"
  | position => "position"

/-- A field as errors name it, with its place. -/
def place (f : Field) : String := s!"{f.label} (field {f.index})"

end Field

/-- The greatest number of characters that the bus allows a signature. -/
def longestSignature : Nat := 255

/-- Why a payload was refused. -/
inductive PayloadError
  | noBody
  | longSignature (length : Nat)
  | wrongCount (count : Nat)
  | unknownCode (code : Int)
  | notAnInteger (field : Field) (typeText : String)
  | outOfRange (field : Field) (value : Nat)
  | notAText (field : Field) (typeText : String)
  deriving Repr, DecidableEq

namespace PayloadError

/-- The reason as it is written after the common opening words. -/
def reason : PayloadError → String
  | noBody => "invalid length 2, expected >= 2 characters"
  | longSignature length => s!"invalid length {length}, expected <= {longestSignature} characters"
  | wrongCount count => s!"expected 7 fields, got {count}"
  | unknownCode code => s!"unknown event code {code}"
  | notAnInteger field typeText => s!"{field.place} must be an integer, got signature {typeText}"
  | outOfRange field value => s!"{field.place} out of range: {value}"
  | notAText field typeText => s!"{field.place} must be a string, got signature {typeText}"

def message (e : PayloadError) : String := "invalid NowPlaying payload: " ++ e.reason

end PayloadError

/-- The code of a number; an unknown number is an error. -/
def codeOfInt (n : Int) : Except PayloadError EventCode :=
  match EventCode.ofInt? n with
  | some code => .ok code
  | none => .error (.unknownCode n)

/-- The integer that a value of any integer type holds.  Only an unsigned value of 64 bits can be
too large. -/
def integerField (field : Field) : Value → Except PayloadError Int64
  | .byte n => .ok (Int64.ofNat n.toNat)
  | .int16 n => .ok (Int64.ofInt n.toInt)
  | .uint16 n => .ok (Int64.ofNat n.toNat)
  | .int32 n => .ok (Int64.ofInt n.toInt)
  | .uint32 n => .ok (Int64.ofNat n.toNat)
  | .int64 n => .ok n
  | .uint64 n =>
    if n.toNat < 0x8000000000000000 then .ok (Int64.ofNat n.toNat) else .error (.outOfRange field n.toNat)
  | other => .error (.notAnInteger field other.typeText)

def textField (field : Field) : Value → Except PayloadError String
  | .text s => .ok s
  | other => .error (.notAText field other.typeText)

/-- The event of the values of a payload. -/
def Event.ofFields : List Value → Except PayloadError Event
  | [code, artist, track, album, trackNumber, duration, position] => do
    let code ← integerField .code code
    let code ← codeOfInt code.toInt
    let artist ← textField .artist artist
    let track ← textField .track track
    let album ← textField .album album
    let trackNumber ← integerField .trackNumber trackNumber
    let durationSecs ← integerField .duration duration
    let position ← integerField .position position
    return { code, artist, track, album, trackNumber, durationSecs, position }
  | fields => .error (.wrongCount fields.length)

/-- The values of a payload, found in the arguments of a message: a single structure stands for its
fields. -/
def payloadOfBody : List Value → List Value
  | [.struct fields] => fields
  | arguments => arguments

/-- The signature of a payload read as one structure: that of its fields between brackets. -/
def payloadSignature (fields : List Value) : String := (Value.struct fields).typeText

/-- The event of the arguments of a message.  They are read as one structure, whose signature has to
be one that the bus allows. -/
def Event.ofBody : List Value → Except PayloadError Event
  | [] => .error .noBody
  | body =>
    let fields := payloadOfBody body
    let length := (payloadSignature fields).length
    if longestSignature < length then .error (.longSignature length) else Event.ofFields fields

end ScrobbleRelay.Playback
