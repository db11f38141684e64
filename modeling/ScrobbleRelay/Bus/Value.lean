/-!
# Bus values

The values that a message on the session bus carries, each of one of the types of the bus, and the
signatures by which the bus writes those types.
-/

namespace ScrobbleRelay.Bus

/-- A value of a message.  An array carries the signature of its elements, a dictionary those of its
keys and values; a floating-point number is held by its bits, and a handle is the number of an open
file that goes with the message. -/
inductive Value where
  | byte (n : UInt8)
  | int16 (n : Int16)
  | uint16 (n : UInt16)
  | int32 (n : Int32)
  | uint32 (n : UInt32)
  | int64 (n : Int64)
  | uint64 (n : UInt64)
  | bool (b : Bool)
  | double (bits : UInt64)
  | text (s : String)
  | path (s : String)
  | signature (s : String)
  | handle (n : UInt32)
  | variant (v : Value)
  | struct (fields : List Value)
  | array (element : String) (items : List Value)
  | dictionary (key value : String) (entries : List (Value × Value))
  deriving Repr

mutual

def Value.typeText : Value → String
  | .byte _ => "y"
  | .int16 _ => "n"
  | .uint16 _ => "q"
  | .int32 _ => "i"
  | .uint32 _ => "u"
  | .int64 _ => "x"
  | .uint64 _ => "t"
  | .bool _ => "b"
  | .double _ => "d"
  | .text _ => "s"
  | .path _ => "o"
  | .signature _ => "g"
  | .handle _ => "h"
  | .variant _ => "v"
  | .struct fields => "(" ++ Value.typeTexts fields ++ ")"
  | .array element _ => "a" ++ element
  | .dictionary key value _ => "a\x7b" ++ key ++ value ++ "\x7d"

/-- The signatures of the types of some values, one after the other. -/
def Value.typeTexts : List Value → String
  | [] => ""
  | v :: vs => v.typeText ++ Value.typeTexts vs

end

end ScrobbleRelay.Bus
