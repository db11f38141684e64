import ScrobbleRelay.Bus.Value

/-!
# Signals

A signal is a message that the bus delivers to all who subscribed to it.
-/

namespace ScrobbleRelay.Bus

/-- A delivered signal: its arguments, where it comes from, and what it is called. -/
structure Signal where
  body : List Value
  sender : Option String
  path : String
  interface : String
  member : String
  deriving Repr

/-- The sender as log lines name it. -/
def Signal.senderText (s : Signal) : String := s.sender.getD "unknown sender"

end ScrobbleRelay.Bus
