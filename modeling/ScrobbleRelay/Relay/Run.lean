import ScrobbleRelay.Bus.Session
import ScrobbleRelay.Relay.Dispatch

/-!
# The run on the bus

After the subscription the bus delivers the signals that the rule lets through, until it goes away
or the program is told to stop.  A bus that goes away is noticed by one more error of reading.
-/

namespace ScrobbleRelay.Relay

open Bus (MatchRule Signal)
open Service (Submitter)
open Time (Instant)

/-- What reading from a bus that went away gives. -/
def lostBus : Item := .fault "I/O error: failed to read from socket"

/-- What the bus delivers under a rule, up to the end. -/
def delivered (rule : MatchRule) (signals : List Signal) (stop : Stop) : List Item :=
  (signals.filter rule.lets).map Item.signal ++
    match stop with
    | .closed => [lostBus]
    | .cancelled => []

/-- Submit what the bus delivers under a rule. -/
def run {σ : Type} (submitter : Submitter σ) (clock : Nat → Instant) (rule : MatchRule)
    (signals : List Signal) (stop : Stop) (world : σ) : Report σ :=
  dispatch submitter clock (delivered rule signals stop) stop world

end ScrobbleRelay.Relay
