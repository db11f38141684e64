import ScrobbleRelay.Bus.Signal
import ScrobbleRelay.Playback.Payload
import ScrobbleRelay.Relay.Bridge

/-!
# Dispatch of signals

A reader takes what the bus delivers, one item after the other, and queues the events it can decode;
a worker takes the events from the queue, in their order, and submits them.  A submission that fails
or crashes is reported and forgotten.  When the reader stops, at the end of the stream or because it
was told to, the worker still empties the queue.  Since the two never wait for each other's results,
what each of them does depends on the items alone, and a dispatch is the run of the one beside the
run of the other.
-/

namespace ScrobbleRelay.Relay

open Bus (Signal)
open Log (Line)
open Playback (Event)
open Service (Submitter)
open Time (Instant)

/-- What the bus delivers: a signal, or an error of reading. -/
inductive Item
  | signal (signal : Signal)
  | fault (text : String)

/-- Why the reader stops: the stream ends, or the program is told to stop. -/
inductive Stop
  | closed
  | cancelled
  deriving Repr, DecidableEq

/-- The event that an item carries, if it carries one. -/
def Item.event? : Item → Option Event
  | signal s => (Event.ofBody s.body).toOption
  | fault _ => none

/-- The line for an event that was read. -/
def receivedLine (event : Event) : Line :=
  ⟨.debug, .bus,
    s!"Received {event.code.label} for {event.artist} - {event.track} " ++
      s!"(track {event.trackNumber.toInt}, at {event.position.toInt}s)"⟩

def Item.line : Item → Line
  | signal s =>
    match Event.ofBody s.body with
    | .ok event => receivedLine event
    | .error e => ⟨.warn, .bus, s!"Ignoring signal from {s.senderText}: {e.message}"⟩
  | fault text => ⟨.warn, .bus, s!"Error reading from the session bus: {text}"⟩

/-- The last line of the reader, if it has any. -/
def Stop.lines : Stop → List Line
  | closed => []
  | cancelled => [⟨.info, .bus, "Shutting down"⟩]

def Stop.outcome : Stop → Except Failure Unit
  | closed => .error (.plain "Session bus connection closed")
  | cancelled => .ok ()

def readerLines (items : List Item) (stop : Stop) : List Line := items.map Item.line ++ stop.lines

def queuedEvents (items : List Item) : List Event := items.filterMap Item.event?

variable {σ : Type}

def crashText : String := "<panic>"

/-- What the worker reports about the ending of a submission. -/
def endingLines {α : Type} : Ending Failure α → List Line
  | .done _ => []
  | .failed failure => [⟨.error, .bus, "Scrobble submission failed: " ++ failure.oneLine⟩]
  | .crashed => [⟨.error, .bus, "Submission task failed: " ++ crashText⟩]

/-- What is reported of an ending has nothing to do with its value. -/
@[simp] theorem endingLines_map {α β : Type} (f : α → β) (ending : Ending Failure α) :
    endingLines (ending.map f) = endingLines ending := by
  cases ending <;> rfl

/-- One event in the hands of the worker: the world after it and the lines about it. -/
def work (submitter : Submitter σ) (event : Event) (now : Instant) (world : σ) : σ × List Line :=
  let run := (handle submitter event now).run world
  (run.world, run.lines ++ endingLines run.ending)

/-- The run of the worker over queued events; `clock` tells the time at which the event with a
number is taken. -/
def workAll (submitter : Submitter σ) (clock : Nat → Instant) :
    Nat → List Event → σ → σ × List Line
  | _, [], world => (world, [])
  | n, event :: rest, world =>
    let first := work submitter event (clock n) world
    let others := workAll submitter clock (n + 1) rest first.1
    (others.1, first.2 ++ others.2)

/-- A finished dispatch: its outcome, the lines of reader and worker, and the world it left. -/
structure Report (σ : Type) where
  outcome : Except Failure Unit
  reader : List Line
  worker : List Line
  world : σ

/-- Dispatch items until the reader stops. -/
def dispatch (submitter : Submitter σ) (clock : Nat → Instant) (items : List Item) (stop : Stop)
    (world : σ) : Report σ :=
  let worked := workAll submitter clock 0 (queuedEvents items) world
  { outcome := stop.outcome
    reader := readerLines items stop
    worker := worked.2
    world := worked.1 }

end ScrobbleRelay.Relay
