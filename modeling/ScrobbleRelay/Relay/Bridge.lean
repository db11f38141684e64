import ScrobbleRelay.Playback.Event
import ScrobbleRelay.Service.Submitter

/-!
# From events to submissions

An event at the end of a track is submitted as a scrobble of the time at which it arrived; every
other event is passed over.  Nothing is remembered from one event to the next.
-/

namespace ScrobbleRelay.Relay

open Playback (Event)
open Service (Submitter)
open Time (Instant)

variable {σ : Type}

/-- Submit what an event says, if it says anything; the value is the submitted scrobble, and the only
failure is that of the submission. -/
def handle (submitter : Submitter σ) (event : Event) (now : Instant) :
    Task Failure σ (Option Scrobble) :=
  match Scrobble.ofEvent? event now with
  | none => do
    Task.log .debug .bridge
      s!"Ignoring {event.code.label} event for {event.artist} - {event.track}"
    return none
  | some scrobble => do
    Task.log .info .bridge
      (s!"Scrobbling: {scrobble.artist} - {scrobble.title} " ++
        s!"({scrobble.length.toInt}s) via {submitter.name}")
    submitter.submit scrobble
    return some scrobble

/-! ### What is done with an event -/

section

variable (submitter : Submitter σ) {event : Event} {now : Instant}

theorem run_handle_of_none (passed : Scrobble.ofEvent? event now = none) (world : σ) :
    (handle submitter event now).run world =
      ⟨.done none, world, [⟨.debug, .bridge,
        s!"Ignoring {event.code.label} event for {event.artist} - {event.track}"⟩]⟩ := by
  simp [handle, passed, Task.run_bind]

/-- An event that makes a scrobble is submitted once, and ends as its submission does. -/
theorem run_handle_of_some {scrobble : Scrobble}
    (made : Scrobble.ofEvent? event now = some scrobble) (world : σ) :
    (handle submitter event now).run world =
      let run := (submitter.submit scrobble).run world
      ⟨run.ending.map fun _ => some scrobble, run.world,
        ⟨.info, .bridge,
          s!"Scrobbling: {scrobble.artist} - {scrobble.title} " ++
            s!"({scrobble.length.toInt}s) via {submitter.name}"⟩ :: run.lines⟩ := by
  simp only [handle, made, Task.run_bind, Task.run_log]
  cases ((submitter.submit scrobble).run world).ending with
  | done => simp [Ending.map]
  | failed => simp [Ending.map]
  | crashed => simp [Ending.map]

end

end ScrobbleRelay.Relay
