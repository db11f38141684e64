import ScrobbleRelay.Playback.Event
import ScrobbleRelay.Time.Instant

/-!
# Scrobbles

A scrobble is the record of one track heard to its end: what the services are told.  It is made of
a playback event and the time at which the event arrived; the event's own position and track number
play no part.
-/

namespace ScrobbleRelay

open Playback (Event EventCode)
open Time (Instant)

/-- The record of a track that was heard. -/
structure Scrobble where
  artist : String
  title : String
  length : Int64
  playedAt : Instant
  album : String
  mbid : String
  deriving Repr, DecidableEq

namespace Scrobble

/-- The scrobble of an event at a time; only the end of a track makes one. -/
def ofEvent? (event : Event) (playedAt : Instant) : Option Scrobble :=
  if event.code = EventCode.autoNext then
    some
      { artist := event.artist
        title := event.track
        length := event.durationSecs
        playedAt
        album := event.album
        mbid := "" }
  else none

/-- A change of the track that is a person's doing makes no scrobble. -/
theorem ofEvent?_of_ne {event : Event} (doing : event.code ≠ .autoNext) (playedAt : Instant) :
    ofEvent? event playedAt = none :=
  if_neg doing

/-- The time of a scrobble as text. -/
def datePlayed (s : Scrobble) : String := s.playedAt.text

def album? (s : Scrobble) : Option String := if s.album.isEmpty then none else some s.album

end Scrobble

end ScrobbleRelay
