/-!
# Playback events

What a music player tells about a change of the track: why it changed, and what was playing.  Only
the change at the end of a track makes a listen; all other reasons are a person's doing.
-/

namespace ScrobbleRelay.Playback

/-- Why the player changed what it plays. -/
inductive EventCode
  | seek
  | next
  | prev
  | stop
  | sortedEnter
  | playlistEnter
  | treeEnter
  | autoNext
  deriving Repr, DecidableEq

namespace EventCode

/-- All codes, each at the place of its number. -/
def all : List EventCode :=
  [seek, next, prev, stop, sortedEnter, playlistEnter, treeEnter, autoNext]

/-- The code of a number, if there is one. -/
def ofInt? (n : Int) : Option EventCode := if n < 0 then none else all[n.toNat]?

/-- The name of a code as it is written. -/
def label : EventCode → String
  | seek => "Seek"
  | next => "Next"
  | prev => "Prev"
  | stop => "Stop"
  | sortedEnter => "SortedEnter"
  | playlistEnter => "PlaylistEnter"
  | treeEnter => "TreeEnter"
  | autoNext => "AutoNext"

/-- The code of a name, if there is one. -/
def ofLabel? (name : String) : Option EventCode := all.find? fun code => code.label == name

end EventCode

/-- A playback event: its code, the track that was playing, and where in it the player was. -/
structure Event where
  code : EventCode
  artist : String
  track : String
  album : String
  trackNumber : Int64
  durationSecs : Int64
  position : Int64
  deriving Repr, DecidableEq

end ScrobbleRelay.Playback
