/-!
# Log lines

The lines that the program writes about its work.  A line has a level, the part of the program it
comes from and a text; the order of lines is the order of the work.
-/

namespace ScrobbleRelay.Log

/-- How urgent a line is, the most urgent first. -/
inductive Level
  | error
  | warn
  | info
  | debug
  deriving Repr, DecidableEq

/-- The name of a level as it is written. -/
def Level.label : Level → String
  | .error => "ERROR"
  | .warn => "WARN"
  | .info => "INFO"
  | .debug => "DEBUG"

/-- The place of a level in the order of urgency, `1` for the most urgent. -/
def Level.rank : Level → Nat
  | .error => 1
  | .warn => 2
  | .info => 3
  | .debug => 4

/-- The part of the program that a line comes from. -/
inductive Origin
  | bus
  | bridge
  | settings
  | services
  | audioscrobbler
  | lastfm
  | listenbrainz
  deriving Repr, DecidableEq

/-- The name of a part as it is written. -/
def Origin.label : Origin → String
  | .bus => "bus"
  | .bridge => "bridge"
  | .settings => "config"
  | .services => "scrobbler"
  | .audioscrobbler => "scrobbler::audioscrobbler"
  | .lastfm => "scrobbler::lastfm"
  | .listenbrainz => "scrobbler::listenbrainz"

/-- One line of the log. -/
structure Line where
  level : Level
  origin : Origin
  text : String
  deriving Repr, DecidableEq

end ScrobbleRelay.Log
