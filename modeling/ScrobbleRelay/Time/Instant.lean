import ScrobbleRelay.Time.Stamp

/-!
# Instants

An instant is a number of whole seconds since the beginning of 1970 in universal time, and a number
of nanoseconds.  Nanoseconds from one thousand million on lie in a leap second, which the clock
shows as second sixty of its minute.
-/

namespace ScrobbleRelay.Time

/-- A point of time in universal time. -/
structure Instant where
  seconds : Int
  nanos : Nat
  deriving Repr, DecidableEq

namespace Instant

def inLeapSecond (t : Instant) : Bool := 1000000000 ≤ t.nanos

def date (t : Instant) : Date := Date.ofDays (t.seconds / 86400)

/-- The whole seconds of an instant since its midnight, a leap second not counted. -/
def secondOfDay (t : Instant) : Nat := (t.seconds % 86400).toNat

def stamp (t : Instant) : Stamp where
  date := t.date
  hour := t.secondOfDay / 3600
  minute := t.secondOfDay / 60 % 60
  second := t.secondOfDay % 60 + (if t.inLeapSecond then 1 else 0)

/-- An instant as `year-month-day hour:minute:second`. -/
def text (t : Instant) : String := t.stamp.text

end Instant

end ScrobbleRelay.Time
