import ScrobbleRelay.Text.Digits
import ScrobbleRelay.Time.Civil

/-!
# Stamps

A stamp is a civil date with a time of day, as it is sent to the services.  `Stamp.text` writes
`year-month-day hour:minute:second`, and `Stamp.ofText?` reads such a text back; a stamp whose
second is sixty belongs to a leap second.
-/

namespace ScrobbleRelay.Time

/-- A civil date and a time of day. -/
structure Stamp where
  date : Date
  hour : Nat
  minute : Nat
  second : Nat
  deriving Repr, DecidableEq

/-- A year as four digits; outside of 0 to 9999 with its sign and at least four digits. -/
def yearText (year : Int) : String :=
  if 0 ≤ year ∧ year ≤ 9999 then Text.padded 4 year.toNat
  else if year < 0 then "-" ++ Text.padded 4 year.natAbs
  else "+" ++ Text.padded 4 year.natAbs

/-- The number that the digits in front of a separator write, and what follows the separator. -/
def numberBefore? (separator : Char) (cs : List Char) : Option (Nat × List Char) :=
  match Text.natOfDigits? (cs.takeWhile Char.isDigit), cs.dropWhile Char.isDigit with
  | some n, c :: rest => if c = separator then some (n, rest) else none
  | _, _ => none

/-- The year in front of a hyphen, with or without a sign, and what follows the hyphen. -/
def yearBefore? : List Char → Option (Int × List Char)
  | '-' :: cs => (numberBefore? '-' cs).map fun (n, rest) => (-(n : Int), rest)
  | '+' :: cs => (numberBefore? '-' cs).map fun (n, rest) => ((n : Int), rest)
  | cs => (numberBefore? '-' cs).map fun (n, rest) => ((n : Int), rest)

namespace Stamp

/-- A stamp whose date is one of the calendar and whose time is one of the clock. -/
def Valid (s : Stamp) : Prop := s.date.Valid ∧ s.hour < 24 ∧ s.minute < 60 ∧ s.second ≤ 60

instance (s : Stamp) : Decidable s.Valid := inferInstanceAs (Decidable (_ ∧ _ ∧ _ ∧ _))

def text (s : Stamp) : String :=
  yearText s.date.year ++ "-" ++ Text.padded 2 s.date.month ++ "-" ++ Text.padded 2 s.date.day ++
    " " ++ Text.padded 2 s.hour ++ ":" ++ Text.padded 2 s.minute ++ ":" ++ Text.padded 2 s.second

/-- The stamp that a text writes; `none` where there is no such date or time. -/
def ofText? (text : String) : Option Stamp := do
  let (year, afterYear) ← yearBefore? text.toList
  let (month, afterMonth) ← numberBefore? '-' afterYear
  let (day, afterDay) ← numberBefore? ' ' afterMonth
  let (hour, afterHour) ← numberBefore? ':' afterDay
  let (minute, afterMinute) ← numberBefore? ':' afterHour
  let second ← Text.natOfDigits? afterMinute
  let stamp : Stamp := ⟨⟨year, month, day⟩, hour, minute, second⟩
  if stamp.Valid then some stamp else none

/-- The seconds from the beginning of 1970 to a stamp, every minute counted as sixty seconds. -/
def toSeconds (s : Stamp) : Int :=
  s.date.toDays * 86400 + (s.hour * 3600 + s.minute * 60 + s.second : Nat)

end Stamp

end ScrobbleRelay.Time
