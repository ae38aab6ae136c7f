import SeriesGateway.Calendar

namespace SeriesGateway

/-- A number of seconds and nanoseconds; the nanoseconds count forwards. -/
structure Duration where
  seconds : Int
  nanos : Nat
  deriving DecidableEq, Repr

/-- Whole milliseconds; what is left over is dropped, on either side of zero. -/
def Duration.milliseconds (d : Duration) : Int :=
  (d.seconds * 1_000_000_000 + d.nanos).tdiv 1_000_000

/-- Seconds since 1970-01-01T00:00:00Z, and the nanoseconds into that second; a second or more of
these is the leap second behind it. -/
structure Instant where
  seconds : Int
  nanos : Nat
  deriving DecidableEq, Repr

/-- A date and a time of day in one zone. -/
structure Civil where
  date : Date
  hour : Nat
  minute : Nat
  second : Nat
  nanos : Nat
  deriving DecidableEq, Repr

/-- The instant of a time of day in the zone that is `offset` seconds ahead. -/
def Civil.instant (c : Civil) (offset : Int) : Instant where
  seconds := c.date.dayNumber * 86400 + c.hour * 3600 + c.minute * 60 + c.second - offset
  nanos := c.nanos

namespace Instant

/-- The date and the time of day in the zone without offset. -/
def civil (t : Instant) : Civil :=
  let day := t.seconds / 86400
  let second := (t.seconds % 86400).toNat
  { date := .ofDayNumber day
    hour := second / 3600
    minute := second / 60 % 60
    second := second % 60
    nanos := t.nanos }

def ofNanoseconds (n : Int) : Instant :=
  ⟨n / 1_000_000_000, (n % 1_000_000_000).toNat⟩

def ofMilliseconds (n : Int) : Instant :=
  ⟨n / 1000, (n % 1000).toNat * 1_000_000⟩

def ofSeconds (n : Int) : Instant :=
  ⟨n, 0⟩

/-- Milliseconds since the start of 1970, rounded down. -/
def milliseconds (t : Instant) : Int :=
  t.seconds * 1000 + (t.nanos / 1_000_000 : Nat)

def nanoseconds (t : Instant) : Int :=
  t.seconds * 1_000_000_000 + t.nanos

/-- Nanoseconds since the start of 1970, if they fit 64 bits. -/
def nanoseconds? (t : Instant) : Option Int64 :=
  if -0x8000000000000000 ≤ t.nanoseconds ∧ t.nanoseconds < 0x8000000000000000 then
    some (.ofInt t.nanoseconds)
  else none

/-- Whether the calendar has the day of an instant. -/
def inCalendar (t : Instant) : Bool :=
  Calendar.newYear Calendar.firstYear * 86400 ≤ t.seconds &&
    t.seconds < Calendar.newYear (Calendar.lastYear + 1) * 86400

end Instant

end SeriesGateway
