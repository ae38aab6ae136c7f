import SeriesGateway.Instant
import SeriesGateway.Text.Blank
import SeriesGateway.Text.Numeral

namespace SeriesGateway.Timestamp

/-- The fields of a date and time as a text gives them, in any order. -/
structure Fields where
  year : Option Int := none
  month : Option Nat := none
  day : Option Nat := none
  /-- The day of the week, Sunday being zero. -/
  weekday : Option Nat := none
  hour : Option Nat := none
  minute : Option Nat := none
  second : Option Nat := none
  nanos : Option Nat := none
  /-- Seconds that the local time is ahead. -/
  offset : Option Int := none
  deriving DecidableEq, Repr

namespace Fields

/-- The date, which a weekday must fit. -/
def date? (f : Fields) : Option Date := do
  let date ← Date.of? (← f.year) (← f.month) (← f.day)
  if (f.weekday.getD date.weekday) = date.weekday then some date else none

/-- The local date and time; what is not given of the time is zero. -/
def civil? (f : Fields) : Option Civil := do
  let date ← f.date?
  let hour := f.hour.getD 0
  let minute := f.minute.getD 0
  let second := f.second.getD 0
  let nanos := f.nanos.getD 0
  if 24 ≤ hour ∨ 60 ≤ minute ∨ 61 ≤ second then none
  else if second = 60 then some ⟨date, hour, minute, 59, 1_000_000_000 + nanos⟩
  else some ⟨date, hour, minute, second, nanos⟩

/-- The instant, if the offset is under a day and the calendar has it. -/
def instant? (f : Fields) : Option Instant := do
  let civil ← f.civil?
  let offset := f.offset.getD 0
  let t := civil.instant offset
  if offset.natAbs < 86400 ∧ t.inCalendar then some t else none

end Fields

/-- Up to `width` digits, at least one, and what follows them. -/
def takeNumber (width : Nat) (cs : List Char) : Option (Nat × List Char) :=
  let digits := (cs.take width).takeWhile Char.isDigit
  if digits.isEmpty then none else some (Numeral.value digits, cs.drop digits.length)

/-- Exactly `width` digits, and what follows them. -/
def takeExactly (width : Nat) (cs : List Char) : Option (Nat × List Char) :=
  let digits := cs.take width
  if digits.length = width ∧ digits.all Char.isDigit then
    some (Numeral.value digits, cs.drop width)
  else none

def takeChar (c : Char) : List Char → Option (List Char)
  | [] => none
  | d :: rest => if d = c then some rest else none

/-- Seconds ahead, of a sign, two digits of hours and two of minutes; `between` skips what may
part the two. The sign may be the typographic minus. -/
def takeOffset (between : List Char → Option (List Char)) (cs : List Char) :
    Option (Int × List Char) := do
  let (negative, rest) ← match cs with
    | '+' :: rest => some (false, rest)
    | '-' :: rest => some (true, rest)
    | '\u2212' :: rest => some (true, rest)
    | _ => none
  let (hours, rest) ← takeExactly 2 rest
  let rest ← between rest
  let (minutes, rest) ← takeExactly 2 rest
  if minutes < 60 then
    let ahead : Int := (hours * 60 + minutes) * 60
    some (if negative then -ahead else ahead, rest)
  else none

end SeriesGateway.Timestamp
