namespace SeriesGateway

/-- A year, a month counted from one, and a day of the month in the proleptic Gregorian calendar. -/
structure Date where
  year : Int
  month : Nat
  day : Nat
  deriving DecidableEq, Repr

namespace Calendar

def firstYear : Int := -262143

def lastYear : Int := 262142

def isLeap (year : Int) : Bool :=
  year % 4 == 0 && (year % 100 != 0 || year % 400 == 0)

/-- The lengths of the months, in order. -/
def monthLengths (leap : Bool) : List Nat :=
  [31, if leap then 29 else 28, 31, 30, 31, 30, 31, 31, 30, 31, 30, 31]

/-- The number of the first of January: 365 days a year and the leap days before it. -/
def newYear (year : Int) : Int :=
  365 * (year - 1970) + (year - 1) / 4 - (year - 1) / 100 + (year - 1) / 400 - 477

/-- The year of a day. The mean length of a year leads to it or to a neighbour. -/
def yearOf (day : Int) : Int :=
  let guess := 400 * day / 146097 + 1970
  if day < newYear guess then guess - 1
  else if newYear (guess + 1) ≤ day then guess + 1
  else guess

/-- The month, counted from one, and the day of it, for a day counted from zero. -/
def splitMonths : List Nat → Nat → Nat × Nat
  | [], day => (1, day + 1)
  | length :: rest, day =>
    if day < length then (1, day + 1)
    else
      let (month, left) := splitMonths rest (day - length)
      (month + 1, left)

end Calendar

namespace Date

open Calendar

def isValid (d : Date) : Bool :=
  firstYear ≤ d.year && d.year ≤ lastYear && 1 ≤ d.month && 1 ≤ d.day &&
    match (monthLengths (isLeap d.year))[d.month - 1]? with
    | some length => d.day ≤ length
    | none => false

/-- The date, if the calendar has it. -/
def of? (year : Int) (month day : Nat) : Option Date :=
  if (Date.mk year month day).isValid then some ⟨year, month, day⟩ else none

/-- How many days of the year are over when a month begins. -/
def daysBefore (leap : Bool) (month : Nat) : Nat :=
  ((monthLengths leap).take (month - 1)).foldl (· + ·) 0

/-- Days since 1970-01-01. -/
def dayNumber (d : Date) : Int :=
  newYear d.year + daysBefore (isLeap d.year) d.month + d.day - 1

def ofDayNumber (number : Int) : Date :=
  let year := yearOf number
  let (month, day) := splitMonths (monthLengths (isLeap year)) (number - newYear year).toNat
  ⟨year, month, day⟩

/-- The day of the week, Sunday being zero. -/
def weekday (d : Date) : Nat :=
  ((d.dayNumber + 4) % 7).toNat

end Date

end SeriesGateway
