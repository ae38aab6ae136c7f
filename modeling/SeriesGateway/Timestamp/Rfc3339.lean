import SeriesGateway.Timestamp.Fields

namespace SeriesGateway.Timestamp.Rfc3339

/-- The letter between date and time. -/
def takeTimeMark : List Char → Option (List Char)
  | 'T' :: rest | 't' :: rest | ' ' :: rest => some rest
  | _ => none

/-- Nanoseconds of the digits behind a point, if there is a point. -/
def takeFraction : List Char → Option (Option Nat × List Char)
  | '.' :: rest => do
    let digits := (rest.take 9).takeWhile Char.isDigit
    if digits.isEmpty then none
    else
      let nanos := Numeral.value digits * Nat.pow 10 (9 - digits.length)
      some (some nanos, rest.dropWhile Char.isDigit)
  | cs => some (none, cs)

def takeZone : List Char → Option (Int × List Char)
  | 'Z' :: rest | 'z' :: rest => some (0, rest)
  | cs => takeOffset (takeChar ':') cs

/-- A timestamp such as `2012-08-28T21:24:35.5+02:00`. A small or capital `T` and `Z` count alike, a
blank may stand for the `T`, and digits beyond the ninth behind the point are dropped. -/
def read? (cs : List Char) : Option Instant := do
  let (year, rest) ← takeExactly 4 cs
  let rest ← takeChar '-' rest
  let (month, rest) ← takeExactly 2 rest
  let rest ← takeChar '-' rest
  let (day, rest) ← takeExactly 2 rest
  let rest ← takeTimeMark rest
  let (hour, rest) ← takeExactly 2 rest
  let rest ← takeChar ':' rest
  let (minute, rest) ← takeExactly 2 rest
  let rest ← takeChar ':' rest
  let (second, rest) ← takeExactly 2 rest
  let (nanos, rest) ← takeFraction rest
  let (offset, rest) ← takeZone rest
  if rest.isEmpty then
    Fields.instant? { year := some year, month, day, hour, minute, second, nanos, offset }
  else none

/-- A year of four digits; years outside 0 to 9999 show their sign. -/
def yearText (year : Int) : List Char :=
  let digits := Numeral.padded 4 year.natAbs
  if 0 ≤ year ∧ year ≤ 9999 then digits
  else (if year < 0 then '-' else '+') :: digits

/-- Nanoseconds in three, six or nine digits, or nothing for zero. -/
def fractionText (nanos : Nat) : List Char :=
  if nanos = 0 then []
  else if nanos % 1_000_000 = 0 then '.' :: Numeral.padded 3 (nanos / 1_000_000)
  else if nanos % 1000 = 0 then '.' :: Numeral.padded 6 (nanos / 1000)
  else '.' :: Numeral.padded 9 nanos

def civilText (c : Civil) : List Char :=
  let leap := 1_000_000_000 ≤ c.nanos
  let second := if leap then c.second + 1 else c.second
  let nanos := if leap then c.nanos - 1_000_000_000 else c.nanos
  yearText c.date.year ++ '-' :: Numeral.twoDigits c.date.month ++ '-' ::
    Numeral.twoDigits c.date.day ++ 'T' :: Numeral.twoDigits c.hour ++ ':' ::
    Numeral.twoDigits c.minute ++ ':' :: Numeral.twoDigits second ++ fractionText nanos ++ ['Z']

/-- A timestamp without offset, with as few fraction digits, in threes, as it needs. -/
def text (t : Instant) : String :=
  .ofList (civilText t.civil)

end SeriesGateway.Timestamp.Rfc3339
