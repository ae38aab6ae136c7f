import SeriesGateway.Instant
import SeriesGateway.Text.Numeral

namespace SeriesGateway.Timestamp.Canonical

/-- A text laid out in columns, one for each byte of it: a character stands in the first of its
columns, the others are empty. -/
def columns (cs : List Char) : List (Option Char) :=
  cs.flatMap fun c => some c :: List.replicate (c.utf8Size - 1) none

/-- Why a text is no canonical timestamp. -/
inductive Fault where
  | notZulu
  | misplaced
  | field (name : String)
  | longFraction
  | outOfRange
  deriving DecidableEq, Repr

def Fault.message (input : String) : Fault → String
  | .notZulu => input
  | .misplaced => s!"positionally incorrect: {input}"
  | .field name => s!"bad {name} in {input}"
  | .longFraction => s!"too many fractional digits in {input}"
  | .outOfRange => s!"out of range: {input}"

/-- The marks between the parts, by column. -/
def marks : List (Nat × Char) :=
  [(4, '-'), (7, '-'), (10, 'T'), (13, ':'), (16, ':')]

def hasMark (cols : List (Option Char)) (mark : Nat × Char) : Bool :=
  cols[mark.1]? == some (some mark.2)

/-- The number that stands in some columns, with nothing else there. -/
def field (name : String) (cols : List (Option Char)) : Except Fault Nat :=
  match (cols.mapM id).bind (Numeral.below? 0x100000000) with
  | some n => .ok n
  | none => .error (.field name)

/-- Nanoseconds of the digits behind the point; no digits are none. -/
def fraction (cols : List (Option Char)) : Except Fault Nat :=
  if cols.isEmpty then .ok 0
  else if 9 < cols.length then .error .longFraction
  else (field "nanoseconds" cols).map (· * Nat.pow 10 (9 - cols.length))

/-- A valid date and time of day, without leap second. -/
def civil? (year : Int) (month day hour minute second nanos : Nat) : Option Civil :=
  if hour < 24 ∧ minute < 60 ∧ second < 60 then
    (Date.of? year month day).map fun date => ⟨date, hour, minute, second, nanos⟩
  else none

/-- The parts of a timestamp such as `2012-08-28T21:24:35.37465188Z` stand at fixed columns. -/
def readColumns (cols : List (Option Char)) : Except Fault Instant := do
  if cols.length < 20 || cols.getLast? != some (some 'Z') then throw .notZulu
  let pointed := hasMark cols (19, '.')
  unless marks.all (hasMark cols) && (pointed || hasMark cols (19, 'Z')) do throw .misplaced
  let year ← field "year" (cols.take 4)
  let month ← field "month" ((cols.drop 5).take 2)
  let day ← field "day" ((cols.drop 8).take 2)
  let hour ← field "hour" ((cols.drop 11).take 2)
  let minute ← field "minute" ((cols.drop 14).take 2)
  let second ← field "second" ((cols.drop 17).take 2)
  let nanos ← if pointed then fraction (cols.drop 20).dropLast else pure 0
  match civil? year month day hour minute second nanos with
  | some civil => return civil.instant 0
  | none => throw .outOfRange

def read (cs : List Char) : Except Fault Instant :=
  readColumns (columns cs)

end SeriesGateway.Timestamp.Canonical
