import SeriesGateway.Timestamp.Fields

namespace SeriesGateway.Timestamp

/-- A directive of a pattern, which is read from the left against a text. White space stands for any
amount of it, numbers may have white space before them and fewer digits than their width, and names
of days and months count in any case. -/
inductive Directive where
  | blank
  | literal (c : Char)
  | weekdayName
  | monthName
  | year
  | month
  | day
  | hour
  | minute
  | second
  | offset
  deriving DecidableEq, Repr

abbrev Pattern := List Directive

namespace Pattern

def weekdayNames : List String := ["sun", "mon", "tue", "wed", "thu", "fri", "sat"]

def monthNames : List String :=
  ["jan", "feb", "mar", "apr", "may", "jun", "jul", "aug", "sep", "oct", "nov", "dec"]

/-- The place of a name of three letters, in any case, in a list of names. -/
def takeName (names : List String) (cs : List Char) : Option (Nat × List Char) :=
  (names.findIdx? fun name => name.toList == (cs.take 3).map Char.toLower).map fun place =>
    (place, cs.drop 3)

/-- A year has up to four digits, or a sign and any number of them. -/
def takeYear : List Char → Option (Int × List Char)
  | '-' :: rest => (takeNumber rest.length rest).map fun (n, behind) => (-(n : Int), behind)
  | '+' :: rest => (takeNumber rest.length rest).map fun (n, behind) => ((n : Int), behind)
  | cs => (takeNumber 4 cs).map fun (n, behind) => ((n : Int), behind)

/-- A number of one or two digits behind any white space. -/
def takeShort (cs : List Char) : Option (Nat × List Char) :=
  takeNumber 2 (Text.trimStart cs)

/-- Hours and minutes of an offset may be parted by colons and white space. -/
def skipColons (cs : List Char) : Option (List Char) :=
  some (cs.dropWhile fun c => c == ':' || Text.isBlank c)

end Pattern

open Pattern in
/-- Reads one directive, and sets the field that it gives. -/
def Directive.read? (f : Fields) (cs : List Char) : Directive → Option (Fields × List Char)
  | .blank => some (f, Text.trimStart cs)
  | .literal c => (takeChar c cs).map fun rest => (f, rest)
  | .weekdayName => (takeName weekdayNames cs).map fun (n, rest) => ({ f with weekday := some n }, rest)
  | .monthName => (takeName monthNames cs).map fun (n, rest) => ({ f with month := some (n + 1) }, rest)
  | .year => (takeYear (Text.trimStart cs)).map fun (n, rest) => ({ f with year := some n }, rest)
  | .month => (takeShort cs).map fun (n, rest) => ({ f with month := some n }, rest)
  | .day => (takeShort cs).map fun (n, rest) => ({ f with day := some n }, rest)
  | .hour => (takeShort cs).map fun (n, rest) => ({ f with hour := some n }, rest)
  | .minute => (takeShort cs).map fun (n, rest) => ({ f with minute := some n }, rest)
  | .second => (takeShort cs).map fun (n, rest) => ({ f with second := some n }, rest)
  | .offset =>
    (takeOffset skipColons (Text.trimStart cs)).map fun (n, rest) => ({ f with offset := some n }, rest)

namespace Pattern

/-- Reads directives one after the other. -/
def fields? : Pattern → Fields → List Char → Option (Fields × List Char)
  | [], f, cs => some (f, cs)
  | directive :: rest, f, cs =>
    (directive.read? f cs).bind fun (next, behind) => fields? rest next behind

/-- The instant of a text that a pattern reads to its end. -/
def read? (p : Pattern) (cs : List Char) : Option Instant :=
  match fields? p {} cs with
  | some (f, []) => f.instant?
  | _ => none

/-- Hour, minute and second with colons. -/
def clock : Pattern :=
  [.hour, .literal ':', .minute, .literal ':', .second]

/-- A day such as `Tue, 28 Aug 2012 21:24:35`, as in RFC 1123, without its zone. -/
def rfc1123 : Pattern :=
  [.weekdayName, .literal ',', .blank, .day, .blank, .monthName, .blank, .year, .blank] ++ clock

def rfc1123Offset : Pattern :=
  rfc1123 ++ [.blank, .offset]

/-- A day such as `Tue Aug 28 21:24:35 2012`, with its year at the end. -/
def yearLast : Pattern :=
  [.weekdayName, .blank, .monthName, .blank, .day, .blank] ++ clock ++ [.blank, .year]

/-- A day such as `Tue Aug 28 21:24:35 +0000 2012`, with an offset before the year. -/
def offsetYearLast : Pattern :=
  [.weekdayName, .blank, .monthName, .blank, .day, .blank] ++ clock ++
    [.blank, .offset, .blank, .year]

def isoDate : Pattern :=
  [.year, .literal '-', .month, .literal '-', .day]

def isoMinute : Pattern :=
  isoDate ++ [.literal 'T', .hour, .literal ':', .minute]

end Pattern

end SeriesGateway.Timestamp
