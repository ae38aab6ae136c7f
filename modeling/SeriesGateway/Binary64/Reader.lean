import SeriesGateway.Binary64.Basic
import SeriesGateway.Text.Numeral

namespace SeriesGateway.Binary64

/-- A decimal as it is written: digits before and behind the point, and an exponent. -/
structure Written where
  whole : List Char
  fraction : List Char
  exponent : Int

def Written.magnitude (w : Written) : Magnitude :=
  .ofDecimal (Numeral.value (w.whole ++ w.fraction)) (w.exponent - w.fraction.length)

/-- The exponent behind the digits; no exponent is zero. -/
def exponent? : List Char → Option Int
  | [] => some 0
  | c :: rest => if c == 'e' || c == 'E' then Numeral.signed? rest else none

/-- Digits on at least one side of an optional point, and an exponent. -/
def written? (cs : List Char) : Option Written :=
  let whole := cs.takeWhile Char.isDigit
  let (fraction, rest) := match cs.dropWhile Char.isDigit with
    | '.' :: behind => (behind.takeWhile Char.isDigit, behind.dropWhile Char.isDigit)
    | other => ([], other)
  if whole.isEmpty && fraction.isEmpty then none
  else (exponent? rest).map (Written.mk whole fraction)

def unsigned? (negative : Bool) (cs : List Char) : Option Binary64 :=
  let name := String.ofList (cs.map Char.toLower)
  if name == "nan" then some .nan
  else if name == "inf" || name == "infinity" then some (.signed negative .infinite)
  else (written? cs).map fun w => .signed negative w.magnitude

/-- The number that a text spells behind an optional sign: the name of a special value in any case,
or a decimal. The value is the nearest to the decimal, however many digits that has. -/
def ofText? : List Char → Option Binary64
  | '-' :: rest => unsigned? true rest
  | '+' :: rest => unsigned? false rest
  | cs => unsigned? false cs

end SeriesGateway.Binary64
