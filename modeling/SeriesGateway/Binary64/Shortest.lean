import SeriesGateway.Binary64.Basic
import SeriesGateway.Text.Numeral

namespace SeriesGateway.Binary64

/-- The number `coefficient * 10 ^ exponent`. -/
structure Decimal where
  coefficient : Nat
  exponent : Int
  deriving DecidableEq, Repr

def Decimal.magnitude (d : Decimal) : Magnitude :=
  .ofDecimal d.coefficient d.exponent

namespace Magnitude

/-- An exponent of ten that no positive finite magnitude reaches, at most ten times too great. -/
def decimalOrder (m : Magnitude) : Int :=
  if m.denominator ≤ m.numerator then (Nat.toDigits 10 (m.numerator / m.denominator)).length
  else 2 - ((Nat.toDigits 10 (m.denominator / m.numerator)).length : Int)

/-- The neighbours of a magnitude among the multiples of `10 ^ exponent`, the nearer one first;
where both are equally near, the even multiple is. -/
def neighbours (m : Magnitude) (exponent : Int) : List Decimal :=
  let numerator := m.numerator * Nat.pow 10 (-exponent).toNat
  let denominator := m.denominator * Nat.pow 10 exponent.toNat
  let below := numerator / denominator
  let nearer := roundQuotient numerator denominator
  let farther := if nearer = below then below + 1 else below
  [⟨nearer, exponent⟩, ⟨farther, exponent⟩]

/-- The decimal of the fewest digits that reads back as a magnitude, and of those the nearest to it:
the first neighbour that reads back, on grids of more and more digits. -/
def shortest (m : Magnitude) : Decimal :=
  let grids := (List.range 20).map fun (digits : Nat) => m.decimalOrder - digits
  ((grids.flatMap m.neighbours).find? fun d => d.magnitude = m).getD ⟨0, 0⟩

/-- The nearest multiple of a tenth, with its one decimal place. -/
def tenths (m : Magnitude) : List Char :=
  let n := roundQuotient (10 * m.numerator) m.denominator
  Numeral.text (n / 10) ++ '.' :: Numeral.text (n % 10)

/-- The nearest integer. -/
def units (m : Magnitude) : List Char :=
  Numeral.text (roundQuotient m.numerator m.denominator)

end Magnitude

/-- How the digits of a number are set out. A number whose first digit stands for `10 ^ e` is
written in positions if `positionalFrom ≤ e < positionalTo`, and with an exponent otherwise. -/
structure Layout where
  positionalFrom : Int
  positionalTo : Int
  /-- What follows an integer in positions. -/
  integerTail : List Char
  exponentMark : Char
  /-- The sign of an exponent that is not negative. -/
  plus : List Char

/-- Digits and the exponent of ten of the last one, set out. -/
def Layout.setOut (layout : Layout) (d : Decimal) : List Char :=
  let digits := Numeral.text d.coefficient
  let whole : Int := digits.length + d.exponent
  let lead := whole - 1
  if d.coefficient = 0 then '0' :: layout.integerTail
  else if layout.positionalFrom ≤ lead ∧ lead < layout.positionalTo then
    if 0 ≤ d.exponent then
      digits ++ List.replicate d.exponent.toNat '0' ++ layout.integerTail
    else if 0 < whole then
      digits.take whole.toNat ++ '.' :: digits.drop whole.toNat
    else '0' :: '.' :: List.replicate (-whole).toNat '0' ++ digits
  else
    let fraction := digits.drop 1
    digits.take 1 ++ (if fraction.isEmpty then [] else '.' :: fraction) ++ [layout.exponentMark] ++
      (if lead < 0 then ['-'] else layout.plus) ++ Numeral.text lead.natAbs

/-- The shortest text of a finite number, and nothing for the others. -/
def shortText? (layout : Layout) : Binary64 → Option (List Char)
  | .nan => none
  | .signed negative magnitude =>
    if magnitude.isFinite then
      let text := layout.setOut magnitude.shortest
      some (if negative then '-' :: text else text)
    else none

end SeriesGateway.Binary64
