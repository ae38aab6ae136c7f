namespace SeriesGateway

namespace Binary64

/-- The nearest integer to `numerator / denominator`; a half goes to the even neighbour. -/
def roundQuotient (numerator denominator : Nat) : Nat :=
  let quotient := numerator / denominator
  let twice := 2 * (numerator % denominator)
  if twice < denominator then quotient
  else if denominator < twice then quotient + 1
  else quotient + quotient % 2

/-- The number of significands that share an exponent, which is `2 ^ 52`. -/
def significands : Nat := 0x10000000000000

/-- The bits of the infinite magnitude, which are the greatest. -/
def infiniteBits : Nat := 2047 * significands

/-- A binary64 value without sign, infinity included, by the number that the 63 bits below the sign
spell. That order is the order of the values, and the next greater value is one more. -/
structure Magnitude where
  bits : Nat
  bits_le : bits ≤ infiniteBits
  deriving DecidableEq, Repr

namespace Magnitude

def zero : Magnitude := ⟨0, Nat.zero_le _⟩

def infinite : Magnitude := ⟨infiniteBits, Nat.le_refl _⟩

def isFinite (m : Magnitude) : Bool :=
  m.bits < infiniteBits

/-- Bits beyond the infinite magnitude are infinite. -/
def ofBits (bits : Nat) : Magnitude :=
  ⟨min bits infiniteBits, Nat.min_le_right _ _⟩

/-- The integer `s` of the value `s * 2 ^ power`. -/
def significand (m : Magnitude) : Nat :=
  if m.bits < significands then m.bits else significands + m.bits % significands

/-- The integer `p` of the value `significand * 2 ^ p`. -/
def power (m : Magnitude) : Int :=
  if m.bits < significands then -1074 else (m.bits / significands : Nat) - 1075

def numerator (m : Magnitude) : Nat :=
  m.significand <<< m.power.toNat

def denominator (m : Magnitude) : Nat :=
  1 <<< (-m.power).toNat

/-- The integer `e` with `2 ^ e ≤ numerator / denominator < 2 ^ (e + 1)`. -/
def binaryOrder (numerator denominator : Nat) : Int :=
  let guess : Int := (numerator.log2 : Int) - denominator.log2
  if numerator <<< (-guess).toNat < denominator <<< guess.toNat then guess - 1 else guess

/-- The nearest magnitude to a quotient; a tie goes to the even bits. -/
def nearest (numerator denominator : Nat) : Magnitude :=
  if numerator = 0 then zero
  else
    let power := max (binaryOrder numerator denominator - 52) (-1074)
    let significand :=
      roundQuotient (numerator <<< (-power).toNat) (denominator <<< power.toNat)
    ofBits ((power + 1074).toNat * significands + significand)

def ofNat (n : Nat) : Magnitude :=
  nearest n 1

/-- The nearest magnitude to `coefficient * 10 ^ exponent`. An exponent that leaves the range on
either side is told by the number of digits alone. -/
def ofDecimal (coefficient : Nat) (exponent : Int) : Magnitude :=
  let order := ((Nat.toDigits 10 coefficient).length : Int) + exponent
  if coefficient = 0 ∨ order < -330 then zero
  else if 310 < order then infinite
  else nearest (coefficient * Nat.pow 10 exponent.toNat) (Nat.pow 10 (-exponent).toNat)

/-- Sum, product, quotient and floor of finite magnitudes, each rounded once. -/
def add (a b : Magnitude) : Magnitude :=
  nearest (a.numerator * b.denominator + b.numerator * a.denominator)
    (a.denominator * b.denominator)

def mul (a b : Magnitude) : Magnitude :=
  nearest (a.numerator * b.numerator) (a.denominator * b.denominator)

def div (a b : Magnitude) : Magnitude :=
  nearest (a.numerator * b.denominator) (a.denominator * b.numerator)

def floor (m : Magnitude) : Magnitude :=
  ofNat (m.numerator / m.denominator)

end Magnitude

end Binary64

/-- A binary64 number: not a number, or a magnitude with a sign. -/
inductive Binary64 where
  | nan
  | signed (negative : Bool) (magnitude : Binary64.Magnitude)
  deriving DecidableEq, Repr

namespace Binary64

def ofInt (n : Int) : Binary64 :=
  .signed (n < 0) (.ofNat n.natAbs)

def isNan : Binary64 → Bool
  | .nan => true
  | .signed _ _ => false

/-- Zero of either sign. -/
def isZero : Binary64 → Bool
  | .nan => false
  | .signed _ magnitude => magnitude.bits == 0

def isFinite : Binary64 → Bool
  | .nan => false
  | .signed _ magnitude => magnitude.isFinite

/-- The 64 bits, with the canonical pattern for what is not a number. -/
def bits : Binary64 → Nat
  | .nan => 0x7FF8000000000000
  | .signed negative magnitude => (if negative then 0x8000000000000000 else 0) + magnitude.bits

end Binary64

end SeriesGateway
