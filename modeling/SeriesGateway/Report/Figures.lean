import SeriesGateway.Binary64.Shortest

namespace SeriesGateway.Report

/-- The units of byte counts, each 1000 times the one before. -/
def byteUnits : List String := ["B", "kB", "MB", "GB", "TB", "PB", "EB"]

/-- Goes up from a unit to the greatest one that is not too great for `n` bytes. -/
def climbUnits (n size rank : Nat) : Nat × Nat :=
  if h : 0 < size ∧ 1000 ≤ n / size then climbUnits n (size * 1000) (rank + 1) else (size, rank)
termination_by n - size
decreasing_by
  have := (Nat.le_div_iff_mul_le h.1).1 h.2
  omega

open Binary64 in
/-- A number of units, rounded to the nearest tenth in binary64 arithmetic. -/
def inTenths (n size : Nat) : Magnitude :=
  let scaled := ((Magnitude.ofNat n).div (.ofNat size)).mul (.ofNat 10)
  (scaled.add (.nearest 1 2)).floor.div (.ofNat 10)

open Binary64 in
/-- A number below ten shows its tenths; others are rounded to an integer. -/
def amountText (m : Magnitude) : List Char :=
  if m.bits < (Magnitude.ofNat 10).bits then m.tenths else m.units

def byteCountText (n : Nat) : List Char :=
  if n < 10 then Numeral.text n ++ ' ' :: 'B' :: []
  else
    let (size, rank) := climbUnits n 1 0
    amountText (inTenths n size) ++ ' ' :: (byteUnits.getD rank "").toList

/-- A comma where a multiple of three characters is left. -/
def grouped : List Char → List Char
  | [] => []
  | c :: rest =>
    if !rest.isEmpty && rest.length % 3 == 0 then c :: ',' :: grouped rest else c :: grouped rest

def groupedText (n : Nat) : List Char :=
  grouped (Numeral.text n)

/-- A byte count such as `8.2 kB`. -/
def byteCount (n : UInt64) : String :=
  .ofList (byteCountText n.toNat)

/-- A number such as `1,234,567`. -/
def withCommas (n : UInt64) : String :=
  .ofList (groupedText n.toNat)

end SeriesGateway.Report
