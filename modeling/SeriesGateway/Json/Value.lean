import SeriesGateway.Json.Raw
import SeriesGateway.Binary64.Basic
import SeriesGateway.Text.Numeral

namespace SeriesGateway

namespace Ordered

variable {κ α : Type} [DecidableEq κ] [LT κ] [DecidableLT κ]

/-- Sets the value of a key in a list in the order of its keys, each key once. -/
def put (key : κ) (value : α) : List (κ × α) → List (κ × α)
  | [] => [(key, value)]
  | (other, held) :: rest =>
    if key = other then (key, value) :: rest
    else if key < other then (key, value) :: (other, held) :: rest
    else (other, held) :: put key value rest

/-- The entries of a list in order; of equal keys the last counts. -/
def ofList (entries : List (κ × α)) : List (κ × α) :=
  entries.foldl (fun held entry => put entry.1 entry.2 held) []

end Ordered

namespace Json

/-- What a JSON text means. Integers that fit 64 bits, with or without sign, stay integers; every
other number is a binary64 number. An object holds its members in the order of their names, each
name once, and of equal names the last in the text counts. -/
inductive Value where
  | null
  | boolean (value : Bool)
  | integer (value : Int)
  | real (value : Binary64)
  | string (value : String)
  | array (items : List Value)
  | object (members : List (String × Value))
  deriving Repr

namespace Value

def member? (name : String) : Value → Option Value
  | .object members => members.lookup name
  | _ => none

def first? : Value → Option Value
  | .array items => items.head?
  | _ => none

end Value

/-- The code unit of four hexadecimal digits. -/
def codeUnit? (a b c d : Char) : Option Nat := do
  let a ← Percent.hexValue? a
  let b ← Percent.hexValue? b
  let c ← Percent.hexValue? c
  let d ← Percent.hexValue? d
  return ((a * 16 + b) * 16 + c) * 16 + d

def isHighSurrogate (unit : Nat) : Bool :=
  0xD800 ≤ unit && unit < 0xDC00

def isLowSurrogate (unit : Nat) : Bool :=
  0xDC00 ≤ unit && unit < 0xE000

def shortEscape? : Char → Option Char
  | 'b' => some '\x08'
  | 'f' => some '\x0c'
  | 'n' => some '\n'
  | 'r' => some '\r'
  | 't' => some '\t'
  | c => if c == '"' || c == '\\' || c == '/' then some c else none

/-- The text between quotes with its escapes resolved. A surrogate counts only in a pair. -/
def unescape? : List Char → Option (List Char)
  | [] => some []
  | '\\' :: 'u' :: a :: b :: c :: d :: rest =>
    match codeUnit? a b c d with
    | none => none
    | some unit =>
      if isLowSurrogate unit then none
      else if isHighSurrogate unit then
        match rest with
        | '\\' :: 'u' :: e :: f :: g :: h :: behind =>
          match codeUnit? e f g h with
          | none => none
          | some low =>
            if isLowSurrogate low then
              (unescape? behind).map
                (Char.ofNat (0x10000 + (unit - 0xD800) * 0x400 + (low - 0xDC00)) :: ·)
            else none
        | _ => none
      else (unescape? rest).map (Char.ofNat unit :: ·)
  | '\\' :: c :: rest =>
    match shortEscape? c with
    | none => none
    | some meant => (unescape? rest).map (meant :: ·)
  | c :: rest => (unescape? rest).map (c :: ·)

namespace NumberText

/-- The greatest unsigned number of 64 bits. -/
def greatestWord : Nat := 0xFFFFFFFFFFFFFFFF

/-- Takes digits into a coefficient as long as it fits 64 bits; returns it with the number of
digits that it has taken. -/
def absorb (coefficient : Nat) : List Char → Nat × Nat
  | [] => (coefficient, 0)
  | c :: rest =>
    let next := 10 * coefficient + (c.toNat - '0'.toNat)
    if next ≤ greatestWord then
      let (final, taken) := absorb next rest
      (final, taken + 1)
    else (coefficient, 0)

/-- Divides by a power of ten, rounding each time; one step divides by at most `10 ^ 308`. -/
def scaleDown (m : Binary64.Magnitude) (power : Nat) : Binary64.Magnitude :=
  if power ≤ 308 then m.div (.ofDecimal 1 power)
  else if m = .zero then .zero
  else scaleDown (m.div (.ofDecimal 1 308)) (power - 308)
termination_by power

/-- A coefficient times a power of ten, if that is finite. The coefficient is rounded first, and
the product or quotient with the power again. -/
def scale? (coefficient : Nat) (exponent : Int) : Option Binary64.Magnitude :=
  let m := Binary64.Magnitude.ofNat coefficient
  if exponent < 0 then some (scaleDown m exponent.natAbs)
  else if m = .zero then some .zero
  else if 308 < exponent then none
  else
    let scaled := m.mul (.ofDecimal 1 exponent)
    if scaled.isFinite then some scaled else none

def writtenExponent (n : NumberText) : Int :=
  match n.exponent with
  | none => 0
  | some (true, digits) => -(Numeral.value digits : Int)
  | some (false, digits) => Numeral.value digits

/-- The binary64 number of a numeral. Its coefficient is made of the leading digits, as many as
fit 64 bits on either side of the point: digits left over before the point raise the exponent,
those left over behind it are dropped. -/
def real? (n : NumberText) : Option Binary64 :=
  let (whole, taken) := absorb 0 n.whole
  let left := n.whole.length - taken
  let (coefficient, places) := absorb whole (n.fraction.getD [])
  (scale? coefficient (left - places + n.writtenExponent)).map (.signed n.negative)

/-- A numeral without point and exponent is an integer if it fits 64 bits; `-0` is not. -/
def value? (n : NumberText) : Option Value :=
  if n.fraction.isSome || n.exponent.isSome then n.real?.map .real
  else
    let magnitude := Numeral.value n.whole
    if n.negative then
      if 0 < magnitude ∧ magnitude ≤ 0x8000000000000000 then some (.integer (-magnitude))
      else n.real?.map .real
    else if magnitude ≤ greatestWord then some (.integer magnitude)
    else n.real?.map .real

end NumberText

namespace Raw

def text? (source : List Char) : Option String :=
  (unescape? source).map String.ofList

mutual

/-- The value of a structure that nests at most `depth` brackets deep. -/
def value? (depth : Nat) : Raw → Option Value
  | .null => some .null
  | .boolean b => some (.boolean b)
  | .number n => n.value?
  | .string source => (text? source).map .string
  | .array items => if depth = 0 then none else (values? (depth - 1) items).map .array
  | .object members =>
    if depth = 0 then none
    else (members? (depth - 1) members).map fun read => .object (Ordered.ofList read)

def values? (depth : Nat) : List Raw → Option (List Value)
  | [] => some []
  | item :: rest => do
    let value ← value? depth item
    let values ← values? depth rest
    return value :: values

def members? (depth : Nat) : List (List Char × Raw) → Option (List (String × Value))
  | [] => some []
  | (source, item) :: rest => do
    let name ← text? source
    let value ← value? depth item
    let members ← members? depth rest
    return (name, value) :: members

end

end Raw

/-- How many brackets may be open at once. -/
def depthLimit : Nat := 127

/-- The value of a JSON text, unless it nests too deep or holds a number beyond every finite
one. -/
def Value.ofText? (cs : List Char) : Option Value :=
  (Raw.ofText? cs).bind (Raw.value? depthLimit)

end Json

end SeriesGateway
