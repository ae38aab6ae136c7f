import SeriesGateway.Text.Numeral
import SeriesGateway.Text.Percent
import SeriesGateway.Url.DomainName
import SeriesGateway.Url.Escaped

namespace SeriesGateway.Url

/-- Why a text is no URL. -/
inductive Fault where
  | relative
  | emptyHost
  | badPort
  | badName
  | badHostCharacter
  | badIpv4
  | badIpv6
  deriving DecidableEq, Repr

def Fault.message : Fault → String
  | .relative => "relative URL without a base"
  | .emptyHost => "empty host"
  | .badPort => "invalid port number"
  | .badName => "invalid international domain name"
  | .badHostCharacter => "invalid domain character"
  | .badIpv4 => "invalid IPv4 address"
  | .badIpv6 => "invalid IPv6 address"

/-- The host of a URL in its one spelling. -/
inductive Host where
  | name (text : List Char)
  | ipv4 (address : Nat)
  | ipv6 (pieces : List Nat)
  deriving DecidableEq, Repr

namespace Host

/-- The value of digits in a base, if all are digits of it. -/
def inBase? (base : Nat) (cs : List Char) : Option Nat :=
  cs.foldlM (fun read c =>
    match Percent.hexValue? c with
    | some d => if d < base then some (base * read + d) else none
    | none => none) 0

/-- A part of an IPv4 address: hexadecimal behind `0x`, octal behind `0`, or decimal. -/
def ipv4Part? : List Char → Option Nat
  | [] => none
  | '0' :: 'x' :: rest => inBase? 16 rest
  | '0' :: 'X' :: rest => inBase? 16 rest
  | ['0'] => some 0
  | '0' :: rest => inBase? 8 rest
  | cs => inBase? 10 cs

/-- The parts of a name; a point at its end does not count. -/
def dottedParts (cs : List Char) : List (List Char) :=
  let parts := cs.splitOn '.'
  if 1 < parts.length ∧ parts.getLast? = some [] then parts.dropLast else parts

/-- Whether a name is meant as an IPv4 address: its last part is a number. -/
def endsInNumber (cs : List Char) : Bool :=
  match (dottedParts cs).getLast? with
  | none | some [] => false
  | some last => last.all Char.isDigit || (ipv4Part? last).isSome

/-- The leading parts are a byte each, and the last part fills what is left of the address. -/
def joinIpv4 : Nat → List Nat → Option Nat
  | _, [] => none
  | places, [last] => if last < Nat.pow 256 places then some last else none
  | places, part :: rest =>
    if part < 256 then
      (joinIpv4 (places - 1) rest).map (part * Nat.pow 256 (places - 1) + ·)
    else none

def readIpv4 (cs : List Char) : Except Fault Nat :=
  let parts := dottedParts cs
  if 4 < parts.length then .error .badIpv4
  else
    match (parts.mapM ipv4Part?).bind (joinIpv4 4) with
    | some address => .ok address
    | none => .error .badIpv4

def ipv4Text (address : Nat) : List Char :=
  ['.'].intercalate ([3, 2, 1, 0].map fun place => Numeral.text (address / Nat.pow 256 place % 256))

def ipv6Piece? (cs : List Char) : Option Nat :=
  if !cs.isEmpty && cs.length ≤ 4 then inBase? 16 cs else none

/-- An IPv4 address at the end of an IPv6 address, as two pieces. -/
def ipv6Tail? (cs : List Char) : Option (List Nat) := do
  let parts ← (cs.splitOn '.').mapM fun part =>
    if part.length ≤ 3 && (part.head? != some '0' || part.length == 1) then Numeral.natural? part
    else none
  match parts with
  | [a, b, c, d] =>
    if a < 256 && b < 256 && c < 256 && d < 256 then some [a * 256 + b, c * 256 + d] else none
  | _ => none

/-- Pieces parted by colons; the last may be an IPv4 address. -/
def ipv6Pieces? : List (List Char) → Option (List Nat)
  | [] => some []
  | [last] => (ipv6Piece? last).map (fun piece => [piece]) <|> ipv6Tail? last
  | part :: rest => do return (← ipv6Piece? part) :: (← ipv6Pieces? rest)

/-- The pieces on one side of `::`, or of an address without it. -/
def ipv6Side? (cs : List Char) : Option (List Nat) :=
  if cs.isEmpty then some [] else ipv6Pieces? (cs.splitOn ':')

/-- What stands before the first `::` and what stands behind it. -/
def splitGap : List Char → Option (List Char × List Char)
  | [] => none
  | ':' :: ':' :: rest => some ([], rest)
  | c :: rest => (splitGap rest).map fun (before, behind) => (c :: before, behind)

def ipv6? (cs : List Char) : Option (List Nat) :=
  match splitGap cs with
  | none => (ipv6Pieces? (cs.splitOn ':')).filter (·.length = 8)
  | some (before, behind) => do
    let left ← ipv6Side? before
    let right ← ipv6Side? behind
    let given := left.length + right.length
    if given ≤ 7 ∧ ¬ before.contains '.' then
      some (left ++ List.replicate (8 - given) 0 ++ right)
    else none

/-- How many zeros a list starts with. -/
def zeroRun (pieces : List Nat) : Nat :=
  (pieces.takeWhile (· == 0)).length

/-- The place and the length of the longest run of zeros, the first of equals. -/
def longestGap : List Nat → Nat × Nat
  | [] => (0, 0)
  | piece :: rest =>
    let here := zeroRun (piece :: rest)
    let (place, length) := longestGap rest
    if length ≤ here then (0, here) else (place + 1, length)

def ipv6Text (pieces : List Nat) : List Char :=
  let (place, length) := longestGap pieces
  let texts (ps : List Nat) := [':'].intercalate (ps.map (Nat.toDigits 16))
  if length < 2 then texts pieces
  else texts (pieces.take place) ++ [':', ':'] ++ texts (pieces.drop (place + length))

def readIpv6 (cs : List Char) : Except Fault Host :=
  match cs.getLast? with
  | some ']' =>
    match ipv6? (cs.drop 1).dropLast with
    | some pieces => .ok (.ipv6 pieces)
    | none => .error .badIpv6
  | _ => .error .badIpv6

/-- The host of a URL whose scheme is special. -/
def readSpecial (cs : List Char) : Except Fault Host := do
  if cs.head? = some '[' then return ← readIpv6 cs
  let some ascii := (Utf8.decode? (Percent.decode cs)).bind DomainName.ascii? | throw .badName
  if ascii.isEmpty then throw .emptyHost
  if endsInNumber ascii then return .ipv4 (← readIpv4 ascii)
  return .name ascii

/-- The host of any other URL, which is kept as it is written. -/
def readOther (cs : List Char) : Except Fault Host :=
  if cs.head? = some '[' then readIpv6 cs
  else if cs.any isForbiddenInHost then .error .badHostCharacter
  else .ok (.name (Percent.encode isControl cs))

def text : Host → List Char
  | .name cs => cs
  | .ipv4 address => ipv4Text address
  | .ipv6 pieces => '[' :: ipv6Text pieces ++ [']']

end Host

end SeriesGateway.Url
