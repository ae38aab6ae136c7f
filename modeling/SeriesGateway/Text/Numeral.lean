namespace SeriesGateway.Numeral

/-- The decimal digits of a number, without leading zeros. -/
def text (n : Nat) : List Char :=
  Nat.toDigits 10 n

def intText : Int → List Char
  | .ofNat n => text n
  | .negSucc n => '-' :: text (n + 1)

/-- At least two digits, as clock fields are written. -/
def twoDigits (n : Nat) : List Char :=
  if n < 10 then '0' :: text n else text n

/-- Digits padded on the left with zeros up to a width. -/
def padded (width n : Nat) : List Char :=
  List.replicate (width - (text n).length) '0' ++ text n

/-- The number that a list of digits denotes. -/
def value (digits : List Char) : Nat :=
  Nat.ofDigitChars 10 digits 0

/-- A nonempty run of digits and nothing else. -/
def natural? (cs : List Char) : Option Nat :=
  if !cs.isEmpty && cs.all Char.isDigit then some (value cs) else none

/-- Digits after an optional sign. -/
def signed? : List Char → Option Int
  | '+' :: digits => (natural? digits).map Int.ofNat
  | '-' :: digits => (natural? digits).map fun n => -Int.ofNat n
  | digits => (natural? digits).map Int.ofNat

/-- A signed numeral that fits 64 bits. -/
def int64? (cs : List Char) : Option Int64 :=
  match signed? cs with
  | none => none
  | some n =>
    if -0x8000000000000000 ≤ n ∧ n < 0x8000000000000000 then some (Int64.ofInt n) else none

/-- An unsigned numeral, possibly with `+`, below a bound. -/
def below? (bound : Nat) (cs : List Char) : Option Nat :=
  let digits := match cs with
    | '+' :: rest => rest
    | all => all
  match natural? digits with
  | none => none
  | some n => if n < bound then some n else none

/-- Why a text is no unsigned numeral up to a limit. -/
inductive Fault where
  | empty
  | strayCharacter
  | tooLarge
  deriving DecidableEq, Repr

def Fault.message : Fault → String
  | .empty => "cannot parse integer from empty string"
  | .strayCharacter => "invalid digit found in string"
  | .tooLarge => "number too large to fit in target type"

/-- Reads digits from the left, and stops at the first fault. -/
def scan (limit : Nat) : Nat → List Char → Except Fault Nat
  | read, [] => .ok read
  | read, c :: cs =>
    if c.isDigit then
      let next := 10 * read + (c.toNat - '0'.toNat)
      if next ≤ limit then scan limit next cs else .error .tooLarge
    else .error .strayCharacter

/-- An unsigned numeral up to a limit, or the first fault in it. -/
def upTo (limit : Nat) : List Char → Except Fault Nat
  | [] => .error .empty
  | ['+'] => .error .strayCharacter
  | '+' :: digits => scan limit 0 digits
  | digits => scan limit 0 digits

theorem value_text (n : Nat) : value (text n) = n :=
  Nat.ofDigitChars_toDigits (by decide) (by decide)

theorem text_ne_nil (n : Nat) : text n ≠ [] :=
  Nat.toDigits_ne_nil

theorem isDigit_of_mem_text {n : Nat} {c : Char} (h : c ∈ text n) : c.isDigit = true :=
  Nat.isDigit_of_mem_toDigits (by decide) (by decide) h

theorem natural?_text (n : Nat) : natural? (text n) = some n := by
  have hall : (text n).all Char.isDigit = true :=
    List.all_eq_true.2 fun _ h => isDigit_of_mem_text h
  simp [natural?, hall, value_text, text_ne_nil n]

end SeriesGateway.Numeral
