namespace SeriesGateway.Url.Punycode

def digit (n : Nat) : Char :=
  if n < 26 then Char.ofNat ('a'.toNat + n) else Char.ofNat ('0'.toNat + (n - 26))

/-- The greatest value that ends a number at a place, counted in steps of 36. -/
def threshold (bias place : Nat) : Nat :=
  min 26 (max 1 (place - bias))

/-- A number in digits of mixed base, the least significant first. -/
def number (bias place n : Nat) : List Char :=
  let t := threshold bias place
  if n < t then [digit n]
  else digit (t + (n - t) % (36 - t)) :: number bias (place + 36) ((n - t) / (36 - t))
termination_by n
decreasing_by
  have h : 1 ≤ threshold bias place := by unfold threshold; omega
  have := Nat.div_le_self (n - threshold bias place) (36 - threshold bias place)
  omega

/-- Scales a distance down in steps of 35, and counts the steps in places. -/
def settle (distance place : Nat) : Nat × Nat :=
  if 455 < distance then settle (distance / 35) (place + 36) else (distance, place)
termination_by distance
decreasing_by omega

/-- The bias behind a distance, when `count` characters are placed. -/
def adapt (distance count : Nat) (first : Bool) : Nat :=
  let damped := if first then distance / 700 else distance / 2
  let (left, place) := settle (damped + damped / count) 0
  place + 36 * left / (left + 38)

/-- What is written so far: the text, the distance from the last character written, the bias, and
the number of characters placed. -/
structure Progress where
  text : List Char
  distance : Nat
  bias : Nat
  placed : Nat

/-- Passes a character of the label while the character with code point `next` is placed. -/
def pass (basic next : Nat) (p : Progress) (c : Nat) : Progress :=
  if c < next then { p with distance := p.distance + 1 }
  else if c = next then
    { text := p.text ++ number p.bias 36 p.distance
      distance := 0
      bias := adapt p.distance (p.placed + 1) (p.placed == basic)
      placed := p.placed + 1 }
  else p

/-- Places each code point of an increasing list, the first of them `from` the last one done. -/
def place (label : List Nat) (basic : Nat) : Progress → Nat → List Nat → Progress
  | p, _, [] => p
  | p, done, next :: rest =>
    let ahead := { p with distance := p.distance + (next - done) * (p.placed + 1) }
    let passed := label.foldl (pass basic next) ahead
    place label basic { passed with distance := passed.distance + 1 } (next + 1) rest

/-- The distinct code points of a label beyond ASCII, in increasing order. -/
def beyond (label : List Nat) : List Nat :=
  ((label.filter (0x80 ≤ ·)).mergeSort).eraseDups

/-- A label in ASCII. The characters that ASCII lacks are written behind the others, in increasing
order, as distances from one place and character to the next. -/
def encode (label : List Char) : List Char :=
  let basic := label.filter (·.toNat < 0x80)
  let start := if basic.isEmpty then [] else basic ++ ['-']
  let codes := label.map Char.toNat
  (place codes basic.length ⟨start, 0, 72, basic.length⟩ 0x80 (beyond codes)).text

def digitValue? (c : Char) : Option Nat :=
  if 'a' ≤ c ∧ c ≤ 'z' then some (c.toNat - 'a'.toNat)
  else if '0' ≤ c ∧ c ≤ '9' then some (c.toNat - '0'.toNat + 26)
  else none

/-- The greatest number that is read. -/
def limit : Nat := 0xFFFFFFFF

/-- Adds a number in digits of mixed base to `sum`, the first digit with a weight, and gives what
follows it. -/
def takeNumber (bias place weight sum : Nat) : List Char → Option (Nat × List Char)
  | [] => none
  | c :: rest => do
    let value ← digitValue? c
    let t := threshold bias place
    let sum := sum + value * weight
    if limit < sum then none
    else if value < t then some (sum, rest)
    else if limit < weight * (36 - t) then none
    else takeNumber bias (place + 36) (weight * (36 - t)) sum rest

/-- Places the characters whose distances a text holds. At most `count` are placed, the next one
behind `spot` and not before the code point `next`. -/
def fill (next spot bias : Nat) (first : Bool) (label : List Char) :
    Nat → List Char → Option (List Char)
  | _, [] => some label
  | 0, _ => none
  | count + 1, cs => do
    let (sum, rest) ← takeNumber bias 36 1 spot cs
    let places := label.length + 1
    let code := next + sum / places
    let here := sum % places
    if !code.isValidChar then none
    else
      fill code (here + 1) (adapt (sum - spot) places first) false
        (label.take here ++ Char.ofNat code :: label.drop here) count rest

/-- The label of its text in ASCII. A mark that parts nothing from the digits is no digit either. -/
def decode? (cs : List Char) : Option (List Char) :=
  let digits := (cs.reverse.takeWhile (· != '-')).reverse
  let basic := cs.take (cs.length - digits.length - 1)
  if basic.isEmpty then fill 0x80 0 72 true [] cs.length cs
  else fill 0x80 0 72 true basic digits.length digits

end SeriesGateway.Url.Punycode
