import SeriesGateway.Json.Value
import SeriesGateway.Binary64.Shortest

namespace SeriesGateway.Json

/-- Numbers from `1e-5` up to `1e16` are written in positions, with a fraction always; others
with an exponent that shows its sign. -/
def realLayout : Binary64.Layout where
  positionalFrom := -5
  positionalTo := 16
  integerTail := ['.', '0']
  exponentMark := 'e'
  plus := ['+']

/-- The text of a number; what is not finite has none, and is null. -/
def realText (x : Binary64) : List Char :=
  (x.shortText? realLayout).getD ['n', 'u', 'l', 'l']

def lowerHexDigit (n : Nat) : Char :=
  if n < 10 then Char.ofNat ('0'.toNat + n) else Char.ofNat ('a'.toNat + (n - 10))

def escapeChar (c : Char) : List Char :=
  if c == '"' then ['\\', '"']
  else if c == '\\' then ['\\', '\\']
  else if c == '\x08' then ['\\', 'b']
  else if c == '\x0c' then ['\\', 'f']
  else if c == '\n' then ['\\', 'n']
  else if c == '\r' then ['\\', 'r']
  else if c == '\t' then ['\\', 't']
  else if c.toNat < 0x20 then
    ['\\', 'u', '0', '0', lowerHexDigit (c.toNat / 16), lowerHexDigit (c.toNat % 16)]
  else [c]

/-- A string in quotes. -/
def quoted (s : String) : List Char :=
  '"' :: s.toList.flatMap escapeChar ++ ['"']

/-- Texts between brackets, parted by commas. -/
def bracketed (left right : Char) (texts : List (List Char)) : List Char :=
  left :: [','].intercalate texts ++ [right]

/-- Members between braces, in the order given. -/
def objectText (members : List (String × List Char)) : List Char :=
  bracketed '\x7b' '\x7d' (members.map fun (name, text) => quoted name ++ ':' :: text)

mutual

def Value.text : Value → List Char
  | .null => ['n', 'u', 'l', 'l']
  | .boolean true => ['t', 'r', 'u', 'e']
  | .boolean false => ['f', 'a', 'l', 's', 'e']
  | .integer n => Numeral.intText n
  | .real x => realText x
  | .string s => quoted s
  | .array items => bracketed '[' ']' (Value.texts items)
  | .object members => objectText (Value.memberTexts members)

def Value.texts : List Value → List (List Char)
  | [] => []
  | item :: rest => item.text :: Value.texts rest

def Value.memberTexts : List (String × Value) → List (String × List Char)
  | [] => []
  | (name, value) :: rest => (name, value.text) :: Value.memberTexts rest

end

def Value.render (v : Value) : String :=
  .ofList v.text

end SeriesGateway.Json
