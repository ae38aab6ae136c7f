import SeriesGateway.Text.Percent

namespace SeriesGateway.Form

def keeps (c : Char) : Bool :=
  c.isAlphanum || c == '*' || c == '-' || c == '.' || c == '_'

/-- A blank is `+`, letters, digits and `*-._` are themselves, and all else is escaped. -/
def encodeChar (c : Char) : List Char :=
  if c == ' ' then ['+'] else Percent.encodeChar (fun d => !keeps d) c

def encodeText (cs : List Char) : List Char :=
  cs.flatMap encodeChar

def encodePair (pair : String × String) : List Char :=
  encodeText pair.1.toList ++ '=' :: encodeText pair.2.toList

/-- The pairs, joined with `&`. -/
def encode (pairs : List (String × String)) : List Char :=
  ['&'].intercalate (pairs.map encodePair)

/-- Adds pairs behind what a text already holds. -/
def append (present : List Char) (pairs : List (String × String)) : List Char :=
  if pairs.isEmpty then present
  else if present.isEmpty then encode pairs
  else present ++ '&' :: encode pairs

def decodeText (cs : List Char) : String :=
  .ofList (Utf8.decodeLossy (Percent.decode (cs.map fun c => if c == '+' then ' ' else c)))

/-- A name before `=` and a value behind it; without `=` the value is empty. -/
def decodePair (cs : List Char) : String × String :=
  (decodeText (cs.takeWhile (· != '=')), decodeText ((cs.dropWhile (· != '=')).drop 1))

/-- The pairs of a text; empty stretches between `&` are no pairs. -/
def decode (cs : List Char) : List (String × String) :=
  ((cs.splitOn '&').filter (!·.isEmpty)).map decodePair

end SeriesGateway.Form
