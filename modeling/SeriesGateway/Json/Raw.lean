import SeriesGateway.Json.Token

namespace SeriesGateway.Json

/-- The structure of a JSON text, with numbers and strings as they are written and members in the
order of the text. -/
inductive Raw where
  | null
  | boolean (value : Bool)
  | number (text : NumberText)
  | string (source : List Char)
  | array (items : List Raw)
  | object (members : List (List Char × Raw))
  deriving Repr

namespace Raw

/-- An open bracket with what it holds so far, the last first. An open brace waits for the value
of a name. -/
inductive Frame where
  | array (items : List Raw)
  | object (members : List (List Char × Raw)) (name : List Char)

/-- What may come next. The open brackets are on a stack, so a text may nest to any depth. -/
inductive State where
  | value (stack : List Frame)
  | firstItem (stack : List Frame)
  | firstName (stack : List Frame)
  | name (members : List (List Char × Raw)) (stack : List Frame)
  | colon (members : List (List Char × Raw)) (name : List Char) (stack : List Frame)
  | complete (value : Raw) (stack : List Frame)

/-- A token where a value must start. -/
def open? (stack : List Frame) : Token → Option State
  | .null => some (.complete .null stack)
  | .boolean b => some (.complete (.boolean b) stack)
  | .number n => some (.complete (.number n) stack)
  | .string s => some (.complete (.string s) stack)
  | .bracketOpen => some (.firstItem stack)
  | .braceOpen => some (.firstName stack)
  | .bracketClose | .braceClose | .comma | .colon => none

/-- A token behind a complete value: it goes on in the innermost open bracket, or closes it. -/
def close? (value : Raw) : List Frame → Token → Option State
  | .array items :: stack, .comma => some (.value (.array (value :: items) :: stack))
  | .array items :: stack, .bracketClose =>
    some (.complete (.array (value :: items).reverse) stack)
  | .object members name :: stack, .comma => some (.name ((name, value) :: members) stack)
  | .object members name :: stack, .braceClose =>
    some (.complete (.object ((name, value) :: members).reverse) stack)
  | _, _ => none

def step? : State → Token → Option State
  | .value stack, token => open? stack token
  | .firstItem stack, .bracketClose => some (.complete (.array []) stack)
  | .firstItem stack, token => open? (.array [] :: stack) token
  | .firstName stack, .braceClose => some (.complete (.object []) stack)
  | .firstName stack, .string s => some (.colon [] s stack)
  | .firstName _, _ => none
  | .name members stack, .string s => some (.colon members s stack)
  | .name _ _, _ => none
  | .colon members name stack, .colon => some (.value (.object members name :: stack))
  | .colon _ _ _, _ => none
  | .complete value stack, token => close? value stack token

/-- Reads on from a state to the end, which is right behind a complete value. -/
def run : State → List Token → Option Raw
  | .complete value [], [] => some value
  | _, [] => none
  | state, token :: rest =>
    match step? state token with
    | none => none
    | some next => run next rest

/-- The structure of a text that is one JSON value with space around it. -/
def ofText? (cs : List Char) : Option Raw :=
  (tokens cs).bind (run (.value []))

/-- A source that spells no text: half of a pair of surrogates. -/
def unspelled : List Char :=
  "\\ud800".toList

/-- A token that was read from bytes as if each of them were a character. A string of bytes that are
no text spells none. -/
def ofByteToken : Token → Token
  | .string source => .string ((Utf8.decode? (source.map Char.toUInt8)).getD unspelled)
  | token => token

/-- The structure of the bytes of a JSON value with space around it. They need not be a text as a
whole: the strings that nobody reads may hold any bytes. -/
def ofBytes? (bytes : List UInt8) : Option Raw :=
  match Utf8.decode? bytes with
  | some cs => ofText? cs
  | none =>
    (tokens (bytes.map Char.ofUInt8)).bind fun found => run (.value []) (found.map ofByteToken)

end Raw

end SeriesGateway.Json
