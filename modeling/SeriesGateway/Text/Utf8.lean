namespace SeriesGateway.Utf8

def encode (cs : List Char) : List UInt8 :=
  cs.flatMap String.utf8EncodeChar

/-- How many bytes a text takes. -/
def size (cs : List Char) : Nat :=
  (encode cs).length

/-- The text of bytes, if they are well formed. -/
def decode? (bytes : List UInt8) : Option (List Char) :=
  (ByteArray.mk bytes.toArray).utf8Decode?.map Array.toList

/-- What a leading byte asks for: how many bytes follow, and the range of the first of them. -/
structure Lead where
  follow : Nat
  low : Nat
  high : Nat

def lead? (b : Nat) : Option Lead :=
  if b < 0x80 then some ⟨0, 0, 0⟩
  else if b < 0xC2 then none
  else if b < 0xE0 then some ⟨1, 0x80, 0xBF⟩
  else if b = 0xE0 then some ⟨2, 0xA0, 0xBF⟩
  else if b = 0xED then some ⟨2, 0x80, 0x9F⟩
  else if b < 0xF0 then some ⟨2, 0x80, 0xBF⟩
  else if b = 0xF0 then some ⟨3, 0x90, 0xBF⟩
  else if b < 0xF4 then some ⟨3, 0x80, 0xBF⟩
  else if b = 0xF4 then some ⟨3, 0x80, 0x8F⟩
  else none

/-- How many of the next bytes continue the character that a leading byte opened. -/
def continued : Lead → List UInt8 → Nat
  | ⟨0, _, _⟩, _ => 0
  | ⟨_ + 1, _, _⟩, [] => 0
  | ⟨n + 1, low, high⟩, b :: rest =>
    if low ≤ b.toNat ∧ b.toNat ≤ high then 1 + continued ⟨n, 0x80, 0xBF⟩ rest else 0

/-- The bytes one by one: a well-formed character is itself, and the longest start of one that
breaks off is a single replacement character. -/
def patch (bytes : List UInt8) : List Char :=
  match bytes with
  | [] => []
  | b :: rest =>
    match lead? b.toNat with
    | none => '\uFFFD' :: patch rest
    | some lead =>
      let count := continued lead rest
      let char := if count = lead.follow then
          ((decode? (b :: rest.take count)).bind List.head?).getD '\uFFFD'
        else '\uFFFD'
      char :: patch (rest.drop count)
termination_by bytes.length
decreasing_by all_goals
  simp only [List.length_drop, List.length_cons]
  omega

/-- The text of any bytes, with the replacement character for each part that no text has. -/
def decodeLossy (bytes : List UInt8) : List Char :=
  (decode? bytes).getD (patch bytes)

theorem decodeLossy_of_decode? {bytes : List UInt8} {cs : List Char}
    (h : decode? bytes = some cs) : decodeLossy bytes = cs := by
  simp [decodeLossy, h]

end SeriesGateway.Utf8
