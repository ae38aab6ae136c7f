namespace SeriesGateway.Gzip

/-- The polynomial of the checksum, its highest power in the lowest bit. -/
def polynomial : UInt32 := 0xEDB88320

def shift (c : UInt32) : UInt32 :=
  if c &&& 1 == 1 then (c >>> 1) ^^^ polynomial else c >>> 1

/-- The checksum behind one more byte. -/
def crcByte (c : UInt32) (b : UInt8) : UInt32 :=
  Nat.repeat shift 8 (c ^^^ b.toUInt32)

def crc (content : ByteArray) : UInt32 :=
  content.foldl crcByte 0xFFFFFFFF ^^^ 0xFFFFFFFF

/-- A number in a given number of bytes, the lowest first. -/
def littleEndian : Nat → Nat → List UInt8
  | 0, _ => []
  | width + 1, n => UInt8.ofNat (n % 256) :: littleEndian width (n / 256)

/-- The most bytes that a block holds. -/
def blockLimit : Nat := 65535

/-- What stands before the bytes of a block: whether it is the last, its length, and the length
with all bits turned. -/
def blockHead (last : Bool) (size : Nat) : List UInt8 :=
  (if last then 1 else 0) :: littleEndian 2 size ++ littleEndian 2 (blockLimit - size)

/-- The content from a place on in blocks, behind what is written already. -/
def blocks (content : ByteArray) (start : Nat) (written : ByteArray) : ByteArray :=
  let size := min blockLimit (content.size - start)
  if start + size < content.size then
    blocks content (start + blockLimit)
      (written ++ (blockHead false size).toByteArray ++ content.extract start (start + size))
  else written ++ (blockHead true size).toByteArray ++ content.extract start (start + size)
termination_by content.size - start
decreasing_by simp only [blockLimit] at *; omega

/-- The mark of the format, without a name and a time. -/
def head : List UInt8 :=
  [0x1F, 0x8B, 8, 0, 0, 0, 0, 0, 2, 255]

/-- A file in the gzip format, which holds a given content as it is. -/
def pack (content : ByteArray) : ByteArray :=
  blocks content 0 head.toByteArray ++
    (littleEndian 4 (crc content).toNat ++ littleEndian 4 content.size).toByteArray

/-- The number that bytes hold, the lowest first. -/
def number : List UInt8 → Nat
  | [] => 0
  | byte :: rest => byte.toNat + 256 * number rest

/-- The content of blocks that hold their bytes as they are, and what stands behind the last of
them. -/
def readBlocks? : List UInt8 → Option (List UInt8 × List UInt8)
  | kind :: a :: b :: c :: d :: rest =>
    let size := number [a, b]
    if number [c, d] ≠ blockLimit - size ∨ rest.length < size then none
    else if kind = 1 then some (rest.take size, rest.drop size)
    else if kind = 0 then
      (readBlocks? (rest.drop size)).map fun (more, behind) => (rest.take size ++ more, behind)
    else none
  | _ => none
termination_by bytes => bytes.length
decreasing_by simp only [List.length_drop, List.length_cons]; omega

/-- The content of a file, if its length and its checksum are right. -/
def unpack? (file : ByteArray) : Option ByteArray := do
  let bytes := file.data.toList
  let (content, behind) ← readBlocks? (bytes.drop head.length)
  let content := content.toByteArray
  if bytes.take head.length = head ∧
      behind = littleEndian 4 (crc content).toNat ++ littleEndian 4 content.size then
    some content
  else none

end SeriesGateway.Gzip
