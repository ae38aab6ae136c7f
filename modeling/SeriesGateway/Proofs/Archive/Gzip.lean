import Mathlib
import SeriesGateway.Archive.Gzip

namespace SeriesGateway.Gzip

theorem number_littleEndian (width n : Nat) :
    number (littleEndian width n) = n % 256 ^ width := by
  induction width generalizing n with
  | zero => simp [littleEndian, number, Nat.mod_one]
  | succ width ih =>
    have hbyte : (UInt8.ofNat (n % 256)).toNat = n % 256 := by
      simp
    rw [littleEndian, number, ih, hbyte, Nat.pow_succ', Nat.mod_mul]

/-- A block is read whatever stands behind it; only the last one ends the content. -/
theorem readBlocks?_append (last : Bool) {block : List UInt8} (h : block.length ≤ blockLimit)
    (rest : List UInt8) :
    readBlocks? (blockHead last block.length ++ (block ++ rest)) =
      if last then some (block, rest)
      else (readBlocks? rest).map fun (more, behind) => (block ++ more, behind) := by
  have hsize := number_littleEndian 2 block.length
  have hturned := number_littleEndian 2 (blockLimit - block.length)
  rw [Nat.mod_eq_of_lt (by simp only [blockLimit] at h ⊢; omega)] at hsize hturned
  have hfits : ¬((block ++ rest).length < block.length) := by
    rw [List.length_append]
    omega
  simp only [littleEndian] at hsize hturned
  simp only [blockHead, littleEndian, List.cons_append, List.nil_append]
  rw [readBlocks?]
  simp only [hsize, hturned, hfits, ne_eq, not_true, or_false, if_false, List.take_left,
    List.drop_left]
  cases last <;> rfl

theorem toList_extract (content : ByteArray) (start size : Nat) :
    (content.extract start (start + size)).data.toList =
      (content.data.toList.drop start).take size := by
  rw [ByteArray.data_extract, Array.toList_extract, List.extract_eq_take_drop,
    Nat.add_sub_cancel_left]

/-- A block in a file, behind which other bytes stand. -/
theorem readBlocks?_block (last : Bool) (content : ByteArray) {start size : Nat}
    (hlimit : size ≤ blockLimit) (hsize : size ≤ content.size - start) (rest : List UInt8) :
    readBlocks? (((blockHead last size).toByteArray ++
        content.extract start (start + size)).data.toList ++ rest) =
      if last then some ((content.data.toList.drop start).take size, rest)
      else (readBlocks? rest).map fun (more, behind) =>
        ((content.data.toList.drop start).take size ++ more, behind) := by
  have hlength : ((content.data.toList.drop start).take size).length = size := by
    rw [List.length_take, List.length_drop, Array.length_toList]
    exact Nat.min_eq_left hsize
  have hblock := readBlocks?_append last (hlength.symm ▸ hlimit) rest
  rw [hlength] at hblock
  rw [ByteArray.toList_data_append, toList_extract, List.data_toByteArray, List.append_assoc]
  exact hblock

/-- The blocks from a place on hold the content from there on. -/
theorem readBlocks?_blocks (content : ByteArray) (start : Nat) (written : ByteArray) :
    ∃ packed, blocks content start written = written ++ packed ∧
      ∀ behind, readBlocks? (packed.data.toList ++ behind) =
        some (content.data.toList.drop start, behind) := by
  fun_induction blocks content start written with
  | case1 start written size h ih =>
    -- Every block before the last one is full.
    have hsize : size = blockLimit := by omega
    obtain ⟨packed, hpacked, hread⟩ := ih
    refine ⟨(blockHead false size).toByteArray ++ content.extract start (start + size) ++ packed,
      ?_, fun behind => ?_⟩
    · rw [hpacked]
      simp only [ByteArray.append_assoc]
    · rw [ByteArray.toList_data_append, List.append_assoc,
        readBlocks?_block false content hsize.le (by omega), hread, hsize, ← List.drop_drop]
      simp
  | case2 start written size h =>
    refine ⟨(blockHead true size).toByteArray ++ content.extract start (start + size), ?_,
      fun behind => ?_⟩
    · rw [ByteArray.append_assoc]
    · have hrest : (content.data.toList.drop start).length ≤ size := by
        rw [List.length_drop, Array.length_toList]
        change content.size - start ≤ size
        omega
      rw [readBlocks?_block true content (by omega) (by omega), List.take_of_length_le hrest]
      rfl

/-- What is packed is read as it was, whatever its length: the blocks say where they end, and the
checksum and the length behind them are those of the content. -/
theorem unpack?_pack (content : ByteArray) : unpack? (pack content) = some content := by
  obtain ⟨packed, hpacked, hread⟩ := readBlocks?_blocks content 0 head.toByteArray
  have hcontent : content.data.toList.toByteArray = content := by
    apply ByteArray.ext
    rw [List.data_toByteArray]
  rw [unpack?, pack, hpacked]
  simp only [ByteArray.toList_data_append, List.data_toByteArray, List.append_assoc, List.drop_left,
    List.take_left, hread]
  simp [hcontent]

end SeriesGateway.Gzip
