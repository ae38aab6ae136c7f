import SeriesGateway.Text.Percent

namespace SeriesGateway

namespace Utf8

theorem encode_cons (c : Char) (cs : List Char) : encode (c :: cs) = encode [c] ++ encode cs := by
  simp [encode]

theorem decode?_encode (cs : List Char) : decode? (encode cs) = some cs := by
  have hbytes : ByteArray.mk (encode cs).toArray = cs.utf8Encode := by
    rw [List.utf8Encode, ← List.data_toByteArray]
    rfl
  rw [decode?, hbytes, List.utf8Decode?_utf8Encode]
  rfl

theorem decodeLossy_encode (cs : List Char) : decodeLossy (encode cs) = cs :=
  decodeLossy_of_decode? (decode?_encode cs)

end Utf8

namespace Percent

theorem hexValue?_hexDigit : ∀ n < 16, hexValue? (hexDigit n) = some n := by
  decide

/-- A byte is escaped with digits and capital letters. -/
theorem isAlphanum_hexDigit : ∀ n < 16, (hexDigit n).isAlphanum = true := by
  decide

theorem decode_cons_of_ne {c : Char} (h : c ≠ '%') (rest : List Char) :
    decode (c :: rest) = Utf8.encode [c] ++ decode rest := by
  rw [decode.eq_def]
  split
  · rename_i heq
    cases heq
  · rename_i heq
    exact absurd (List.cons.inj heq).1 h
  · rename_i heq
    cases heq
    rfl

theorem decode_encodeByte (b : UInt8) (rest : List Char) :
    decode (encodeByte b ++ rest) = b :: decode rest := by
  have hb : b.toNat < 256 := b.toNat_lt
  have hhigh := hexValue?_hexDigit (b.toNat / 16) (by omega)
  have hlow := hexValue?_hexDigit (b.toNat % 16) (by omega)
  have hsum : 16 * (b.toNat / 16) + b.toNat % 16 = b.toNat := Nat.div_add_mod ..
  simp only [encodeByte, List.cons_append, List.nil_append, decode, hhigh, hlow, hsum,
    UInt8.ofNat_toNat]

theorem decode_encodeBytes (bytes : List UInt8) (rest : List Char) :
    decode (bytes.flatMap encodeByte ++ rest) = bytes ++ decode rest := by
  induction bytes with
  | nil => rfl
  | cons b bytes ih =>
    rw [List.flatMap_cons, List.append_assoc, decode_encodeByte, ih, List.cons_append]

/-- What an escaped byte is written with. -/
theorem eq_percent_or_isAlphanum_of_mem_encodeByte {b : UInt8} {c : Char}
    (h : c ∈ encodeByte b) : c = '%' ∨ c.isAlphanum = true := by
  have hb : b.toNat < 256 := b.toNat_lt
  simp only [encodeByte, List.mem_cons, List.not_mem_nil, or_false] at h
  rcases h with rfl | rfl | rfl
  · exact Or.inl rfl
  · exact Or.inr (isAlphanum_hexDigit _ (by omega))
  · exact Or.inr (isAlphanum_hexDigit _ (by omega))

theorem decode_encodeChar_of_ne {c : Char} (hc : c ≠ '%') (escaped : Char → Bool)
    (rest : List Char) :
    decode (encodeChar escaped c ++ rest) = Utf8.encode [c] ++ decode rest := by
  unfold encodeChar
  split
  · exact decode_cons_of_ne hc rest
  · exact decode_encodeBytes _ rest

/-- A set that has the mark of the escapes itself loses nothing. -/
theorem decode_encodeChar {escaped : Char → Bool} (hmark : escaped '%' = true) (c : Char)
    (rest : List Char) :
    decode (encodeChar escaped c ++ rest) = Utf8.encode [c] ++ decode rest := by
  by_cases hc : c = '%'
  · subst hc
    rw [encodeChar, hmark, Bool.not_true, Bool.and_false, if_neg Bool.false_ne_true]
    exact decode_encodeBytes _ rest
  · exact decode_encodeChar_of_ne hc escaped rest

end Percent

end SeriesGateway
