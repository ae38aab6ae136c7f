import SeriesGateway.Proofs.Timestamp.Columns
import SeriesGateway.Text.Utf8

namespace SeriesGateway.Timestamp.Canonical

variable {c : Char} {cs : List Char} {col : Option Char} {b : UInt8} {i : ℕ}
  {cols : List (Option Char)} {bytes : List UInt8}

/-- A byte in its column: the first one of the character there, or a further one where none is. -/
inductive Stands : Option Char → UInt8 → Prop
  | first {c : Char} {b : UInt8} {tail : List UInt8} (h : String.utf8EncodeChar c = b :: tail) :
      Stands (some c) b
  | further {b : UInt8} (h : ¬b.IsUTF8FirstByte) : Stands none b

theorem stands_utf8EncodeChar (c : Char) :
    List.Forall₂ Stands (some c :: List.replicate (c.utf8Size - 1) none)
      (String.utf8EncodeChar c) := by
  have hlength := String.length_utf8EncodeChar c
  have hfurther {i : ℕ} (hi : i < (String.utf8EncodeChar c).length) (hpos : i ≠ 0) :
      Stands none (String.utf8EncodeChar c)[i] :=
    .further (mt UInt8.isUTF8FirstByte_getElem_utf8EncodeChar.1 hpos)
  cases hbytes : String.utf8EncodeChar c with
  | nil => exact absurd hbytes String.utf8EncodeChar_ne_nil
  | cons b tail =>
    simp only [hbytes, List.length_cons] at hlength hfurther
    refine .cons (.first hbytes) (List.forall₂_iff_get.2 ⟨?_, fun i _ hi => ?_⟩)
    · rw [List.length_replicate]
      omega
    · simpa using hfurther (Nat.succ_lt_succ hi) i.succ_ne_zero

/-- In every column of a text stands one of its bytes. -/
theorem stands_encode (cs : List Char) : List.Forall₂ Stands (columns cs) (Utf8.encode cs) := by
  induction cs with
  | nil => exact .nil
  | cons c cs ih =>
    rw [columns_cons, ← List.cons_append]
    exact List.rel_append (stands_utf8EncodeChar c) ih

theorem Stands.isUTF8FirstByte_iff (h : Stands col b) : b.IsUTF8FirstByte ↔ col ≠ none := by
  cases h with
  | @first c _ _ h =>
    have hfirst := UInt8.isUTF8FirstByte_getElem_zero_utf8EncodeChar (c := c)
    simp only [h, List.getElem_cons_zero] at hfirst
    simp [hfirst]
  | further h => simp [h]

theorem narrow_of_utf8EncodeChar {tail : List UInt8} (h : String.utf8EncodeChar c = b :: tail)
    (hb : b.toNat ≤ 127) : c.utf8Size = 1 := by
  rw [Char.utf8Size_eq_one_iff]
  by_contra hwide
  have hwide : ¬c.val.toNat ≤ 127 := hwide
  simp only [String.utf8EncodeChar, if_neg hwide] at h
  split_ifs at h <;>
  · obtain ⟨rfl, -⟩ := List.cons.inj h
    simp only [UInt8.toNat_ofNat'] at hb
    omega

theorem ofUInt8_eq_iff (hc : c.utf8Size = 1) :
    Char.ofUInt8 b = c ↔ String.utf8EncodeChar c = [b] := by
  rw [String.utf8EncodeChar_eq_singleton hc, List.cons.injEq, and_iff_left rfl]
  constructor
  · rintro rfl
    exact UInt8.toUInt8_toUInt32 b
  · rintro rfl
    have hsmall : c.val.toNat ≤ 127 := Char.utf8Size_eq_one_iff.1 hc
    apply Char.ext
    rw [Char.ofUInt8, ← UInt32.toNat_inj, UInt8.toNat_toUInt32, UInt32.toNat_toUInt8]
    exact Nat.mod_eq_of_lt (by omega)

/-- A character of one byte is told by it. -/
theorem Stands.eq_some_iff (h : Stands col b) (hc : c.utf8Size = 1) :
    col = some c ↔ Char.ofUInt8 b = c := by
  have hone : String.utf8EncodeChar c = [c.val.toUInt8] := String.utf8EncodeChar_eq_singleton hc
  rw [ofUInt8_eq_iff hc]
  constructor
  · rintro rfl
    cases h with
    | first h =>
      rw [hone] at h ⊢
      rw [(List.cons.inj h).1]
  · intro hbyte
    cases h with
    | @first d _ _ h =>
      have hsmall : c.val.toNat ≤ 127 := Char.utf8Size_eq_one_iff.1 hc
      have hb : b.toNat ≤ 127 := by
        rw [← (List.cons.inj (hone.symm.trans hbyte)).1, UInt32.toNat_toUInt8]
        omega
      have hd := narrow_of_utf8EncodeChar h hb
      obtain ⟨-, rfl⟩ := List.cons.inj ((String.utf8EncodeChar_eq_singleton hd).symm.trans h)
      rw [← (ofUInt8_eq_iff hd).2 h, (ofUInt8_eq_iff hc).2 hbyte]
    | further h =>
      have hfirst := UInt8.isUTF8FirstByte_getElem_zero_utf8EncodeChar (c := c)
      simp only [hbyte, List.getElem_cons_zero] at hfirst
      exact absurd hfirst h

theorem head?_columns_ne (cs : List Char) : (columns cs).head? ≠ some none := by
  cases cs with
  | nil => simp [columns]
  | cons c cs => simp [columns_cons]

/-- Behind a character of one byte the next one begins. -/
theorem getElem?_columns_succ (hc : c.utf8Size = 1) (h : (columns cs)[i]? = some (some c)) :
    (columns cs)[i + 1]? ≠ some none := by
  induction cs generalizing i with
  | nil => cases h
  | cons d ds ih =>
    rw [columns_cons] at h ⊢
    rw [List.getElem?_cons_succ]
    cases i with
    | zero =>
      cases h
      rw [hc, Nat.sub_self, List.replicate_zero, List.nil_append, ← List.head?_eq_getElem?]
      exact head?_columns_ne ds
    | succ i =>
      rw [List.getElem?_cons_succ] at h
      have hbehind : d.utf8Size - 1 ≤ i := by
        by_contra hlt
        rw [List.getElem?_append_left (by rw [List.length_replicate]; omega)] at h
        cases List.eq_of_mem_replicate (List.mem_of_getElem? h)
      rw [List.getElem?_append_right (by rw [List.length_replicate]; omega),
        List.length_replicate] at h ⊢
      rw [Nat.sub_add_comm hbehind]
      exact ih h

theorem exists_stands (h : List.Forall₂ Stands cols bytes) (hb : bytes[i]? = some b) :
    ∃ col, cols[i]? = some col ∧ Stands col b := by
  obtain ⟨hi, rfl⟩ := List.getElem?_eq_some_iff.1 hb
  have hcols : i < cols.length := h.length_eq ▸ hi
  exact ⟨cols[i], List.getElem?_eq_getElem hcols, h.get hcols hi⟩

/-- Characters of one byte fill the columns exactly if the bytes tell them. -/
theorem eq_map_some_iff (h : List.Forall₂ Stands cols bytes) (hcs : ∀ c ∈ cs, c.utf8Size = 1) :
    cols = cs.map some ↔ bytes.map Char.ofUInt8 = cs := by
  induction h generalizing cs with
  | nil => cases cs <;> simp
  | cons hcol _ ih =>
    cases cs with
    | nil => simp
    | cons c cs =>
      obtain ⟨hc, hcs⟩ := List.forall_mem_cons.1 hcs
      rw [List.map_cons, List.map_cons, List.cons.injEq, List.cons.injEq, hcol.eq_some_iff hc,
        ih hcs]

theorem narrow_of_below? {bound n : ℕ} (h : Numeral.below? bound cs = some n) :
    ∀ c ∈ cs, c.utf8Size = 1 := by
  obtain ⟨-, digits, hcs, -, hdigits, -⟩ := Numeral.below?_eq_some_iff.1 h
  have hnarrow : ∀ c ∈ digits, c.utf8Size = 1 := fun c hc =>
    Numeral.utf8Size_of_isDigit (hdigits c hc)
  rcases hcs with rfl | rfl
  · exact hnarrow
  · exact List.forall_mem_cons.2 ⟨rfl, hnarrow⟩

/-- A number is read off bytes as it is read off the columns. -/
theorem below?_bytes (h : List.Forall₂ Stands cols bytes) (bound : ℕ) :
    Numeral.below? bound (bytes.map Char.ofUInt8) =
      (cols.mapM id).bind (Numeral.below? bound) := by
  refine Option.ext fun n => ?_
  rw [Option.bind_eq_some_iff]
  constructor
  · intro hn
    exact ⟨_, mapM_id_eq_some_iff.2 ((eq_map_some_iff h (narrow_of_below? hn)).2 rfl), hn⟩
  · rintro ⟨cs, hcs, hn⟩
    rwa [(eq_map_some_iff h (narrow_of_below? hn)).1 (mapM_id_eq_some_iff.1 hcs)]

end SeriesGateway.Timestamp.Canonical
